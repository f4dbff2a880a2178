import SchemaStructs.Files.Tree
import SchemaStructs.Proofs.Json.Number

/-!
# Documents with other line breaks

Text that is read from a file has its line breaks unified.  White space, words, the parts of a
number and the digits of an escape are read from such a text as they are from the text itself, and
what is left then is what was left before, with its line breaks unified.  This is so because none of
them looks at a line break more closely than at other white space: a carriage return is skipped
where a newline is (`Json.dropWhile_isSpace_unify`), and both end a run of digits
(`Json.digitRun_unify`), a word (`Json.find?_words_unify`) and an escape (`Json.hexFour?_unify`).
-/

namespace SchemaStructs

namespace Json

open FileTree (unifyLineBreaks)

variable {t u rest : Text} {c d : Char} {pos pos' start start' fuel fuel' room n m : Nat}

/-! ### Characters -/

@[simp] theorem unify_nil : unifyLineBreaks [] = [] := by rw [unifyLineBreaks]

theorem unify_cons (hc : c ≠ '\r') (t : Text) :
    unifyLineBreaks (c :: t) = c :: unifyLineBreaks t := by
  rw [unifyLineBreaks, if_neg hc]
  exact fun _ h => absurd h hc

/-- A carriage return becomes a newline. -/
theorem exists_unify_return (t : Text) : ∃ u, unifyLineBreaks ('\r' :: t) = '\n' :: u := by
  cases t with
  | nil => exact ⟨_, rfl⟩
  | cons c t =>
    by_cases hc : c = '\n'
    · subst hc
      exact ⟨_, by rw [unifyLineBreaks]⟩
    · refine ⟨unifyLineBreaks (c :: t), ?_⟩
      rw [unifyLineBreaks, if_pos rfl]
      exact fun _ _ h => hc (List.cons.inj h).1

theorem unify_append (hu : '\r' ∉ u) (t : Text) :
    unifyLineBreaks (u ++ t) = u ++ unifyLineBreaks t := by
  induction u with
  | nil => rfl
  | cons c u ih =>
    rw [List.mem_cons, not_or] at hu
    rw [List.cons_append, unify_cons (Ne.symm hu.1), ih hu.2, List.cons_append]

/-- What is no newline was there before. -/
theorem exists_of_unify_eq_cons (h : unifyLineBreaks t = d :: u) (hd : d ≠ '\n') :
    ∃ t', t = d :: t' ∧ unifyLineBreaks t' = u ∧ d ≠ '\r' := by
  cases t with
  | nil => rw [unify_nil] at h; cases h
  | cons c t =>
    by_cases hc : c = '\r'
    · subst hc
      obtain ⟨v, hv⟩ := exists_unify_return t
      rw [hv] at h
      exact absurd (List.cons.inj h).1.symm hd
    · rw [unify_cons hc] at h
      obtain ⟨rfl, rfl⟩ := List.cons.inj h
      exact ⟨t, rfl, rfl, hc⟩

@[simp] theorem unify_eq_nil_iff : unifyLineBreaks t = [] ↔ t = [] := by
  constructor
  · intro h
    cases t with
    | nil => rfl
    | cons c t =>
      by_cases hc : c = '\r'
      · subst hc
        obtain ⟨u, hu⟩ := exists_unify_return t
        rw [hu] at h
        cases h
      · rw [unify_cons hc] at h
        cases h
  · rintro rfl
    exact unify_nil

theorem length_unify_le (t : Text) : (unifyLineBreaks t).length ≤ t.length := by
  fun_induction unifyLineBreaks t with
  | case1 => exact Nat.le_refl _
  | case2 rest ih => exact Nat.le_succ_of_le (Nat.succ_le_succ ih)
  | case3 c rest hpair ih => exact Nat.succ_le_succ ih

/-! ### Runs of characters -/

variable {p : Char → Bool}

/-- A run of characters other than line breaks stays as it is. -/
theorem takeWhile_unify (hreturn : p '\r' = false) (hnewline : p '\n' = false) (t : Text) :
    (unifyLineBreaks t).takeWhile p = t.takeWhile p ∧
      (unifyLineBreaks t).dropWhile p = unifyLineBreaks (t.dropWhile p) := by
  induction t with
  | nil => simp
  | cons c t ih =>
    by_cases hc : c = '\r'
    · subst hc
      obtain ⟨u, hu⟩ := exists_unify_return t
      simp [hu, hreturn, hnewline]
    · rw [unify_cons hc]
      by_cases hp : p c = true
      · simp [hp, ih.1, ih.2]
      · simp [hp, unify_cons hc]

/-- White space is skipped alike. -/
theorem dropWhile_isSpace_unify (t : Text) :
    (unifyLineBreaks t).dropWhile isSpace = unifyLineBreaks (t.dropWhile isSpace) := by
  fun_induction unifyLineBreaks t with
  | case1 => rfl
  | case2 rest ih => exact ih
  | case3 c rest hpair ih =>
    by_cases hc : c = '\r'
    · subst hc
      rw [if_pos rfl]
      exact ih
    · rw [if_neg hc, List.dropWhile_cons, List.dropWhile_cons, ih]
      split
      · rfl
      · rw [unify_cons hc]

/-! ### Numbers -/

theorem digitRun_unify (t : Text) :
    digitRun (unifyLineBreaks t) = ((digitRun t).1, unifyLineBreaks (digitRun t).2) := by
  obtain ⟨htake, hdrop⟩ := takeWhile_unify (p := Char.isDigit) rfl rfl t
  rw [digitRun, htake, hdrop, digitRun]

theorem fractionPart_of_ne (h : ∀ rest, t ≠ '.' :: rest) : fractionPart t = ([], t) := by
  rw [fractionPart]
  exact fun rest heq => h rest heq

theorem fractionPart_unify (t : Text) :
    fractionPart (unifyLineBreaks t) =
      ((fractionPart t).1, unifyLineBreaks (fractionPart t).2) := by
  by_cases hpoint : ∃ rest, t = '.' :: rest
  · obtain ⟨rest, rfl⟩ := hpoint
    rw [unify_cons (by decide), fractionPart, fractionPart, digitRun_unify]
    dsimp only
    split
    · rw [unify_cons (by decide)]
    · rfl
  · rw [fractionPart_of_ne fun rest h => hpoint ⟨rest, h⟩]
    refine fractionPart_of_ne fun rest h => ?_
    obtain ⟨t', ht, -⟩ := exists_of_unify_eq_cons h (by decide)
    exact hpoint ⟨t', ht⟩

theorem wholePart_unify (t : Text) :
    wholePart (unifyLineBreaks t) =
      (wholePart t).map fun (ds, after) => (ds, unifyLineBreaks after) := by
  by_cases hzero : ∃ rest, t = '0' :: rest
  · obtain ⟨rest, rfl⟩ := hzero
    rw [unify_cons (by decide)]
    rfl
  · have hplain : ∀ rest, unifyLineBreaks t ≠ '0' :: rest := fun rest h => by
      obtain ⟨t', ht, -⟩ := exists_of_unify_eq_cons h (by decide)
      exact hzero ⟨t', ht⟩
    rw [wholePart, wholePart, digitRun_unify]
    · dsimp only
      split <;> rfl
    · exact fun rest h => hzero ⟨rest, h⟩
    · exact hplain

theorem signPart_unify (t : Text) :
    signPart (unifyLineBreaks t) =
      ((signPart t).1, (signPart t).2.1, unifyLineBreaks (signPart t).2.2) := by
  by_cases hminus : ∃ rest, t = '-' :: rest
  · obtain ⟨rest, rfl⟩ := hminus
    rw [unify_cons (by decide)]
    rfl
  · rw [signPart, signPart]
    · exact fun rest h => hminus ⟨rest, h⟩
    · intro rest h
      obtain ⟨t', ht, -⟩ := exists_of_unify_eq_cons h (by decide)
      exact hminus ⟨t', ht⟩

theorem exponentSign_unify (t : Text) :
    exponentSign (unifyLineBreaks t) =
      ((exponentSign t).1, (exponentSign t).2.1, unifyLineBreaks (exponentSign t).2.2) := by
  by_cases hsign : ∃ c rest, t = c :: rest ∧ (c = '-' ∨ c = '+')
  · obtain ⟨c, rest, rfl, rfl | rfl⟩ := hsign
    all_goals
      rw [unify_cons (by decide)]
      rfl
  · have hplain : ∀ c rest, unifyLineBreaks t = c :: rest → ¬ (c = '-' ∨ c = '+') := by
      intro c rest h hc
      have hne : c ≠ '\n' := by rcases hc with rfl | rfl <;> decide
      obtain ⟨t', ht, -⟩ := exists_of_unify_eq_cons h hne
      exact hsign ⟨c, t', ht, hc⟩
    rw [exponentSign, exponentSign]
    · exact fun rest h => hsign ⟨_, rest, h, .inl rfl⟩
    · exact fun rest h => hsign ⟨_, rest, h, .inr rfl⟩
    · exact fun rest h => hplain _ rest h (.inl rfl)
    · exact fun rest h => hplain _ rest h (.inr rfl)

theorem exponentPart_unify (t : Text) :
    exponentPart (unifyLineBreaks t) = (exponentPart t).map fun (negative, ds, size, after) =>
      (negative, ds, size, unifyLineBreaks after) := by
  cases t with
  | nil => rw [unify_nil]; rfl
  | cons e rest =>
    by_cases he : e = '\r'
    · subst he
      obtain ⟨u, hu⟩ := exists_unify_return rest
      rw [hu, exponentPart_eq, exponentPart_eq]
      rfl
    · rw [unify_cons he, exponentPart_eq, exponentPart_eq, exponentSign_unify]
      split
      · rw [exponentDigits, exponentDigits]
        dsimp only
        rw [digitRun_unify]
        split <;> rfl
      · rfl

/-! ### Words -/

/-- A word starts the text before and after. -/
theorem isPrefixOf_unify (hreturn : '\r' ∉ u) (hnewline : '\n' ∉ u) (t : Text) :
    u.isPrefixOf (unifyLineBreaks t) = u.isPrefixOf t := by
  induction u generalizing t with
  | nil => rfl
  | cons c u ih =>
    rw [List.mem_cons, not_or] at hreturn hnewline
    cases t with
    | nil => rw [unify_nil]
    | cons d t =>
      by_cases hd : d = '\r'
      · subst hd
        obtain ⟨v, hv⟩ := exists_unify_return t
        rw [hv, List.isPrefixOf_cons_cons, List.isPrefixOf_cons_cons,
          beq_false_of_ne (Ne.symm hreturn.1), beq_false_of_ne (Ne.symm hnewline.1),
          Bool.false_and, Bool.false_and]
      · rw [unify_cons hd, List.isPrefixOf_cons_cons, List.isPrefixOf_cons_cons,
          ih hreturn.2 hnewline.2]

/-- The words have no line breaks. -/
theorem not_mem_words {m : Text × Json} (hm : m ∈ words) : '\r' ∉ m.1 ∧ '\n' ∉ m.1 := by
  have hall : ∀ m ∈ words, '\r' ∉ m.1 ∧ '\n' ∉ m.1 := by decide +kernel
  exact hall m hm

/-- The same word starts the text before and after. -/
theorem find?_words_unify (t : Text) :
    (words.find? fun (word, _) => word.isPrefixOf (unifyLineBreaks t)) =
      words.find? fun (word, _) => word.isPrefixOf t := by
  have hsame : ∀ m ∈ words, m.1.isPrefixOf (unifyLineBreaks t) = m.1.isPrefixOf t :=
    fun m hm => isPrefixOf_unify (not_mem_words hm).1 (not_mem_words hm).2 t
  rw [← List.head?_filter, ← List.head?_filter, List.filter_congr hsame]

/-! ### Escapes -/

theorem hexFour?_eq_some_iff : hexFour? t = some (n, rest) ↔
    ∃ a b c d, t = a :: b :: c :: d :: rest ∧ rest ≠ [] ∧
      ∃ i j k l, Text.hexDigit? a = some i ∧ Text.hexDigit? b = some j ∧
        Text.hexDigit? c = some k ∧ Text.hexDigit? d = some l ∧
        ((i * 16 + j) * 16 + k) * 16 + l = n := by
  constructor
  · intro h
    unfold hexFour? at h
    split at h
    · split at h
      · cases h
      · rename_i hne
        split at h
        · cases h
          exact ⟨_, _, _, _, rfl, fun hnil => hne (List.isEmpty_iff.2 hnil), _, _, _, _,
            ‹_›, ‹_›, ‹_›, ‹_›, rfl⟩
        · cases h
    · cases h
  · rintro ⟨a, b, c, d, rfl, hne, i, j, k, l, ha, hb, hc, hd, rfl⟩
    have hempty : rest.isEmpty = false := by simpa using hne
    rw [hexFour?, hempty]
    simp only [ha, hb, hc, hd, Bool.false_eq_true, if_false]

theorem ne_break_of_hexDigit? (h : Text.hexDigit? c = some n) : c ≠ '\r' ∧ c ≠ '\n' := by
  constructor
  all_goals
    rintro rfl
    cases h

/-- Four hexadecimal digits are the same before and after. -/
theorem hexFour?_unify (t : Text) :
    hexFour? (unifyLineBreaks t) =
      (hexFour? t).map fun (n, rest) => (n, unifyLineBreaks rest) := by
  cases hfour : hexFour? t with
  | some found =>
    obtain ⟨n, rest⟩ := found
    obtain ⟨a, b, c, d, rfl, hne, i, j, k, l, ha, hb, hc, hd, rfl⟩ := hexFour?_eq_some_iff.1 hfour
    refine hexFour?_eq_some_iff.2 ⟨a, b, c, d, ?_, mt unify_eq_nil_iff.1 hne, i, j, k, l, ha, hb,
      hc, hd, rfl⟩
    rw [unify_cons (ne_break_of_hexDigit? ha).1, unify_cons (ne_break_of_hexDigit? hb).1,
      unify_cons (ne_break_of_hexDigit? hc).1, unify_cons (ne_break_of_hexDigit? hd).1]
  | none =>
    rw [Option.map_none, Option.eq_none_iff_forall_ne_some]
    rintro ⟨n, rest⟩ h
    obtain ⟨a, b, c, d, ht, hne, i, j, k, l, ha, hb, hc, hd, rfl⟩ := hexFour?_eq_some_iff.1 h
    -- the digits were there before
    obtain ⟨t, rfl, ht, -⟩ := exists_of_unify_eq_cons ht (ne_break_of_hexDigit? ha).2
    obtain ⟨t, rfl, ht, -⟩ := exists_of_unify_eq_cons ht (ne_break_of_hexDigit? hb).2
    obtain ⟨t, rfl, ht, -⟩ := exists_of_unify_eq_cons ht (ne_break_of_hexDigit? hc).2
    obtain ⟨t, rfl, ht, -⟩ := exists_of_unify_eq_cons ht (ne_break_of_hexDigit? hd).2
    have hbefore := hexFour?_eq_some_iff.2
      ⟨a, b, c, d, rfl, fun hnil => hne (ht ▸ hnil ▸ unify_nil), i, j, k, l, ha, hb, hc, hd, rfl⟩
    rw [hfour] at hbefore
    cases hbefore

end Json

end SchemaStructs
