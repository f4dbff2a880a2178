import Mathlib.Data.List.Forall2
import Mathlib.Data.List.Infix
import SchemaStructs.Proofs.Naming.Plain
import SchemaStructs.Text.Identifier

/-!
# Initialisms that normalizing leaves

Initialisms are spelled in capitals before separators are folded, and in one pass from left to
right.  So normalizing a name once more can change it again: folding turns `foo_api` into `fooApi`,
and the capitals of one initialism turn `Apidoc` into `APIdoc`, where another one starts.

* `Naming.capitalize_eq_self_iff`: spelling initialisms in capitals changes every text in which one
  stands, and no other;
* `Naming.normalize_eq_replaceInitialisms`: a text without separators is not folded, so normalizing
  it is spelling its initialisms in capitals;
* `Naming.Respelled.exists_of_append`: folding only drops underscores and puts characters in upper
  case, so the letters of an initialism that stands in the result stood in the text before;
* `Naming.normalize_twice`: an identifier is normalized for good exactly if no initialism stands in
  the result, and one that does has emerged (`Naming.Emerges`) on the way.
-/

namespace SchemaStructs

namespace Naming

variable {s t x before after rest : Text} {word tail : Text} {c d first : Char}

/-! ### Characters of initialisms -/

/-- An ASCII character that is neither a capital nor an underscore, as those of an initialism after
its first one. -/
structure IsSmall (c : Char) : Prop where
  /-- The character is in ASCII. -/
  val_lt : c.val < 128
  /-- It is no capital. -/
  isUpper_eq : c.isUpper = false
  /-- It is no underscore. -/
  ne_underscore : c ≠ '_'

/-- The text is a capital and small letters, the first of which has a capital of its own. -/
def isTitled : Text → Bool
  | first :: second :: others => first.isUpper && second.toUpper.isUpper &&
      (second :: others).all fun c => decide (c.val < 128) && !c.isUpper && c != '_'
  | _ => false

/-- An initialism starts with a capital, and a small letter follows. -/
theorem exists_of_mem_initialisms (h : word ∈ initialisms) :
    ∃ first second others, word = first :: second :: others ∧ first.isUpper = true ∧
      second.toUpper.isUpper = true ∧ ∀ c ∈ second :: others, IsSmall c := by
  have hall : ∀ word ∈ initialisms, isTitled word = true := by decide +kernel
  have hword := hall word h
  unfold isTitled at hword
  split at hword
  · rename_i first second others
    simp only [Bool.and_eq_true, List.all_eq_true, decide_eq_true_eq, Bool.not_eq_true',
      bne_iff_ne] at hword
    exact ⟨first, second, others, rfl, hword.1.1, hword.1.2, fun c hc =>
      ⟨(hword.2 c hc).1.1, (hword.2 c hc).1.2, (hword.2 c hc).2⟩⟩
  · cases hword

theorem upperChar_of_isUpper (h : c.isUpper = true) : Text.upperChar c = [c] := by
  have hascii : ∀ n < 128, (Char.ofNat n).isUpper = true →
      (Char.ofNat n).toUpper = Char.ofNat n := by
    decide +kernel
  have hlt := val_lt_of_isAlphanum (isAlphanum_of_isUpper_or_isDigit (.inl h))
  rw [Text.upperChar_ascii hlt,
    Text.forall_ascii (P := fun c => c.isUpper = true → c.toUpper = c) hascii hlt h]

/-- The upper-case form of a character is the character, or has no ASCII characters but capitals. -/
theorem upperChar_eq_or (c : Char) : Text.upperChar c = [c] ∨
    ∀ d ∈ Text.upperChar c, d.isUpper = true ∨ 128 ≤ d.toNat := by
  by_cases hc : c ∈ Text.upperChar c
  · exact .inl (Text.upperChar_of_mem hc)
  · refine .inr fun d hd => (Text.eq_or_isUpper_of_mem_upperChar hd).resolve_left ?_
    rintro rfl
    exact hc hd

/-- An upper-case form is not empty. -/
theorem upperChar_ne_nil (c : Char) : Text.upperChar c ≠ [] := by
  have hlong : Text.upperLong.all (fun p => !p.2.isEmpty) = true := by decide +kernel
  rw [Text.upperChar]
  split
  · exact List.cons_ne_nil _ _
  · split
    · rename_i long hfound
      have hne := List.all_eq_true.1 hlong _ (List.mem_of_find?_eq_some hfound)
      simpa using hne
    · exact List.cons_ne_nil _ _

theorem IsSmall.not_isUpper_or (h : IsSmall c) : ¬ (c.isUpper = true ∨ 128 ≤ c.toNat) := by
  rintro (hupper | hascii)
  · rw [h.isUpper_eq] at hupper
    cases hupper
  · exact absurd (UInt32.lt_iff_toNat_lt.1 h.val_lt) (Nat.not_lt.2 hascii)

/-! ### Spelling initialisms in capitals -/

theorem initialismAt?_eq_none_iff :
    initialismAt? t = none ↔ ∀ word ∈ initialisms, ¬ word <+: t := by
  simp [initialismAt?, List.find?_eq_none]

/-- An initialism does not reach beyond a capital that is not its first letter. -/
theorem prefix_append_cons_iff (hword : word ∈ initialisms) (hs : s ≠ []) (hc : c.isUpper = true) :
    word <+: s ++ c :: rest ↔ word <+: s := by
  obtain ⟨first, second, others, rfl, -, -, hsmall⟩ := exists_of_mem_initialisms hword
  obtain ⟨a, s, rfl⟩ := List.exists_cons_of_ne_nil hs
  refine ⟨fun h => ?_, fun h => h.trans (List.prefix_append _ _)⟩
  rw [List.cons_append, List.cons_prefix_cons] at h
  refine List.cons_prefix_cons.2 ⟨h.1, ?_⟩
  rcases List.prefix_or_prefix_of_prefix h.2 (List.prefix_append s (c :: rest)) with hin | hout
  · exact hin
  · -- the capital would be a character of the initialism
    obtain ⟨part, hpart⟩ := hout
    rw [← hpart, List.prefix_append_right_inj] at h
    rw [← hpart] at hsmall ⊢
    cases part with
    | nil => rw [List.append_nil]
    | cons d part =>
      obtain ⟨rfl, -⟩ := List.cons_prefix_cons.1 h.2
      have hd := (hsmall d (List.mem_append_right s List.mem_cons_self)).isUpper_eq
      rw [hc] at hd
      cases hd

theorem initialismAt?_append_cons (hs : s ≠ []) (hc : c.isUpper = true) :
    initialismAt? (s ++ c :: rest) = initialismAt? s := by
  rw [initialismAt?, initialismAt?, ← List.head?_filter, ← List.head?_filter]
  refine congrArg _ (List.filter_congr fun word hword => ?_)
  rw [Bool.eq_iff_iff, List.isPrefixOf_iff_prefix, List.isPrefixOf_iff_prefix]
  exact prefix_append_cons_iff hword hs hc

/-- What stands before a capital and what starts there are spelled by themselves. -/
theorem capitalize_append_cons (hc : c.isUpper = true) (skip : Nat) (hskip : skip ≤ s.length) :
    capitalize skip (s ++ c :: rest) = capitalize skip s ++ capitalize 0 (c :: rest) := by
  induction s generalizing skip with
  | nil => rw [Nat.le_zero.1 hskip]; rfl
  | cons d s ih =>
    cases skip with
    | succ n => exact ih n (Nat.le_of_succ_le_succ hskip)
    | zero =>
      rw [List.cons_append, capitalize, ← List.cons_append,
        initialismAt?_append_cons (List.cons_ne_nil d s) hc, capitalize]
      cases hword : initialismAt? (d :: s) with
      | none => exact congrArg (d :: ·) (ih 0 (Nat.zero_le _))
      | some word =>
        have hlength := congrArg List.length (eq_append_of_initialismAt? hword).2
        rw [List.length_append, List.length_cons] at hlength
        simp only
        rw [ih _ (by omega), List.append_assoc]

/-- Every character stays or is put in upper case. -/
theorem forall₂_capitalize (skip : Nat) (t : Text) :
    List.Forall₂ (fun c d => d = c ∨ Text.upperChar c = [d]) (t.drop skip) (capitalize skip t) := by
  have hlength : ∀ word ∈ initialisms, word.length ≠ 0 := by decide +kernel
  have hascii : ∀ word ∈ initialisms, (word.all fun c => decide (c.val < 128)) = true := by
    decide +kernel
  induction t generalizing skip with
  | nil => rw [List.drop_nil]; exact .nil
  | cons c rest ih =>
    cases skip with
    | succ n => exact ih n
    | zero =>
      rw [capitalize, List.drop_zero]
      split
      · rename_i word hword
        obtain ⟨hmem, htext⟩ := eq_append_of_initialismAt? hword
        obtain ⟨n, hn⟩ := Nat.exists_eq_succ_of_ne_zero (hlength word hmem)
        have hothers := ih n
        rw [hn, List.drop_succ_cons] at htext
        rw [htext, hn, Nat.succ_sub_one]
        refine List.rel_append (List.forall₂_map_right_iff.2 (List.forall₂_same.2 ?_)) hothers
        intro d hd
        have hlt := of_decide_eq_true (List.all_eq_true.1 (hascii word hmem) d hd)
        exact .inr (Text.upperChar_ascii hlt)
      · exact .cons (.inl rfl) (ih 0)

/-- **Spelling initialisms in capitals keeps the texts without initialisms, and no others.** -/
theorem capitalize_eq_self_iff : capitalize 0 t = t ↔ ∀ word ∈ initialisms, ¬ word <:+: t := by
  have hne : ∀ word ∈ initialisms, word ≠ [] := by decide +kernel
  induction t with
  | nil => simpa [capitalize] using hne
  | cons c rest ih =>
    have hcons : (∀ word ∈ initialisms, ¬ word <:+: c :: rest) ↔
        initialismAt? (c :: rest) = none ∧ ∀ word ∈ initialisms, ¬ word <:+: rest := by
      simp only [initialismAt?_eq_none_iff, List.infix_cons_iff, not_or, forall_and]
    refine Iff.trans ?_ ((and_congr_right' ih).trans hcons.symm)
    rw [capitalize]
    cases hword : initialismAt? (c :: rest) with
    | none => simp
    | some word =>
      -- the second letter of the initialism is spelled in another way
      refine iff_of_false (fun heq => ?_) (fun h => by cases h.1)
      obtain ⟨hmem, htext⟩ := eq_append_of_initialismAt? hword
      rw [htext] at heq
      have hupper := (List.append_inj heq (List.length_map _)).1
      obtain ⟨first, second, others, rfl, -, hsecond, hsmall⟩ := exists_of_mem_initialisms hmem
      rw [List.map_cons, List.map_cons, List.cons.injEq, List.cons.injEq] at hupper
      rw [hupper.2.1, (hsmall second List.mem_cons_self).isUpper_eq] at hsecond
      cases hsecond

/-- Where an initialism stands, there are two capitals afterwards. -/
theorem exists_of_prefix (hword : word ∈ initialisms) (h : word <+: t) :
    ∃ c d rest, capitalize 0 t = c :: d :: rest ∧ d.isUpper = true := by
  cases t with
  | nil =>
    obtain ⟨first, second, others, rfl, -⟩ := exists_of_mem_initialisms hword
    exact absurd (List.prefix_nil.1 h) (List.cons_ne_nil _ _)
  | cons a rest =>
    rw [capitalize]
    cases hfound : initialismAt? (a :: rest) with
    | none => exact absurd h (initialismAt?_eq_none_iff.1 hfound word hword)
    | some found =>
      obtain ⟨first, second, others, rfl, -, hsecond, -⟩ :=
        exists_of_mem_initialisms (eq_append_of_initialismAt? hfound).1
      exact ⟨first.toUpper, second.toUpper, _, rfl, hsecond⟩

/-! ### Folding -/

theorem foldSeparator_eq_self {sep : Char} (h : sep ∉ t) : foldSeparator sep t = t := by
  rw [foldSeparator, Text.splitOn_eq_singleton h]
  exact List.append_nil t

theorem squish_eq_self (h : ' ' ∉ t) : squish t = t :=
  List.filter_eq_self.2 fun _ hc => bne_iff_ne.2 fun heq => h (heq ▸ hc)

/-- Spelling initialisms in capitals brings in no separators. -/
theorem not_mem_replaceInitialisms (hd : isSeparator d = true) (h : d ∉ t) :
    d ∉ replaceInitialisms t := by
  have hspelled : ∀ c : Char, c.isUpper = true ∨ c.isDigit = true → c ≠ d := by
    rintro c hc rfl
    rcases isSeparator_iff.1 hd with rfl | rfl | rfl <;> exact absurd hc (by decide)
  have hall := forall_mem_capitalize hspelled 0 fun c hc heq => h (heq ▸ hc)
  exact fun hmem => hall d hmem rfl

/-- A name without spaces and dashes is folded at its underscores only. -/
theorem normalize_eq_snakeToCamel (hspace : ' ' ∉ t) (hdash : '-' ∉ t) :
    normalize t = snakeToCamel (replaceInitialisms t) := by
  rw [normalize, squish_eq_self (not_mem_replaceInitialisms rfl hspace), dashToCamel,
    foldSeparator_eq_self (not_mem_replaceInitialisms rfl hdash)]

/-- **A name without separators is not folded.** -/
theorem normalize_eq_replaceInitialisms (h : ∀ c ∈ t, isSeparator c = false) :
    normalize t = replaceInitialisms t := by
  have hsep : ∀ {c}, isSeparator c = true → c ∉ t := fun hc hmem => by
    rw [h _ hmem] at hc
    cases hc
  rw [normalize_eq_snakeToCamel (hsep rfl) (hsep rfl), snakeToCamel,
    foldSeparator_eq_self (not_mem_replaceInitialisms rfl (hsep rfl))]

/-- Upper-casing brings in no separators of the given ones. -/
theorem upperClosed_not_mem {seps : Text} (hseps : seps.all isSeparator = true) :
    UpperClosed (· ∉ seps) := by
  intro c hc d hd hmem
  have hdsep := List.all_eq_true.1 hseps d hmem
  cases hcsep : isSeparator c with
  | true =>
    rw [upperChar_of_isSeparator hcsep, List.mem_singleton] at hd
    exact hc (hd ▸ hmem)
  | false =>
    rw [isSeparator_of_mem_upperChar hcsep hd] at hdsep
    cases hdsep

/-- Folding takes out its separator and brings in none of the others. -/
theorem not_mem_foldSeparator {sep : Char} {seps : Text}
    (hseps : (sep :: seps).all isSeparator = true) (h : ∀ c ∈ t, c ∉ seps) :
    ∀ c ∈ foldSeparator sep t, c ∉ sep :: seps := by
  refine forall_mem_foldSeparator (upperClosed_not_mem hseps) fun c hc => ?_
  by_cases heq : c = sep
  · exact .inl heq
  · exact .inr (List.not_mem_cons_of_ne_of_not_mem heq (h c hc))

/-- **A normalized name has no separators.** -/
theorem isSeparator_of_mem_normalize (t : Text) : ∀ c ∈ normalize t, isSeparator c = false := by
  -- one kind of separator goes with each pass
  have hsquished : ∀ c ∈ squish (replaceInitialisms t), c ∉ [' '] := fun c hc hmem => by
    rw [List.mem_singleton.1 hmem] at hc
    exact bne_iff_ne.1 (List.mem_filter.1 hc).2 rfl
  have hdashed : ∀ c ∈ dashToCamel (squish (replaceInitialisms t)), c ∉ ['-', ' '] :=
    not_mem_foldSeparator rfl hsquished
  have hall : ∀ c ∈ normalize t, c ∉ ['_', '-', ' '] := not_mem_foldSeparator rfl hdashed
  intro c hc
  rw [Bool.eq_false_iff]
  intro hsep
  refine hall c hc ?_
  rcases isSeparator_iff.1 hsep with rfl | rfl | rfl <;> simp

/-! ### Letters that stood there before -/

/-- The second text is the first one with some characters in upper case and some underscores
dropped. -/
inductive Respelled : Text → Text → Prop
  /-- Nothing is left. -/
  | nil : Respelled [] []
  /-- A character stays or is put in upper case. -/
  | put {c : Char} {form s t : Text} (hform : form = [c] ∨ form = Text.upperChar c)
    (h : Respelled s t) : Respelled (c :: s) (form ++ t)
  /-- An underscore goes. -/
  | drop {s t : Text} (h : Respelled s t) : Respelled ('_' :: s) t

namespace Respelled

variable {form later : Text} {second : Char}

theorem keep (c : Char) (h : Respelled s t) : Respelled (c :: s) (c :: t) := put (.inl rfl) h

theorem raise (c : Char) (h : Respelled s t) : Respelled (c :: s) (Text.upperChar c ++ t) :=
  put (.inr rfl) h

theorem refl : (t : Text) → Respelled t t
  | [] => .nil
  | c :: rest => keep c (refl rest)

theorem append {s' t' : Text} (h : Respelled s t) (h' : Respelled s' t') :
    Respelled (s ++ s') (t ++ t') := by
  induction h with
  | nil => exact h'
  | put hform _ ih =>
    rw [List.append_assoc]
    exact put hform ih
  | drop _ ih => exact .drop ih

theorem titleFrom (inside : Bool) (t : Text) : Respelled t (titleFrom inside t) := by
  induction t generalizing inside with
  | nil => exact .nil
  | cons c rest ih =>
    rw [Naming.titleFrom]
    split
    · split
      · exact keep c (ih true)
      · exact raise c (ih true)
    · exact keep c (ih false)

theorem snakeToCamel (t : Text) : Respelled t (snakeToCamel t) := by
  obtain ⟨first, others, hsplit, htext⟩ := Text.exists_of_splitOn '_' t
  rw [Naming.snakeToCamel, foldSeparator, hsplit]
  nth_rewrite 1 [htext]
  refine (refl first).append ?_
  clear hsplit htext
  induction others with
  | nil => exact .nil
  | cons piece others ih => exact .drop ((titleFrom false piece).append ih)

theorem of_forall₂ (h : List.Forall₂ (fun c d => d = c ∨ Text.upperChar c = [d]) s t) :
    Respelled s t := by
  induction h with
  | nil => exact .nil
  | @cons c d s t hd _ ih =>
    have hform : [d] = [c] ∨ [d] = Text.upperChar c := hd.imp (congrArg fun d => [d]) Eq.symm
    exact put hform ih

/-- What is put for a character is the character, or has no small character in it. -/
theorem eq_self_or_isUpper (hform : form = [c] ∨ form = Text.upperChar c) :
    form = [c] ∨ ∀ d ∈ form, d.isUpper = true ∨ 128 ≤ d.toNat := by
  rcases hform with hself | rfl
  · exact .inl hself
  · exact upperChar_eq_or c

/-- Small characters that a text starts with were at the start before, underscores apart. -/
theorem prefix_filter (h : Respelled s t) (hsmall : ∀ c ∈ tail, IsSmall c)
    (htail : tail <+: t.filter (· != '_')) : tail <+: s.filter (· != '_') := by
  induction h generalizing tail with
  | nil => exact htail
  | drop _ ih => exact ih hsmall htail
  | @put c form s t hform _ ih =>
    cases tail with
    | nil => exact List.nil_prefix
    | cons d tail =>
      obtain ⟨hd, htailSmall⟩ := List.forall_mem_cons.1 hsmall
      rcases eq_self_or_isUpper hform with rfl | hall
      · rw [List.singleton_append, List.filter_cons] at htail
        rw [List.filter_cons]
        split at htail
        · rename_i hc
          obtain ⟨rfl, hrest⟩ := List.cons_prefix_cons.1 htail
          rw [if_pos hc]
          exact List.cons_prefix_cons.2 ⟨rfl, ih htailSmall hrest⟩
        · rename_i hc
          rw [if_neg hc]
          exact ih hsmall htail
      · -- an upper-case form starts with no small character, and with no underscore
        have hne : form ≠ [] :=
          hform.elim (fun h => h ▸ List.cons_ne_nil c []) fun h => h ▸ upperChar_ne_nil c
        obtain ⟨e, others, rfl⟩ := List.exists_cons_of_ne_nil hne
        have hcapital := hall e List.mem_cons_self
        have hne : (e != '_') = true := bne_iff_ne.2 fun heq =>
          absurd hcapital (by rw [heq]; decide)
        rw [List.cons_append, List.filter_cons, if_pos hne] at htail
        obtain ⟨rfl, -⟩ := List.cons_prefix_cons.1 htail
        exact absurd hcapital hd.not_isUpper_or

/-- A character with a small one after it was put last for one character, or stands in what
follows. -/
theorem exists_or_getLast?_of_put (hform : form = [c] ∨ form = Text.upperChar c)
    (hsmall : IsSmall second) (ht : form ++ t = before ++ first :: second :: later) :
    (∃ before, t = before ++ first :: second :: later) ∨
      form.getLast? = some first ∧ t = second :: later := by
  rcases List.append_eq_append_iff.1 ht with ⟨part, -, hpart⟩ | ⟨part, hpart, hrest⟩
  · exact .inl ⟨_, hpart⟩
  · rcases part with _ | ⟨e, _ | ⟨e', part⟩⟩
    · exact .inl ⟨[], hrest.symm⟩
    · obtain ⟨rfl, hafter⟩ := List.cons.inj hrest
      exact .inr ⟨hpart ▸ List.getLast?_concat, hafter.symm⟩
    · -- the small character is the second one of an upper-case form at least
      obtain ⟨-, hafter⟩ := List.cons.inj hrest
      obtain ⟨rfl, -⟩ := List.cons.inj hafter
      rcases eq_self_or_isUpper hform with rfl | hall
      · have hlength := congrArg List.length hpart
        simp only [List.length_append, List.length_cons, List.length_nil] at hlength
        omega
      · exact absurd (hall second (hpart ▸ by simp)) hsmall.not_isUpper_or

/-- **The letters of an initialism stood in the text before**, the first one possibly not as a
capital, and the other ones possibly with underscores between them. -/
theorem exists_of_append (h : Respelled s t) (hword : first :: tail ∈ initialisms)
    (ht : t = before ++ first :: (tail ++ after)) :
    ∃ before c rest, s = before ++ c :: rest ∧ (Text.upperChar c).getLast? = some first ∧
      tail <+: rest.filter (· != '_') := by
  obtain ⟨_, second, others, heq, hfirst, hsecond, hsmall⟩ := exists_of_mem_initialisms hword
  obtain ⟨rfl, rfl⟩ := List.cons.inj heq
  induction h generalizing before with
  | nil => exact absurd ht.symm (by simp)
  | drop _ ih =>
    obtain ⟨before, c, rest, rfl, hrest⟩ := ih ht
    exact ⟨'_' :: before, c, rest, rfl, hrest⟩
  | @put c form s t hform hrespelled ih =>
    -- the initialism starts in what follows the character, or with the character itself
    rcases exists_or_getLast?_of_put hform (hsmall second List.mem_cons_self) ht with
      ⟨before, ht⟩ | ⟨hlast, ht⟩
    · obtain ⟨before, d, rest, rfl, hrest⟩ := ih ht
      exact ⟨c :: before, d, rest, rfl, hrest⟩
    · refine ⟨[], c, s, rfl, ?_, hrespelled.prefix_filter hsmall ?_⟩
      · rcases hform with rfl | rfl
        · obtain rfl : c = first := Option.some.inj hlast
          rw [upperChar_of_isUpper hfirst]
          rfl
        · exact hlast
      · have hfilter : (second :: others).filter (· != '_') = second :: others :=
          List.filter_eq_self.2 fun d hd => bne_iff_ne.2 (hsmall d hd).ne_underscore
        rw [← hfilter, ht]
        exact (List.prefix_append (second :: others) after).filter _

end Respelled

/-! ### Normalizing twice -/

/-- The letters of an initialism stand in a text, in whatever case the first one is and with
underscores between them, but the initialism itself does not stand there. -/
def Emerges (word t : Text) : Prop :=
  ∃ before c rest, t = before ++ c :: rest ∧ (Text.upperChar c).getLast? = word.head? ∧
    word.tail <+: rest.filter (· != '_') ∧ ¬ word <+: c :: rest

/-- An initialism that stands in the folded text has emerged: where it stood before, it was spelled
in capitals. -/
theorem emerges_of_infix (hword : word ∈ initialisms)
    (h : word <:+: snakeToCamel (replaceInitialisms t)) : Emerges word t := by
  obtain ⟨first, second, others, rfl, hfirst, -, hsmall⟩ := exists_of_mem_initialisms hword
  obtain ⟨before, after, hfolded⟩ := h
  rw [List.append_assoc, List.cons_append] at hfolded
  obtain ⟨before, d, rest, hspelled, hd, htail⟩ :=
    (Respelled.snakeToCamel _).exists_of_append hword hfolded.symm
  -- the place in the text before initialisms were spelled in capitals
  have hpointwise := forall₂_capitalize 0 t
  rw [List.drop_zero, ← replaceInitialisms, hspelled] at hpointwise
  have hbefore := (List.forall₂_take_append _ _ _ hpointwise).length_eq
  obtain ⟨c, rest', hc, hrest, hdrop⟩ :=
    List.forall₂_cons_right_iff.1 (List.forall₂_drop_append _ _ _ hpointwise)
  have htext : t = t.take before.length ++ c :: rest' := by rw [← hdrop, List.take_append_drop]
  refine ⟨t.take before.length, c, rest', htext, ?_, ?_, fun hstands => ?_⟩
  · rcases hc with rfl | hc
    · exact hd
    · have hself := Text.upperChar_of_mem (hc ▸ List.mem_singleton_self d)
      rwa [hc, ← hself]
  · exact (Respelled.of_forall₂ hrest).prefix_filter hsmall htail
  · -- there would be a second capital in its place
    have hcapital : c.isUpper = true := by
      rwa [← (List.cons_prefix_cons.1 hstands).1]
    obtain ⟨d', second', rest'', hspelling, hsecond⟩ := exists_of_prefix hword hstands
    rw [htext, replaceInitialisms, capitalize_append_cons hcapital 0 (Nat.zero_le _),
      hspelling] at hspelled
    have hlength := (forall₂_capitalize 0 (t.take before.length)).length_eq
    obtain ⟨-, heq⟩ := List.append_inj hspelled (hlength.symm.trans hbefore)
    obtain ⟨-, rfl⟩ := List.cons.inj heq
    have hne : (second' != '_') = true := bne_iff_ne.2 fun heq => by
      rw [heq] at hsecond
      cases hsecond
    rw [List.filter_cons, if_pos hne] at htail
    obtain ⟨rfl, -⟩ := List.cons_prefix_cons.1 htail
    exact (hsmall second List.mem_cons_self).not_isUpper_or (.inl hsecond)

/-- An identifier has neither spaces nor dashes. -/
theorem not_mem_of_isIdentifier (hx : Text.isIdentifier x = true)
    (hc : Text.isIdentifierStart c = false) (hc' : Text.isIdentifierPart c = false) : c ∉ x := by
  cases x with
  | nil => exact List.not_mem_nil
  | cons d rest =>
    rw [Text.isIdentifier, Bool.and_eq_true, List.all_eq_true] at hx
    intro hmem
    rcases List.mem_cons.1 hmem with rfl | hmem
    · rw [hx.1] at hc
      cases hc
    · rw [hx.2 c hmem] at hc'
      cases hc'

/-- **An identifier is normalized for good exactly if no initialism stands in the result**, and an
initialism that stands there has emerged from the identifier. -/
theorem normalize_twice (x : Text) (hx : Text.isIdentifier x = true) :
    (normalize (normalize x) = normalize x ↔ ∀ word ∈ initialisms, ¬ word <:+: normalize x) ∧
      ∀ word ∈ initialisms, word <:+: normalize x → Emerges word x := by
  refine ⟨?_, fun word hword h => emerges_of_infix hword ?_⟩
  · rw [normalize_eq_replaceInitialisms (isSeparator_of_mem_normalize x)]
    exact capitalize_eq_self_iff
  · rwa [← normalize_eq_snakeToCamel (not_mem_of_isIdentifier hx rfl rfl)
      (not_mem_of_isIdentifier hx rfl rfl)]

/-- No initialism is left of `Http_server`, so it is normalized for good; `Api` emerges from
`foo_api`. -/
theorem normalize_twice_of_names :
    (Text.isIdentifier "Http_server" = true ∧
      normalize (normalize "Http_server") = normalize "Http_server") ∧
    Text.isIdentifier "foo_api" = true ∧ Emerges "Api" "foo_api" := by
  refine ⟨⟨by decide +kernel, (normalize_twice "Http_server" (by decide +kernel)).1.2 ?_⟩,
    by decide +kernel, (normalize_twice "foo_api" (by decide +kernel)).2 _ ?_ ?_⟩
  all_goals decide +kernel

/-- Folding `foo_api` puts an initialism in. -/
theorem not_forall_normalize_twice :
    ¬ ∀ x : Text, Text.isIdentifier x = true → normalize (normalize x) = normalize x := by
  intro h
  exact absurd (h "foo_api" (by decide +kernel)) (by decide +kernel)

-- so does spelling the first initialism of a name in capitals
example : normalize "Apidoc" = "APIdoc" ∧ normalize "APIdoc" = "APIDoc" := by decide +kernel

end Naming

end SchemaStructs
