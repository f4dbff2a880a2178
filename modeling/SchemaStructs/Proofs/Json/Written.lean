import Mathlib.Tactic.IntervalCases
import SchemaStructs.Json.Writer
import SchemaStructs.Proofs.Computation
import SchemaStructs.Proofs.Json.HalfPair

/-!
# Objects written and read again

An object whose members are texts, truth values or `null` (`Json.isFlat`) is read from its indented
form as it was written (`Json.read_pretty`), whatever characters its texts and keys have: a quote, a
backslash or a control character is read from its escape (`Json.readString_escaped`), and all other
characters stand for themselves.

Its form has no carriage returns (`Json.not_mem_pretty`), since those of the texts are escaped.
-/

namespace SchemaStructs

namespace Json

/-- The value has no parts and is no number. -/
def isFlat : Json → Bool
  | null | bool _ | str _ => true
  | _ => false

variable {t u rest : Text} {c : Char} {pos start fuel room level : Nat} {j : Json}
variable {members before : List (Text × Json)} {key : Text} {value : Json}

/-! ### Strings -/

theorem hexFour?_ofNatHex {n : Nat} (hn : n < 0x20) (c : Char) (rest : Text) :
    hexFour? (Text.ofNatHex 4 n ++ c :: rest) = some (n, c :: rest) := by
  interval_cases n <;> rfl

/-- The number of a control character is read from its digits. -/
theorem readCodePoint_ofNatHex (hc : c.toNat < 0x20) (d : Char) (rest : Text) :
    readCodePoint pos (Text.ofNatHex 4 c.toNat ++ d :: rest) = .ok (c, pos + 6, d :: rest) := by
  have hlow : isHighSurrogate c.toNat = false := by
    rw [isHighSurrogate, Bool.and_eq_false_iff]
    exact .inl (decide_eq_false (by omega))
  have halone (hhigh : isHighSurrogate c.toNat = true) (hex : Text) :
      d :: rest ≠ '\\' :: 'u' :: hex :=
    absurd hhigh (Bool.eq_false_iff.1 hlow)
  rw [readCodePoint_alone (hexFour?_ofNatHex hc d rest) halone, Char.ofNat_toNat]

/-- A character is written with a short escape, by its number or as it is. -/
theorem escapedChar_cases (c : Char) :
    (∃ e, escapedChar c = ['\\', e] ∧ e ≠ 'u' ∧ shortEscape? e = some c) ∨
    (c.toNat < 0x20 ∧ escapedChar c = '\\' :: 'u' :: Text.ofNatHex 4 c.toNat) ∨
    (c ≠ '"' ∧ c ≠ '\\' ∧ c ≠ '\r' ∧ ¬ c.toNat < 0x20 ∧ escapedChar c = [c]) := by
  unfold escapedChar
  split
  · rename_i hc
    rcases hc with rfl | rfl
    · exact .inl ⟨_, rfl, by decide, rfl⟩
    · exact .inl ⟨_, rfl, by decide, rfl⟩
  rename_i hplain
  rw [not_or] at hplain
  split
  · rename_i hc; subst hc; exact .inl ⟨_, rfl, by decide, rfl⟩
  split
  · rename_i hc; subst hc; exact .inl ⟨_, rfl, by decide, rfl⟩
  rename_i hreturn
  split
  · rename_i hc; subst hc; exact .inl ⟨_, rfl, by decide, rfl⟩
  split
  · rename_i hc; subst hc; exact .inl ⟨_, rfl, by decide, rfl⟩
  split
  · rename_i hc; subst hc; exact .inl ⟨_, rfl, by decide, rfl⟩
  split
  · exact .inr (.inl ⟨‹_›, rfl⟩)
  · exact .inr (.inr ⟨hplain.1, hplain.2, hreturn, ‹_›, rfl⟩)

/-- **A text is read from its escaped characters**, up to the quote that ends it. -/
theorem readString_escaped (pos : Nat) (rest : Text) (h : t.length < fuel) :
    ∃ pos', readString start fuel pos (t.flatMap escapedChar ++ '"' :: rest) =
      .ok (t, pos', rest) := by
  induction t generalizing fuel pos with
  | nil =>
    obtain ⟨fuel, rfl⟩ := Nat.exists_eq_succ_of_ne_zero (Nat.ne_of_gt h)
    exact ⟨pos + 1, rfl⟩
  | cons c t ih =>
    obtain ⟨fuel, rfl⟩ := Nat.exists_eq_succ_of_ne_zero (Nat.ne_of_gt (Nat.zero_lt_of_lt h))
    have hfuel : t.length < fuel := Nat.lt_of_succ_lt_succ h
    rw [List.flatMap_cons, List.append_assoc]
    rcases escapedChar_cases c with ⟨e, hescape, hne, hshort⟩ | ⟨hcontrol, hescape⟩ |
      ⟨hquote, hslash, -, hcontrol, hescape⟩
    · obtain ⟨pos', hread⟩ := ih (pos + 2) hfuel
      refine ⟨pos', ?_⟩
      rw [hescape, List.cons_append, List.singleton_append, readString_escape hne, hshort,
        Option.elim_some, hread]
      rfl
    · obtain ⟨d, more, hmore⟩ : ∃ d more, t.flatMap escapedChar ++ '"' :: rest = d :: more :=
        List.exists_cons_of_ne_nil (by simp)
      obtain ⟨pos', hread⟩ := ih (pos + 6) hfuel
      rw [hmore] at hread ⊢
      refine ⟨pos', ?_⟩
      rw [hescape, List.cons_append, List.cons_append, readString_codePoint,
        readCodePoint_ofNatHex hcontrol d more]
      exact bind_eq_ok_iff.2 ⟨_, rfl, bind_eq_ok_iff.2 ⟨_, hread, rfl⟩⟩
    · obtain ⟨pos', hread⟩ := ih (pos + 1) hfuel
      refine ⟨pos', ?_⟩
      rw [hescape, List.singleton_append, readString_cons hquote hslash, if_neg hcontrol, hread]
      rfl

/-! ### Values and spaces -/

theorem length_le_length_escaped (t : Text) : t.length ≤ (t.flatMap escapedChar).length := by
  induction t with
  | nil => exact Nat.le_refl 0
  | cons c t ih =>
    have hpos : 0 < (escapedChar c).length := by
      rcases escapedChar_cases c with ⟨e, h, -⟩ | ⟨-, h⟩ | ⟨-, -, -, -, h⟩ <;> simp [h]
    rw [List.flatMap_cons, List.length_append, List.length_cons]
    omega

theorem length_written (t : Text) : (written t).length = (t.flatMap escapedChar).length + 2 := by
  simp [written]

theorem readString_written (start pos : Nat) (rest : Text) (h : (written t).length ≤ fuel + 1) :
    ∃ pos', readString start fuel pos (t.flatMap escapedChar ++ '"' :: rest) =
      .ok (t, pos', rest) := by
  have hlength := length_le_length_escaped t
  rw [length_written] at h
  exact readString_escaped pos rest (by omega)

/-- A value without parts does not start with white space. -/
theorem exists_cons_prettyAt (level : Nat) (hflat : j.isFlat = true) :
    ∃ c t, prettyAt level j = c :: t ∧ isSpace c = false := by
  cases j with
  | int | float | arr | obj => cases hflat
  | null => exact ⟨_, _, rfl, rfl⟩
  | bool b => cases b <;> exact ⟨_, _, rfl, rfl⟩
  | str t => exact ⟨_, _, rfl, rfl⟩

/-- A value without parts is read as it was written. -/
theorem readValue_prettyAt (room pos : Nat) (hflat : j.isFlat = true) (rest : Text)
    (hfuel : (prettyAt level j).length ≤ fuel) :
    ∃ pos', readValue fuel room pos (prettyAt level j ++ rest) = .ok (j, pos', rest) := by
  obtain ⟨c, more, hstart, -⟩ := exists_cons_prettyAt level hflat
  obtain ⟨fuel, rfl⟩ : ∃ n, fuel = n + 1 :=
    Nat.exists_eq_succ_of_ne_zero (by rw [hstart, List.length_cons] at hfuel; omega)
  cases j with
  | int | float | arr | obj => cases hflat
  | null =>
    rw [prettyAt]
    exact ⟨pos + 4, readValue_plain (c := 'n') (by decide) (by decide) (by decide)⟩
  | bool b =>
    cases b with
    | true =>
      rw [prettyAt]
      exact ⟨pos + 4, readValue_plain (c := 't') (by decide) (by decide) (by decide)⟩
    | false =>
      rw [prettyAt]
      exact ⟨pos + 5, readValue_plain (c := 'f') (by decide) (by decide) (by decide)⟩
  | str t =>
    rw [prettyAt] at hfuel ⊢
    obtain ⟨pos', hread⟩ := readString_written pos (pos + 1) rest hfuel
    refine ⟨pos', ?_⟩
    rw [written, List.cons_append, List.append_assoc, readValue_string]
    exact bind_eq_ok_iff.2 ⟨_, hread, rfl⟩

/-- White space is skipped up to the next character that is none. -/
theorem exists_skipSpace (pos : Nat) (hspace : t.all isSpace = true) (hc : isSpace c = false)
    (rest : Text) :
    ∃ pos', skipSpace pos (t ++ c :: rest) = (pos', c :: rest) := by
  induction t generalizing pos with
  | nil => exact ⟨pos, by rw [List.nil_append, skipSpace, hc, if_neg Bool.false_ne_true]⟩
  | cons d t ih =>
    rw [List.all_cons, Bool.and_eq_true] at hspace
    rw [List.cons_append, skipSpace, if_pos hspace.1]
    exact ih (pos + 1) hspace.2

theorem all_isSpace_newline (level : Nat) : (newline level).all isSpace = true := by
  refine List.all_eq_true.2 fun c hc => ?_
  rcases List.mem_cons.1 hc with rfl | hc
  · rfl
  · rw [List.eq_of_mem_replicate hc]
    rfl

/-! ### Members -/

theorem exists_skipSpace_newline (level pos : Nat) (hc : isSpace c = false) (rest : Text) :
    ∃ pos', skipSpace pos (newline level ++ c :: rest) = (pos', c :: rest) :=
  exists_skipSpace pos (all_isSpace_newline level) hc rest

/-- A member on a line of its own. -/
def memberText (level : Nat) (key : Text) (value : Json) : Text :=
  newline level ++ written key ++ ": " ++ prettyAt level value

theorem prettyMembers_singleton (level : Nat) (key : Text) (value : Json) :
    prettyMembers level [(key, value)] = memberText level key value := by
  rw [prettyMembers, memberText]

theorem prettyMembers_cons (level : Nat) (key : Text) (value : Json) (hne : members ≠ []) :
    prettyMembers level ((key, value) :: members) =
      memberText level key value ++ "," ++ prettyMembers level members := by
  rw [prettyMembers, memberText]
  exact hne

/-- A member has more characters than its key and than its value. -/
theorem length_lt_memberText (level : Nat) (key : Text) (value : Json) :
    (written key).length < (memberText level key value).length ∧
      (prettyAt level value).length < (memberText level key value).length := by
  simp only [memberText, List.length_append, newline, List.length_cons]
  omega

/-- One member is read, and what follows it is left. -/
theorem exists_readMembers (room pos : Nat) (before : List (Text × Json))
    (hflat : value.isFlat = true) (hkey : (written key).length ≤ fuel + 1)
    (hvalue : (prettyAt level value).length ≤ fuel) (p : Nat) (after : Text) :
    ∃ pos', readMembers (fuel + 1) room before pos
        (skipSpace p (memberText level key value ++ after)).2 =
      afterMember fuel room (insert before key value) (skipSpace pos' after).1
        (skipSpace pos' after).2 := by
  obtain ⟨c, more, hstart, hc⟩ := exists_cons_prettyAt level hflat
  obtain ⟨start, hskip⟩ := exists_skipSpace_newline level p (c := '"') rfl
    (key.flatMap escapedChar ++ '"' :: (": " ++ (prettyAt level value ++ after)))
  obtain ⟨colon, hstring⟩ := readString_written pos (pos + 1)
    (": " ++ (prettyAt level value ++ after)) hkey
  have hcolon : skipSpace colon (": " ++ (prettyAt level value ++ after)) =
      (colon, ':' :: ' ' :: (prettyAt level value ++ after)) := rfl
  obtain ⟨q, hspace⟩ := exists_skipSpace (t := [' ']) (colon + 1) rfl hc (more ++ after)
  rw [List.singleton_append, ← List.cons_append, ← hstart] at hspace
  obtain ⟨r, hread⟩ := readValue_prettyAt room q hflat after hvalue
  have htext : memberText level key value ++ after = newline level ++ '"' ::
      (key.flatMap escapedChar ++ '"' :: (": " ++ (prettyAt level value ++ after))) := by
    simp [memberText, written]
  refine ⟨r, ?_⟩
  rw [htext, hskip, readMembers_eq, hstring]
  simp only [bind, Except.bind, hcolon, afterKey, hspace, hread]

/-- **Members are read as they were written**, after those that were read before. -/
theorem exists_readMembers_pretty (room pos : Nat) (hne : members ≠ [])
    (hflat : ∀ m ∈ members, m.2.isFlat = true)
    (hkeys : ((before ++ members).map (·.1)).Nodup)
    (hfuel : (prettyMembers level members).length ≤ fuel) (p depth : Nat) (rest : Text) :
    ∃ pos', readMembers fuel room before pos
        (skipSpace p (prettyMembers level members ++ (newline depth ++ '\x7d' :: rest))).2 =
      .ok (before ++ members, pos', rest) := by
  induction members generalizing before fuel pos p with
  | nil => exact absurd rfl hne
  | cons m more ih =>
    obtain ⟨key, value⟩ := m
    obtain ⟨hvalue, hmore⟩ := List.forall_mem_cons.1 hflat
    have hnew : key ∉ before.map (·.1) := fun hmem => by
      rw [List.map_append, List.nodup_append] at hkeys
      exact hkeys.2.2 key hmem key List.mem_cons_self rfl
    have hinsert := insert_of_not_mem value hnew
    obtain ⟨hkeyLt, hvalueLt⟩ := length_lt_memberText level key value
    cases more with
    | nil =>
      rw [prettyMembers_singleton] at hfuel ⊢
      obtain ⟨fuel, rfl⟩ : ∃ n, fuel = n + 1 := Nat.exists_eq_succ_of_ne_zero (by omega)
      have hkey : (written key).length ≤ fuel + 1 := by omega
      have hlength : (prettyAt level value).length ≤ fuel := by omega
      obtain ⟨pos', hread⟩ := exists_readMembers room pos before hvalue hkey hlength p
        (newline depth ++ '\x7d' :: rest)
      obtain ⟨q, hafter⟩ := exists_skipSpace_newline depth pos' (c := '\x7d') rfl rest
      refine ⟨q + 1, ?_⟩
      rw [hread, hafter, hinsert]
      rfl
    | cons m more =>
      have hsplit := prettyMembers_cons level key value (List.cons_ne_nil m more)
      rw [hsplit, List.length_append, List.length_append] at hfuel
      obtain ⟨fuel, rfl⟩ : ∃ n, fuel = n + 1 := Nat.exists_eq_succ_of_ne_zero (by omega)
      obtain ⟨tail, htail⟩ : ∃ tail, tail =
        prettyMembers level (m :: more) ++ (newline depth ++ '\x7d' :: rest) := ⟨_, rfl⟩
      have hnodup : ((before ++ [(key, value)] ++ m :: more).map (·.1)).Nodup := by
        simpa using hkeys
      have hkey : (written key).length ≤ fuel + 1 := by omega
      have hlength : (prettyAt level value).length ≤ fuel := by omega
      have hrest : (prettyMembers level (m :: more)).length ≤ fuel := by omega
      obtain ⟨pos', hread⟩ := exists_readMembers room pos before hvalue hkey hlength p ("," ++ tail)
      have hcomma : afterMember fuel room (before ++ [(key, value)])
          (skipSpace pos' ("," ++ tail)).1 (skipSpace pos' ("," ++ tail)).2 =
        readMembers fuel room (before ++ [(key, value)]) (skipSpace (pos' + 1) tail).1
          (skipSpace (pos' + 1) tail).2 := rfl
      obtain ⟨last, hlast⟩ := ih (skipSpace (pos' + 1) tail).1 (List.cons_ne_nil m more) hmore
        hnodup hrest (pos' + 1)
      rw [← htail] at hlast
      refine ⟨last, ?_⟩
      rw [hsplit, List.append_assoc, ← htail, List.append_assoc, hread, hinsert, hcomma, hlast,
        List.append_assoc, List.singleton_append]

/-! ### Halves of pairs -/

/-- The escape of a control character is not half of a pair. -/
theorem escapeSize?_ofNatHex {n : Nat} (hn : n < 0x20) (c : Char) (rest : Text) :
    escapeSize? ('u' :: (Text.ofNatHex 4 n ++ c :: rest)) =
      some ('u' :: Text.ofNatHex 4 n).length := by
  have hlength : (Text.ofNatHex 4 n).length = 4 := by interval_cases n <;> rfl
  have hhigh : ¬ isHighSurrogate n = true := by simp [isHighSurrogate]; omega
  have hlow : ¬ isLowSurrogate n = true := by simp [isLowSurrogate]; omega
  rw [escapeSize?_some (hexFour?_ofNatHex hn c rest), if_neg hhigh, if_neg hlow,
    List.length_cons, hlength]

theorem hasHalfPair_escapedChar (c d : Char) (rest : Text) :
    hasHalfPair (escapedChar c ++ d :: rest) = hasHalfPair (d :: rest) := by
  rcases escapedChar_cases c with ⟨e, hescape, hne, -⟩ | ⟨hcontrol, hescape⟩ |
    ⟨-, hslash, -, -, hescape⟩
  · rw [hescape]
    exact hasHalfPair_escape (u := [e]) (escapeSize?_of_ne hne _)
  · rw [hescape]
    exact hasHalfPair_escape (escapeSize?_ofNatHex hcontrol d rest)
  · rw [hescape, List.singleton_append, hasHalfPair_cons hslash]

theorem hasHalfPair_written (t rest : Text) :
    hasHalfPair (written t ++ rest) = hasHalfPair rest := by
  have hescaped : hasHalfPair (t.flatMap escapedChar ++ '"' :: rest) = hasHalfPair rest := by
    induction t with
    | nil => exact hasHalfPair_cons (by decide) rest
    | cons c t ih =>
      obtain ⟨d, more, hmore⟩ : ∃ d more, t.flatMap escapedChar ++ '"' :: rest = d :: more :=
        List.exists_cons_of_ne_nil (by simp)
      rw [List.flatMap_cons, List.append_assoc, hmore, hasHalfPair_escapedChar, ← hmore, ih]
  rw [written, List.cons_append, List.append_assoc, hasHalfPair_cons (by decide)]
  exact hescaped

theorem hasHalfPair_prettyAt (hflat : j.isFlat = true) (rest : Text) :
    hasHalfPair (prettyAt level j ++ rest) = hasHalfPair rest := by
  cases j with
  | int | float | arr | obj => cases hflat
  | null => rw [prettyAt]; exact hasHalfPair_append (by decide) rest
  | bool b => cases b <;> rw [prettyAt] <;> exact hasHalfPair_append (by decide) rest
  | str t => rw [prettyAt]; exact hasHalfPair_written t rest

theorem hasHalfPair_newline (level : Nat) (rest : Text) :
    hasHalfPair (newline level ++ rest) = hasHalfPair rest :=
  hasHalfPair_append (by simp [newline]) rest

theorem hasHalfPair_memberText (hflat : value.isFlat = true) (rest : Text) :
    hasHalfPair (memberText level key value ++ rest) = hasHalfPair rest := by
  have hcolon : hasHalfPair (": " ++ (prettyAt level value ++ rest)) =
      hasHalfPair (prettyAt level value ++ rest) := hasHalfPair_append (by decide) _
  simp only [memberText, List.append_assoc, hasHalfPair_newline, hasHalfPair_written, hcolon,
    hasHalfPair_prettyAt hflat]

theorem hasHalfPair_prettyMembers (hflat : ∀ m ∈ members, m.2.isFlat = true) (rest : Text) :
    hasHalfPair (prettyMembers level members ++ rest) = hasHalfPair rest := by
  induction members with
  | nil => rfl
  | cons m more ih =>
    obtain ⟨key, value⟩ := m
    obtain ⟨hvalue, hmore⟩ := List.forall_mem_cons.1 hflat
    cases more with
    | nil => rw [prettyMembers_singleton, hasHalfPair_memberText hvalue]
    | cons m more =>
      have hcomma : hasHalfPair ("," ++ (prettyMembers level (m :: more) ++ rest)) =
          hasHalfPair (prettyMembers level (m :: more) ++ rest) := hasHalfPair_append (by decide) _
      rw [prettyMembers_cons level key value (List.cons_ne_nil m more), List.append_assoc,
        List.append_assoc, hasHalfPair_memberText hvalue, hcomma, ih hmore]

/-! ### Documents -/

theorem pretty_obj (hne : members ≠ []) :
    (obj members).pretty =
      '\x7b' :: (prettyMembers 1 members ++ (newline 0 ++ ['\x7d'])) := by
  rw [pretty, prettyAt, List.append_assoc]
  exact hne

/-- The members of an object start with a key on a line of its own. -/
theorem exists_cons_prettyMembers (level : Nat) (hne : members ≠ []) :
    ∃ more, prettyMembers level members = newline level ++ '"' :: more := by
  cases members with
  | nil => exact absurd rfl hne
  | cons m more =>
    obtain ⟨key, value⟩ := m
    cases more with
    | nil =>
      exact ⟨key.flatMap escapedChar ++ ['"'] ++ ": " ++ prettyAt level value, by
        simp [prettyMembers, written]⟩
    | cons m more =>
      exact ⟨key.flatMap escapedChar ++ ['"'] ++ ": " ++ prettyAt level value ++ "," ++
        prettyMembers level (m :: more), by simp [prettyMembers, written]⟩

/-- **An object of values without parts is read as it was written.** -/
theorem read_pretty (hne : members ≠ []) (hflat : ∀ m ∈ members, m.2.isFlat = true)
    (hkeys : (members.map (·.1)).Nodup) :
    read (obj members).pretty = .ok (obj members) := by
  have htext := pretty_obj hne
  obtain ⟨more, hstart⟩ := exists_cons_prettyMembers 1 hne
  obtain ⟨pos, hskip⟩ := exists_skipSpace_newline 1 1 (c := '"') rfl
    (more ++ (newline 0 ++ ['\x7d']))
  rw [← List.cons_append, ← List.append_assoc, ← hstart] at hskip
  have hlength : (prettyMembers 1 members).length ≤ 2 * (obj members).pretty.length + 1 := by
    rw [htext, List.length_cons, List.length_append]
    omega
  have hnodup : (([] ++ members : List (Text × Json)).map (·.1)).Nodup := hkeys
  obtain ⟨last, hmembers⟩ := exists_readMembers_pretty 984 pos hne hflat hnodup hlength 1 0 []
  rw [hskip] at hmembers
  have hvalue : readValue (2 * (obj members).pretty.length + 2) maxDepth 0 (obj members).pretty =
      .ok (.obj members, last, []) := by
    nth_rewrite 2 [htext]
    have hopen : ∀ rest, '"' :: more ++ (newline 0 ++ ['\x7d']) ≠ '\x7d' :: rest :=
      fun _ h => absurd (List.cons.inj h).1 (by decide)
    exact (readValue_object hskip hopen).trans (bind_eq_ok_iff.2 ⟨_, hmembers, rfl⟩)
  have hspace : skipSpace 0 (obj members).pretty = (0, (obj members).pretty) := by
    rw [htext]
    rfl
  have hmark (rest : Text) : (obj members).pretty ≠ Char.ofNat 0xfeff :: rest := by
    rw [htext]
    exact fun h => absurd (List.cons.inj h).1 (by decide)
  have hhalf : hasHalfPair (obj members).pretty = false := by
    rw [htext, hasHalfPair_cons (by decide), hasHalfPair_prettyMembers hflat, hasHalfPair_newline]
    rfl
  rw [read_eq hmark, hspace]
  exact bind_eq_ok_iff.2
    ⟨_, hvalue, ended_eq_ok_iff.2 ⟨rfl, halfPair?_eq_none_iff.2 hhalf, rfl⟩⟩

/-! ### Line breaks -/

theorem not_mem_ofNatHex {n : Nat} (hn : n < 0x20) : '\r' ∉ Text.ofNatHex 4 n := by
  interval_cases n <;> decide

theorem not_mem_escaped (t : Text) : '\r' ∉ t.flatMap escapedChar := by
  intro hmem
  obtain ⟨c, -, hmem⟩ := List.mem_flatMap.1 hmem
  rcases escapedChar_cases c with ⟨e, hescape, -, hshort⟩ | ⟨hcontrol, hescape⟩ |
    ⟨-, -, hne, -, hescape⟩
  · rw [hescape] at hmem
    have he : '\r' ≠ e := by rintro rfl; cases hshort
    simp [he] at hmem
  · rw [hescape] at hmem
    simp [not_mem_ofNatHex hcontrol] at hmem
  · rw [hescape, List.mem_singleton] at hmem
    exact hne hmem.symm

theorem not_mem_prettyAt (hflat : j.isFlat = true) : '\r' ∉ prettyAt level j := by
  cases j with
  | int | float | arr | obj => cases hflat
  | null => rw [prettyAt]; decide
  | bool b => cases b <;> rw [prettyAt] <;> decide
  | str t => simp [prettyAt, written, not_mem_escaped t]

theorem not_mem_newline (level : Nat) : '\r' ∉ newline level := by
  simp [newline]

theorem not_mem_prettyMembers (hflat : ∀ m ∈ members, m.2.isFlat = true) :
    '\r' ∉ prettyMembers level members := by
  induction members with
  | nil => simp [prettyMembers]
  | cons m more ih =>
    obtain ⟨key, value⟩ := m
    obtain ⟨hvalue, hmore⟩ := List.forall_mem_cons.1 hflat
    have hone : '\r' ∉ memberText level key value := by
      simp [memberText, written, not_mem_newline level, not_mem_escaped key,
        not_mem_prettyAt hvalue]
    cases more with
    | nil => rwa [prettyMembers_singleton]
    | cons m more =>
      rw [prettyMembers_cons level key value (List.cons_ne_nil m more), List.mem_append,
        List.mem_append, not_or, not_or]
      exact ⟨⟨hone, by decide⟩, ih hmore⟩

/-- The form of an object has no carriage returns. -/
theorem not_mem_pretty (hflat : ∀ m ∈ members, m.2.isFlat = true) :
    '\r' ∉ (obj members).pretty := by
  cases members with
  | nil => decide
  | cons m more =>
    rw [pretty, prettyAt]
    · simp [not_mem_prettyMembers hflat, not_mem_newline 0]
    · exact List.cons_ne_nil m more

end Json

end SchemaStructs
