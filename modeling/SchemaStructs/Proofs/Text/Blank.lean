import SchemaStructs.Proofs.Text.Pieces

/-!
# Blanks and words

Words are set off by blanks: a word at the start of a text that a blank follows is the first of its
words (`Text.Unbroken.words_append_cons`), and blanks at the start do not matter
(`Text.words_cons_blank`).  Trimming stops at the first and the last character that is not blank
(`Text.trimLeft_cons`, `Text.Unbroken.trimRight_append`).
-/

namespace SchemaStructs

namespace Text

/-- The text is not empty and has no blanks. -/
structure Unbroken (w : Text) : Prop where
  /-- The text is not empty. -/
  ne_nil : w ≠ []
  /-- No character is blank. -/
  isBlank : ∀ c ∈ w, Text.isBlank c = false

variable {c : Char} {t w : Text}

theorem unbroken_of_any (hne : w ≠ []) (h : w.any isBlank = false) : Unbroken w :=
  ⟨hne, fun c hc => Bool.not_eq_true _ ▸ List.any_eq_false.1 h c hc⟩

/-! ### Trimming -/

theorem trimLeft_cons (h : isBlank c = false) (t : Text) : trimLeft (c :: t) = c :: t :=
  List.dropWhile_cons_of_neg (by simp [h])

theorem Unbroken.trimLeft_append (h : Unbroken w) (t : Text) : trimLeft (w ++ t) = w ++ t := by
  cases w with
  | nil => exact absurd rfl h.ne_nil
  | cons c w => exact trimLeft_cons (h.isBlank c List.mem_cons_self) _

theorem Unbroken.trimRight_eq (h : Unbroken w) : trimRight w = w := by
  obtain ⟨hne, hblank⟩ := h
  induction w with
  | nil => exact absurd rfl hne
  | cons c w ih =>
    cases w with
    | nil => simp [trimRight, hblank c List.mem_cons_self]
    | cons d w =>
      rw [trimRight, ih (List.cons_ne_nil d w) fun e he => hblank e (List.mem_cons_of_mem c he)]

/-- What is before a word at the end of a text is kept. -/
theorem Unbroken.trimRight_append (h : Unbroken w) (t : Text) : trimRight (t ++ w) = t ++ w := by
  induction t with
  | nil => exact h.trimRight_eq
  | cons c t ih =>
    rw [List.cons_append, trimRight, ih]
    split
    · rename_i hnil
      exact absurd (List.append_eq_nil_iff.1 hnil).2 h.ne_nil
    · rfl

/-- The text is not empty and has no blanks at its end. -/
structure Tidy (t : Text) : Prop where
  /-- The text is not empty. -/
  ne_nil : t ≠ []
  /-- There are no blanks at its end. -/
  trimRight_eq : trimRight t = t

theorem Unbroken.tidy_append (h : Unbroken w) (t : Text) : Tidy (t ++ w) :=
  ⟨fun hnil => h.ne_nil (List.append_eq_nil_iff.1 hnil).2, h.trimRight_append t⟩

/-! ### Words -/

/-- Blanks at the start of a text do not matter. -/
theorem words_cons_blank (h : isBlank c = true) (t : Text) : words (c :: t) = words t := by
  rw [words, splitWhere, if_pos h, List.filter_cons_of_neg (by simp)]
  rfl

/-- A word that a blank follows. -/
theorem Unbroken.words_append_cons (h : Unbroken w) (hc : Text.isBlank c = true) (t : Text) :
    words (w ++ c :: t) = w :: words t := by
  rw [words, splitWhere_eq_splitOnP, List.splitOnP_append_cons_of_forall_mem h.isBlank c hc,
    List.filter_cons_of_pos (by simpa using h.ne_nil), ← splitWhere_eq_splitOnP]
  rfl

/-- A word at the end. -/
theorem Unbroken.words_eq (h : Unbroken w) : words w = [w] := by
  rw [words, splitWhere_eq_splitOnP, List.splitOnP_eq_singleton h.isBlank,
    List.filter_cons_of_pos (by simpa using h.ne_nil)]
  rfl

end Text

end SchemaStructs
