import Mathlib.Data.List.DropRight
import SchemaStructs.Proofs.Text.Blank

/-!
# Trimmed texts

Trimming takes away blanks at the ends and nothing else: the words of a text stay
(`Text.words_trim`), and so does the text without its blanks (`Text.squeeze_trim`).  A text that was
trimmed is not changed by trimming it once more, on either side (`Text.trim_trim`,
`Text.trim_trimRight`).  A text has no words if and only if all its characters are blank
(`Text.words_eq_nil_iff`).
-/

namespace SchemaStructs

namespace Text

/-- The characters of the text are blank. -/
def IsGap (t : Text) : Prop := ∀ c ∈ t, isBlank c = true

/-- The text without its blanks. -/
def squeeze (t : Text) : Text := t.filter (!isBlank ·)

variable {c : Char} {s t w gap : Text}

theorem IsGap.tail (h : IsGap (c :: t)) : IsGap t := (List.forall_mem_cons.1 h).2

theorem isGap_replicate (n : Nat) : IsGap (List.replicate n ' ') := fun _ hc =>
  List.eq_of_mem_replicate hc ▸ rfl

theorem isGap_takeWhile (t : Text) : IsGap (t.takeWhile isBlank) := fun _ hc =>
  List.mem_takeWhile_imp hc

/-! ### Trimming on the right -/

theorem trimRight_concat (t : Text) (c : Char) :
    trimRight (t ++ [c]) = if isBlank c then trimRight t else t ++ [c] := by
  induction t with
  | nil => rfl
  | cons d t ih =>
    rw [List.cons_append, trimRight, ih]
    by_cases hc : isBlank c = true
    · rw [if_pos hc, if_pos hc, trimRight]
    · rw [if_neg hc, if_neg hc]
      cases t <;> rfl

/-- Trimming on the right drops blanks from the end. -/
theorem trimRight_eq_rdropWhile (t : Text) : trimRight t = t.rdropWhile isBlank := by
  induction t using List.reverseRecOn with
  | nil => rfl
  | append_singleton t c ih => rw [trimRight_concat, List.rdropWhile_concat, ih]

theorem mem_of_mem_trimRight (h : c ∈ trimRight t) : c ∈ t := by
  rw [trimRight_eq_rdropWhile] at h
  exact (List.rdropWhile_prefix isBlank t).subset h

/-- What is dropped from the end is blank. -/
theorem exists_eq_trimRight_append (t : Text) : ∃ gap, IsGap gap ∧ t = trimRight t ++ gap := by
  refine ⟨t.rtakeWhile isBlank, fun c hc => List.mem_rtakeWhile_imp hc, ?_⟩
  rw [trimRight_eq_rdropWhile, List.rdropWhile_append_rtakeWhile]

@[simp] theorem trimRight_trimRight (t : Text) : trimRight (trimRight t) = trimRight t := by
  rw [trimRight_eq_rdropWhile, trimRight_eq_rdropWhile, List.rdropWhile_idempotent]

theorem trimRight_append_gap (t : Text) (h : IsGap gap) : trimRight (t ++ gap) = trimRight t := by
  induction gap using List.reverseRecOn with
  | nil => rw [List.append_nil]
  | append_singleton gap c ih =>
    obtain ⟨hgap, hc⟩ := List.forall_mem_append.1 h
    rw [← List.append_assoc, trimRight_concat, if_pos (hc c List.mem_cons_self), ih hgap]

theorem trimRight_eq_nil_iff : trimRight t = [] ↔ IsGap t := by
  rw [trimRight_eq_rdropWhile, List.rdropWhile_eq_nil_iff]
  rfl

/-! ### Trimming on both sides -/

theorem trimLeft_append_gap (h : IsGap gap) (t : Text) : trimLeft (gap ++ t) = trimLeft t :=
  List.dropWhile_append_of_pos h

theorem trimLeft_eq_nil_iff : trimLeft t = [] ↔ IsGap t := List.dropWhile_eq_nil_iff

/-- What is left starts with a character that is not blank. -/
theorem trimLeft_cases (t : Text) :
    trimLeft t = [] ∨ ∃ c rest, trimLeft t = c :: rest ∧ isBlank c = false := by
  have hhead := List.head?_dropWhile_not isBlank t
  cases ht : trimLeft t with
  | nil => exact .inl rfl
  | cons c rest =>
    rw [trimLeft] at ht
    rw [ht] at hhead
    exact .inr ⟨c, rest, rfl, hhead⟩

theorem trimRight_cons (h : isBlank c = false) (t : Text) :
    trimRight (c :: t) = c :: trimRight t := by
  rw [trimRight]
  split
  · rename_i heq
    rw [h, if_neg Bool.false_ne_true, heq]
  · rfl

theorem trim_append_gap (t : Text) (h : IsGap gap) : trim (t ++ gap) = trim t := by
  by_cases ht : IsGap t
  · have hboth : IsGap (t ++ gap) := List.forall_mem_append.2 ⟨ht, h⟩
    rw [trim, trim, trimLeft_eq_nil_iff.2 ht, trimLeft_eq_nil_iff.2 hboth]
  · have hne : (t.dropWhile isBlank).isEmpty = false :=
      List.isEmpty_eq_false_iff.2 (mt trimLeft_eq_nil_iff.1 ht)
    rw [trim, trimLeft, List.dropWhile_append, hne, if_neg Bool.false_ne_true,
      trimRight_append_gap _ h]
    rfl

@[simp] theorem trim_trimRight (t : Text) : trim (trimRight t) = trim t := by
  obtain ⟨gap, hgap, ht⟩ := exists_eq_trimRight_append t
  conv_rhs => rw [ht]
  exact (trim_append_gap _ hgap).symm

@[simp] theorem trimRight_trim (t : Text) : trimRight (trim t) = trim t := trimRight_trimRight _

@[simp] theorem trimLeft_trim (t : Text) : trimLeft (trim t) = trim t := by
  rcases trimLeft_cases t with ht | ⟨c, rest, ht, hc⟩
  · rw [trim, ht]
    rfl
  · rw [trim, ht, trimRight_cons hc, trimLeft_cons hc]

@[simp] theorem trim_trim (t : Text) : trim (trim t) = trim t := by
  rw [trim, trimLeft_trim, trimRight_trim]

theorem mem_of_mem_trim (h : c ∈ trim t) : c ∈ t :=
  (List.dropWhile_suffix isBlank).subset (mem_of_mem_trimRight h)

theorem trim_eq_nil_iff : trim t = [] ↔ IsGap t := by
  rw [trim, ← trimLeft_eq_nil_iff]
  rcases trimLeft_cases t with ht | ⟨c, rest, ht, hc⟩
  · simp [ht, trimRight]
  · simp [ht, trimRight_cons hc]

theorem tidy_of_trim (h : trim t = t) (hne : t ≠ []) : Tidy t :=
  ⟨hne, by rw [← h, trimRight_trim]⟩

theorem Tidy.not_isGap (h : Tidy t) : ¬ IsGap t := fun hgap =>
  h.ne_nil (h.trimRight_eq.symm.trans (trimRight_eq_nil_iff.2 hgap))

/-- What has no blanks at its ends and is not empty starts with what is no blank. -/
theorem exists_eq_cons_of_trim (h : trim t = t) (hne : t ≠ []) :
    ∃ c rest, t = c :: rest ∧ isBlank c = false := by
  have hleft : trimLeft t = t := by rw [← h, trimLeft_trim]
  obtain hnil | ⟨c, rest, ht, hc⟩ := trimLeft_cases t
  · exact absurd (hleft.symm.trans hnil) hne
  · exact ⟨c, rest, hleft.symm.trans ht, hc⟩

theorem Tidy.cons (h : Tidy t) (c : Char) : Tidy (c :: t) := by
  refine ⟨List.cons_ne_nil c t, ?_⟩
  rw [trimRight, h.trimRight_eq]
  cases t with
  | nil => exact absurd rfl h.ne_nil
  | cons d t => rfl

/-! ### Words -/

/-- A blank sets words off. -/
theorem words_append_cons_blank (hc : isBlank c = true) (s t : Text) :
    words (s ++ c :: t) = words s ++ words t := by
  simp only [words, splitWhere_eq_splitOnP, List.splitOnP_append_cons s t hc, List.filter_append]

theorem words_append_gap (t : Text) (h : IsGap gap) : words (t ++ gap) = words t := by
  induction gap generalizing t with
  | nil => rw [List.append_nil]
  | cons c gap ih =>
    have hgap : words gap = [] := ih [] h.tail
    rw [words_append_cons_blank (h c List.mem_cons_self), hgap, List.append_nil]

theorem words_gap_append (h : IsGap gap) (t : Text) : words (gap ++ t) = words t := by
  induction gap with
  | nil => rfl
  | cons c gap ih =>
    rw [List.cons_append, words_cons_blank (h c List.mem_cons_self), ih h.tail]

theorem Unbroken.words_append_gap (hw : Unbroken w) (h : IsGap gap) (hne : gap = [] → t = []) :
    words (w ++ (gap ++ t)) = w :: words t := by
  cases gap with
  | nil => rw [hne rfl, List.nil_append, List.append_nil, hw.words_eq]; rfl
  | cons c gap =>
    rw [List.cons_append, hw.words_append_cons (h c List.mem_cons_self), words_gap_append h.tail]

@[simp] theorem words_trimRight (t : Text) : words (trimRight t) = words t := by
  obtain ⟨gap, hgap, ht⟩ := exists_eq_trimRight_append t
  conv_rhs => rw [ht]
  exact (words_append_gap _ hgap).symm

@[simp] theorem words_trimLeft (t : Text) : words (trimLeft t) = words t := by
  have ht : t.takeWhile isBlank ++ trimLeft t = t := List.takeWhile_append_dropWhile
  conv_rhs => rw [← ht]
  exact (words_gap_append (isGap_takeWhile t) _).symm

/-- **Trimming keeps the words.** -/
@[simp] theorem words_trim (t : Text) : words (trim t) = words t := by
  rw [trim, words_trimRight, words_trimLeft]

/-- The characters of the words are those that are not blank. -/
theorem flatten_words (t : Text) : (words t).flatten = squeeze t := by
  have hfilter : ∀ pieces : List Text, (pieces.filter (!·.isEmpty)).flatten = pieces.flatten := by
    intro pieces
    induction pieces with
    | nil => rfl
    | cons p pieces ih => cases p <;> simp [ih]
  rw [words, hfilter]
  induction t with
  | nil => rfl
  | cons c t ih =>
    rw [splitWhere, squeeze, List.filter_cons, ← squeeze, ← ih]
    by_cases hc : isBlank c = true
    · simp [hc]
    · cases splitWhere isBlank t <;> simp [hc]

/-- **A text without words is blank.** -/
theorem words_eq_nil_iff : words t = [] ↔ IsGap t := by
  constructor
  · intro h
    have hsqueeze := flatten_words t
    rw [h, List.flatten_nil, eq_comm, squeeze, List.filter_eq_nil_iff] at hsqueeze
    exact fun c hc => by simpa using hsqueeze c hc
  · exact fun h => words_append_gap [] h

end Text

end SchemaStructs
