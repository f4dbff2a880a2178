import SchemaStructs.Proofs.Naming.Plain
import SchemaStructs.Text.Identifier

/-!
# Fields start with a capital

The field of an ASCII name starts with a capital letter, if it is an identifier at all
(`Naming.exists_isUpper_of_isIdentifier`).

* The title form of a name has no small letter at its start, and none after the spaces there
  (`Naming.raised_title`, `Naming.raised_squish_title`); the initialisms all start with a capital.
* Folding a separator brings the start of a later part to the front at most, which is in title case
  (`Naming.Raised.foldSeparator`).
* The last pass takes the underscores out, so that of the characters that an identifier may start
  with only the letters are left.
-/

namespace SchemaStructs

namespace Naming

/-- The text does not start with a small letter. -/
def Raised (t : Text) : Prop := ∀ c ∈ t.head?, c.isLower = false

/-- The text has ASCII characters only. -/
def IsAscii (t : Text) : Prop := ∀ c ∈ t, c.val < 128

variable {t : Text} {c sep : Char}

@[simp] theorem raised_nil : Raised [] := by simp [Raised]

theorem raised_append {s : Text} (hs : s ≠ []) : Raised (s ++ t) ↔ Raised s := by
  simp [Raised, List.head?_append_of_ne_nil s hs]

@[simp] theorem raised_cons : Raised (c :: t) ↔ c.isLower = false := by simp [Raised]

instance (t : Text) : Decidable (IsAscii t) := List.decidableBAll (fun c : Char => c.val < 128) t

/-! ### Characters -/

theorem isLower_toUpper (hc : c.val < 128) : c.toUpper.isLower = false := by
  have hascii : ∀ n < 128, (Char.ofNat n).toUpper.isLower = false := by decide +kernel
  exact Text.forall_ascii (P := fun c => c.toUpper.isLower = false) hascii hc

/-- A small letter belongs to a word. -/
theorem isLower_eq_false (hc : c.val < 128) (h : Text.isWord c = false) : c.isLower = false := by
  have hascii : ∀ n < 128, Text.isWord (Char.ofNat n) = false →
      (Char.ofNat n).isLower = false := by
    decide +kernel
  exact Text.forall_ascii (P := fun c => Text.isWord c = false → c.isLower = false) hascii hc h

theorem toUpper_ne_space (hc : c.val < 128) (h : c ≠ ' ') : c.toUpper ≠ ' ' := by
  have hascii : ∀ n < 128, Char.ofNat n ≠ ' ' → (Char.ofNat n).toUpper ≠ ' ' := by decide +kernel
  exact Text.forall_ascii (P := fun c => c ≠ ' ' → c.toUpper ≠ ' ') hascii hc h

/-- Upper-casing an ASCII character gives one that is no new underscore. -/
theorem upperClosed_ascii : UpperClosed fun c => c.val < 128 ∧ c ≠ '_' := by
  have hascii : ∀ n < 128, Char.ofNat n ≠ '_' →
      (Char.ofNat n).toUpper.val < 128 ∧ (Char.ofNat n).toUpper ≠ '_' := by
    decide +kernel
  rintro c ⟨hc, hne⟩ d hd
  rw [Text.upperChar_ascii hc, List.mem_singleton] at hd
  subst hd
  exact Text.forall_ascii (P := fun c => c ≠ '_' → c.toUpper.val < 128 ∧ c.toUpper ≠ '_')
    hascii hc hne

theorem upperClosed_isAscii : UpperClosed fun c => c.val < 128 := by
  intro c hc d hd
  by_cases hne : c = '_'
  · subst hne
    rw [upperChar_of_isSeparator rfl, List.mem_singleton] at hd
    exact hd ▸ hc
  · exact (upperClosed_ascii c ⟨hc, hne⟩ d hd).1

/-! ### Passes of ASCII names -/

theorem IsAscii.title (ht : IsAscii t) : IsAscii (title t) :=
  forall_mem_title upperClosed_isAscii ht

theorem IsAscii.replaceInitialisms (ht : IsAscii t) : IsAscii (replaceInitialisms t) :=
  forall_mem_capitalize
    (fun _ hc => val_lt_of_isAlphanum (isAlphanum_of_isUpper_or_isDigit hc)) 0 ht

theorem IsAscii.squish (ht : IsAscii t) : IsAscii (squish t) :=
  fun c hc => ht c (List.mem_filter.1 hc).1

theorem IsAscii.foldSeparator (ht : IsAscii t) : IsAscii (foldSeparator sep t) :=
  forall_mem_foldSeparator upperClosed_isAscii fun c hc => .inr (ht c hc)

/-! ### The first character -/

/-- A title does not start with a small letter. -/
theorem raised_title (ht : IsAscii t) : Raised (title t) := by
  cases t with
  | nil => exact raised_nil
  | cons c rest =>
    have hc := ht c List.mem_cons_self
    rw [title, titleFrom]
    split
    · simp [Text.upperChar_ascii hc, isLower_toUpper hc]
    · rename_i hword
      exact raised_cons.2 (isLower_eq_false hc (by simpa using hword))

/-- There is no small letter after the spaces at the start of a title, either. -/
theorem raised_squish_title (ht : IsAscii t) : Raised (squish (title t)) := by
  induction t with
  | nil => exact raised_nil
  | cons c rest ih =>
    have hc := ht c List.mem_cons_self
    by_cases hspace : c = ' '
    · -- a space is no part of a word, so a title starts after it
      subst hspace
      exact ih fun d hd => ht d (List.mem_cons_of_mem _ hd)
    · rw [title, titleFrom]
      split
      · simp [squish, Text.upperChar_ascii hc, toUpper_ne_space hc hspace, isLower_toUpper hc]
      · rename_i hword
        have hlower := isLower_eq_false hc (by simpa using hword)
        simp [squish, hspace, hlower]

theorem initialismAt?_space (rest : Text) : initialismAt? (' ' :: rest) = none := by
  have hwords : ∀ word ∈ initialisms, word.head? ≠ some ' ' ∧ word ≠ [] := by decide +kernel
  refine List.find?_eq_none.2 fun word hword hprefix => ?_
  obtain ⟨hspace, hne⟩ := hwords word hword
  cases word with
  | nil => exact hne rfl
  | cons c word =>
    rw [List.isPrefixOf_cons_cons, Bool.and_eq_true, beq_iff_eq] at hprefix
    exact hspace (congrArg some hprefix.1)

/-- Initialisms start with a capital, and spelling them in capitals changes nothing else. -/
theorem raised_squish_replaceInitialisms (h : Raised (squish t)) :
    Raised (squish (replaceInitialisms t)) := by
  have hwords : ∀ word ∈ initialisms,
      (squish (word.map Char.toUpper)).head?.any (fun c => !c.isLower) = true := by
    decide +kernel
  rw [replaceInitialisms]
  induction t with
  | nil => exact h
  | cons c rest ih =>
    by_cases hspace : c = ' '
    · subst hspace
      rw [capitalize, initialismAt?_space]
      exact ih h
    · rw [capitalize]
      split
      · rename_i word hword
        have hhead := hwords word (eq_append_of_initialismAt? hword).1
        rw [squish, List.filter_append]
        rw [squish] at hhead
        generalize (word.map Char.toUpper).filter (· != ' ') = start at hhead
        cases start with
        | nil => cases hhead
        | cons d start => simpa using hhead
      · simp_all [squish]

/-- Titles after each other start with no small letter. -/
theorem raised_flatMap_title {ps : List Text} (h : ∀ p ∈ ps, IsAscii p) :
    Raised (ps.flatMap title) := by
  induction ps with
  | nil => exact raised_nil
  | cons p ps ih =>
    obtain ⟨hp, hps⟩ := List.forall_mem_cons.1 h
    rw [List.flatMap_cons]
    by_cases hnil : title p = []
    · rw [hnil]
      exact ih hps
    · exact (raised_append hnil).2 (raised_title hp)

/-- Folding a separator brings a title to the front at most. -/
theorem Raised.foldSeparator (h : Raised t) (ht : IsAscii t) : Raised (foldSeparator sep t) := by
  cases t with
  | nil => exact raised_nil
  | cons c rest =>
    by_cases hc : c = sep
    · -- the first part is empty, and titles follow
      subst hc
      have hsplit : Text.splitOn c (c :: rest) = [] :: Text.splitOn c rest :=
        Text.splitOn_append_cons (t := []) List.not_mem_nil rest
      rw [Naming.foldSeparator, hsplit]
      exact raised_flatMap_title fun p hp d hd =>
        ht d (List.mem_cons_of_mem c (Text.of_mem_splitWhere hp hd).1)
    · -- the first part starts as the text does
      have hsep : (c == sep) = false := beq_eq_false_iff_ne.2 hc
      rw [Naming.foldSeparator, Text.splitOn, Text.splitWhere, hsep, if_neg Bool.false_ne_true]
      cases Text.splitWhere (· == sep) rest with
      | nil => exact raised_cons.2 (raised_cons.1 h)
      | cons piece pieces => exact raised_cons.2 (raised_cons.1 h)

theorem IsAscii.normalize (ht : IsAscii t) : IsAscii (normalize t) :=
  ht.replaceInitialisms.squish.foldSeparator.foldSeparator

theorem IsAscii.normalizeTitle (ht : IsAscii t) : IsAscii (normalizeTitle t) := ht.title.normalize

/-- The field of an ASCII name does not start with a small letter. -/
theorem raised_normalizeTitle (ht : IsAscii t) : Raised (normalizeTitle t) := by
  have hsquished : IsAscii (squish (replaceInitialisms (title t))) :=
    ht.title.replaceInitialisms.squish
  have hraised := raised_squish_replaceInitialisms (raised_squish_title ht)
  exact (hraised.foldSeparator hsquished).foldSeparator hsquished.foldSeparator

/-- **The field of an ASCII name starts with a capital**, if it is an identifier. -/
theorem exists_isUpper_of_isIdentifier (ht : IsAscii t)
    (h : Text.isIdentifier (normalizeTitle t) = true) :
    ∃ c rest, normalizeTitle t = c :: rest ∧ c.isUpper = true := by
  have hraised := raised_normalizeTitle ht
  have hchars : ∀ c ∈ normalizeTitle t, c.val < 128 ∧ c ≠ '_' := by
    refine forall_mem_foldSeparator upperClosed_ascii fun c hc => ?_
    by_cases hne : c = '_'
    · exact .inl hne
    · exact .inr ⟨ht.title.replaceInitialisms.squish.foldSeparator c hc, hne⟩
  cases hname : normalizeTitle t with
  | nil => rw [hname] at h; cases h
  | cons c rest =>
    rw [hname] at h hraised hchars
    obtain ⟨hascii, hne⟩ := hchars c List.mem_cons_self
    -- an identifier starts with a letter or an underscore
    rw [Text.isIdentifier, Text.isIdentifierStart, if_pos hascii, Bool.and_eq_true,
      Bool.or_eq_true, beq_iff_eq] at h
    have hletter : c.isAlpha = true := h.1.resolve_right hne
    have hlower := raised_cons.1 hraised
    exact ⟨c, rest, rfl, (Bool.or_eq_true_iff.1 hletter).resolve_right (by simp [hlower])⟩

end Naming

end SchemaStructs
