import SchemaStructs.Proofs.Naming.Skeleton

/-!
# Go names of plain names

A *plain* name starts with an ASCII letter and has letters, digits and separators only.  The naming
passes take out one kind of separator after the other and bring in nothing but capital letters, so
the Go name of a plain name is a word of letters and digits (`Naming.isGoWord_typeName`,
`Naming.isGoWord_normalizeTitle`).  The passes are followed with the separators that are still there
(`Naming.Over`).
-/

namespace SchemaStructs

namespace Naming

/-- The name starts with an ASCII letter; letters, digits and separators follow. -/
def isPlain : Text → Bool
  | [] => false
  | c :: rest => c.isAlpha && rest.all fun d => d.isAlphanum || isSeparator d

/-- The name of a type is plain, or that of a type that Go provides. -/
def isPlainType (t : Text) : Bool := isPlain t || isPrimitive t

/-- The text is not empty and has ASCII letters and digits only. -/
structure IsGoWord (t : Text) : Prop where
  /-- The text is not empty. -/
  ne_nil : t ≠ []
  /-- Its characters are letters and digits. -/
  isAlphanum : ∀ c ∈ t, c.isAlphanum = true

/-- Apart from letters and digits, the text has characters of the given ones only. -/
def Over (seps t : Text) : Prop := ∀ c ∈ t, c.isAlphanum = true ∨ c ∈ seps

instance (seps t : Text) : Decidable (Over seps t) :=
  List.decidableBAll (fun c : Char => c.isAlphanum = true ∨ c ∈ seps) t

variable {seps s t n : Text} {sep c d : Char} {style : TypeStyle}

theorem IsGoWord.not_mem (h : IsGoWord t) (hc : c.isAlphanum = false) : c ∉ t := fun hm => by
  rw [h.isAlphanum c hm] at hc
  cases hc

theorem Over.append (hs : Over seps s) (ht : Over seps t) : Over seps (s ++ t) := fun c hc =>
  (List.mem_append.1 hc).elim (hs c) (ht c)

/-! ### Characters -/

theorem isAlphanum_of_isAlpha (h : c.isAlpha = true) : c.isAlphanum = true :=
  Bool.or_eq_true_iff.2 (.inl h)

theorem isAlphanum_of_isUpper_or_isDigit (h : c.isUpper = true ∨ c.isDigit = true) :
    c.isAlphanum = true := by
  rcases h with h | h
  · exact isAlphanum_of_isAlpha (Bool.or_eq_true_iff.2 (.inl h))
  · exact Bool.or_eq_true_iff.2 (.inr h)

theorem val_lt_of_isAlphanum (h : c.isAlphanum = true) : c.val < 128 := by
  have hranges : c.isAlphanum = (decide ('A'.val ≤ c.val ∧ c.val ≤ 'Z'.val)
      || decide ('a'.val ≤ c.val) && decide (c.val ≤ 'z'.val)
      || decide ('0'.val ≤ c.val) && decide (c.val ≤ '9'.val)) := rfl
  rw [hranges] at h
  simp only [Bool.or_eq_true, Bool.and_eq_true, decide_eq_true_eq, UInt32.le_iff_toNat_le] at h
  have hZ : 'Z'.val.toNat = 90 := rfl
  have hz : 'z'.val.toNat = 122 := rfl
  have h9 : '9'.val.toNat = 57 := rfl
  have h128 : (128 : UInt32).toNat = 128 := rfl
  rw [UInt32.lt_iff_toNat_lt]
  omega

/-- Upper-casing keeps letters and digits. -/
theorem isAlphanum_of_mem_upperChar (hc : c.isAlphanum = true) (hd : d ∈ Text.upperChar c) :
    d.isAlphanum = true := by
  have hascii : ∀ n < 128, (Char.ofNat n).isAlphanum = true →
      (Char.ofNat n).toUpper.isAlphanum = true := by
    decide +kernel
  have hlt := val_lt_of_isAlphanum hc
  rw [Text.upperChar_ascii hlt, List.mem_singleton] at hd
  subst hd
  exact Text.forall_ascii (P := fun c => c.isAlphanum = true → c.toUpper.isAlphanum = true)
    hascii hlt hc

theorem isSeparator_of_isAlphanum (hc : c.isAlphanum = true) : isSeparator c = false := by
  rw [Bool.eq_false_iff]
  intro hsep
  rcases isSeparator_iff.1 hsep with rfl | rfl | rfl <;> exact absurd hc (by decide)

theorem skeletonChar_of_isAlphanum (hc : c.isAlphanum = true) : skeletonChar c = [c.toUpper] := by
  rw [skeletonChar, isSeparator_of_isAlphanum hc, if_neg Bool.false_ne_true,
    Text.upperChar_ascii (val_lt_of_isAlphanum hc)]

theorem over_upperChar (hseps : seps.all isSeparator = true)
    (hc : c.isAlphanum = true ∨ c ∈ seps) : Over seps (Text.upperChar c) := by
  intro d hd
  rcases hc with hc | hc
  · exact .inl (isAlphanum_of_mem_upperChar hc hd)
  · rw [upperChar_of_isSeparator (List.all_eq_true.1 hseps c hc), List.mem_singleton] at hd
    exact .inr (hd ▸ hc)

/-! ### The passes -/

section Passes

variable {P : Char → Prop}

/-- Upper-casing a character keeps the property. -/
def UpperClosed (P : Char → Prop) : Prop := ∀ c, P c → ∀ d ∈ Text.upperChar c, P d

theorem forall_mem_titleFrom (hP : UpperClosed P) (inside : Bool) (ht : ∀ c ∈ t, P c) :
    ∀ c ∈ titleFrom inside t, P c := by
  induction t generalizing inside with
  | nil => exact ht
  | cons c rest ih =>
    obtain ⟨hc, hrest⟩ := List.forall_mem_cons.1 ht
    rw [titleFrom]
    -- a character stays, or is the first one of a word and upper-cased
    split
    · split
      · exact List.forall_mem_cons.2 ⟨hc, ih true hrest⟩
      · exact List.forall_mem_append.2 ⟨hP c hc, ih true hrest⟩
    · exact List.forall_mem_cons.2 ⟨hc, ih false hrest⟩

theorem forall_mem_title (hP : UpperClosed P) (ht : ∀ c ∈ t, P c) : ∀ c ∈ title t, P c :=
  forall_mem_titleFrom hP false ht

theorem forall_mem_capitalize (hP : ∀ c : Char, c.isUpper = true ∨ c.isDigit = true → P c)
    (skip : Nat) (ht : ∀ c ∈ t, P c) : ∀ c ∈ capitalize skip t, P c := by
  have hwords : ∀ word ∈ initialisms,
      (word.map Char.toUpper).all (fun c => c.isUpper || c.isDigit) = true := by
    decide +kernel
  induction t generalizing skip with
  | nil => exact ht
  | cons c rest ih =>
    obtain ⟨hc, hrest⟩ := List.forall_mem_cons.1 ht
    cases skip with
    | succ n => exact ih n hrest
    | zero =>
      rw [capitalize]
      split
      · -- an initialism is put in, whatever it stands for
        rename_i word hword
        have hmem := (eq_append_of_initialismAt? hword).1
        refine List.forall_mem_append.2 ⟨fun d hd => hP d ?_, ih _ hrest⟩
        simpa using List.all_eq_true.1 (hwords word hmem) d hd
      · exact List.forall_mem_cons.2 ⟨hc, ih 0 hrest⟩

/-- Folding a separator keeps what holds of the other characters. -/
theorem forall_mem_foldSeparator (hP : UpperClosed P) (ht : ∀ c ∈ t, c = sep ∨ P c) :
    ∀ c ∈ foldSeparator sep t, P c := by
  have hpieces : ∀ p ∈ Text.splitOn sep t, ∀ c ∈ p, P c := by
    intro p hp c hc
    obtain ⟨hmem, hne⟩ := Text.of_mem_splitWhere hp hc
    exact (ht c hmem).resolve_left (beq_eq_false_iff_ne.1 hne)
  rw [foldSeparator]
  cases hsplit : Text.splitOn sep t with
  | nil => exact fun c hc => absurd hc List.not_mem_nil
  | cons first others =>
    rw [hsplit] at hpieces
    obtain ⟨hfirst, hothers⟩ := List.forall_mem_cons.1 hpieces
    refine List.forall_mem_append.2 ⟨hfirst, fun c hc => ?_⟩
    obtain ⟨p, hp, hc⟩ := List.mem_flatMap.1 hc
    exact forall_mem_title hP (hothers p hp) c hc

end Passes

theorem upperClosed_over (hseps : seps.all isSeparator = true) :
    UpperClosed fun c => c.isAlphanum = true ∨ c ∈ seps :=
  fun _ hc => over_upperChar hseps hc

theorem over_title (hseps : seps.all isSeparator = true) (ht : Over seps t) :
    Over seps (title t) :=
  forall_mem_title (upperClosed_over hseps) ht

theorem over_capitalize (skip : Nat) (ht : Over seps t) : Over seps (capitalize skip t) :=
  forall_mem_capitalize (fun _ hc => .inl (isAlphanum_of_isUpper_or_isDigit hc)) skip ht

/-- Squishing takes out the spaces. -/
theorem over_squish (ht : Over (' ' :: seps) t) : Over seps (squish t) := by
  intro c hc
  obtain ⟨hmem, hne⟩ := List.mem_filter.1 hc
  refine (ht c hmem).imp_right fun h => ?_
  exact (List.mem_cons.1 h).resolve_left (bne_iff_ne.1 hne)

/-- Folding a separator takes it out. -/
theorem over_foldSeparator (hseps : seps.all isSeparator = true) (ht : Over (sep :: seps) t) :
    Over seps (foldSeparator sep t) := by
  refine forall_mem_foldSeparator (upperClosed_over hseps) fun c hc => ?_
  rcases ht c hc with hc | hc
  · exact .inr (.inl hc)
  · exact (List.mem_cons.1 hc).imp_right .inr

/-- **Normalizing takes out all separators.** -/
theorem over_normalize (ht : Over [' ', '-', '_'] t) : Over [] (normalize t) := by
  -- one kind of separator goes with each pass
  have hsquished : Over ['-', '_'] (squish (replaceInitialisms t)) :=
    over_squish (over_capitalize 0 ht)
  have hdashed : Over ['_'] (dashToCamel (squish (replaceInitialisms t))) :=
    over_foldSeparator rfl hsquished
  exact over_foldSeparator rfl hdashed

/-! ### Names -/

/-- The text has no characters but those of plain names, and not separators alone. -/
structure IsRaw (t : Text) : Prop where
  /-- The characters are letters, digits and separators. -/
  chars : Over [' ', '-', '_'] t
  /-- There is a letter or a digit. -/
  skeleton_ne : skeleton t ≠ []

theorem isRaw_of_isPlain (h : isPlain t = true) : IsRaw t := by
  cases t with
  | nil => cases h
  | cons c rest =>
    rw [isPlain, Bool.and_eq_true, List.all_eq_true] at h
    obtain ⟨hfirst, hrest⟩ := h
    have hc := isAlphanum_of_isAlpha hfirst
    refine ⟨fun d hd => ?_, ?_⟩
    · rcases List.mem_cons.1 hd with rfl | hd
      · exact .inl hc
      · refine (Bool.or_eq_true_iff.1 (hrest d hd)).imp_right fun hsep => ?_
        simpa [isSeparator, or_assoc] using hsep
    · rw [skeleton_cons, skeletonChar_of_isAlphanum hc]
      exact List.cons_ne_nil _ _

theorem IsRaw.title (h : IsRaw t) : IsRaw (title t) :=
  ⟨over_title rfl h.chars, by rw [skeleton_title]; exact h.skeleton_ne⟩

theorem IsRaw.append (hs : IsRaw s) (ht : Over [' ', '-', '_'] t) : IsRaw (s ++ t) :=
  ⟨hs.chars.append ht, by
    rw [skeleton_append]
    exact fun h => hs.skeleton_ne (List.append_eq_nil_iff.1 h).1⟩

/-- Normalizing keeps the skeleton, so it does not lose all characters. -/
theorem IsRaw.isGoWord_normalize (h : IsRaw t) : IsGoWord (normalize t) := by
  refine ⟨fun hnil => h.skeleton_ne ?_, fun c hc => ?_⟩
  · rw [← skeleton_normalize, hnil, skeleton_nil]
  · exact (over_normalize h.chars c hc).resolve_right (List.not_mem_nil)

/-- **The field of a plain name is a word.** -/
theorem isGoWord_normalizeTitle (h : isPlain t = true) : IsGoWord (normalizeTitle t) :=
  (isRaw_of_isPlain h).title.isGoWord_normalize

/-- A plain prefix makes up for a name that is not plain. -/
theorem IsRaw.led (hlead : style.lead = [] ∨ isPlain style.lead = true)
    (hn : Over [' ', '-', '_'] n) (hplain : style.lead = [] → isPlain n = true) :
    IsRaw (style.led n) := by
  rw [TypeStyle.led]
  split
  · rename_i hempty
    exact isRaw_of_isPlain (hplain (List.isEmpty_iff.1 hempty))
  · rename_i hne
    have hlead := hlead.resolve_left fun hempty => hne (List.isEmpty_iff.2 hempty)
    exact (isRaw_of_isPlain hlead).append (over_title rfl hn)

theorem IsRaw.isGoWord_typeName (h : IsRaw (style.led n)) (hprimitive : isPrimitive n = false) :
    IsGoWord (style.typeName n) := by
  rw [typeName_eq hprimitive]
  split
  · exact h.title.isGoWord_normalize
  · exact h.isGoWord_normalize

/-- **The type of a plain name is a word**, if the prefix is plain or empty. -/
theorem isGoWord_typeName (hlead : style.lead = [] ∨ isPlain style.lead = true)
    (h : isPlain n = true) : IsGoWord (style.typeName n) := by
  have hprimitive : ∀ n ∈ primitives, isPlain n = true → n ≠ [] ∧ n.all Char.isAlphanum = true := by
    decide +kernel
  cases hn : isPrimitive n with
  | true =>
    obtain ⟨hne, hall⟩ := hprimitive n (List.contains_iff_mem.1 hn) h
    rw [TypeStyle.typeName, if_pos hn]
    exact ⟨hne, List.all_eq_true.1 hall⟩
  | false => exact (IsRaw.led hlead (isRaw_of_isPlain h).chars fun _ => h).isGoWord_typeName hn

/-- The one type of Go that is no word. -/
def timeType : Text := "time.Time"

theorem isPlain_or_eq_timeType (h : isPlainType t = true) : isPlain t = true ∨ t = timeType := by
  have hprimitive : ∀ n ∈ primitives, isPlain n = true ∨ n = timeType := by decide +kernel
  exact (Bool.or_eq_true_iff.1 h).elim .inl fun hn => hprimitive t (List.contains_iff_mem.1 hn)

theorem typeName_timeType (style : TypeStyle) : style.typeName timeType = timeType := if_pos rfl

theorem normalize_timeType : normalize timeType = timeType := by decide +kernel

/-- What is printed for a type: a word, or the type of times. -/
def IsGoType (t : Text) : Prop := IsGoWord t ∨ t = timeType

theorem isGoType_typeName (hlead : style.lead = [] ∨ isPlain style.lead = true)
    (h : isPlainType t = true) : IsGoType (style.typeName t) := by
  rcases isPlain_or_eq_timeType h with h | rfl
  · exact .inl (isGoWord_typeName hlead h)
  · exact .inr (typeName_timeType style)

theorem isGoType_normalize (h : isPlainType t = true) : IsGoType (normalize t) := by
  rcases isPlain_or_eq_timeType h with h | rfl
  · exact .inl (isRaw_of_isPlain h).isGoWord_normalize
  · exact .inr normalize_timeType

end Naming

end SchemaStructs
