import SchemaStructs.Json.Basic
import SchemaStructs.Proofs.Text.Pieces

/-!
# What the spelling of a value tells

Values that a comparison does not tell apart have the same canonical spelling.  A framed text can be
read back from its spelling (`Json.framed_inj`), so

* a text is alike to the same text only (`Json.eq_of_spelling_str`);
* values that are alike count as true together (`Json.truthy_congr`), because the values that count
  as false have one of five spellings (`Json.truthy_eq_false_iff`).
-/

namespace SchemaStructs

theorem Text.ofNat_inj {m n : Nat} (h : Text.ofNat m = Text.ofNat n) : m = n := by
  have := congrArg (Nat.ofDigitChars 10 · 0) h
  simpa [Text.ofNat] using this

theorem Text.not_mem_ofNat {c : Char} {n : Nat} (hc : c.isDigit = false) : c ∉ Text.ofNat n :=
  fun h => by
    rw [Nat.isDigit_of_mem_toDigits (by decide) (by decide) h] at hc
    cases hc

theorem Text.ofInt_eq_zero_iff {n : Int} : Text.ofInt n = Text.ofNat 0 ↔ n = 0 := by
  constructor
  · intro h
    cases n with
    | ofNat n => rw [Text.ofNat_inj h]; rfl
    | negSucc n =>
      have hmem : '-' ∈ Text.ofNat 0 := h ▸ List.mem_cons_self
      exact absurd hmem (Text.not_mem_ofNat rfl)
  · rintro rfl
    rfl

namespace Json

/-- The mark and the text of a frame can be read back. -/
theorem framed_inj {mark mark' : Char} {t t' : Text} (h : framed mark t = framed mark' t') :
    mark = mark' ∧ t = t' := by
  obtain ⟨hmark, h⟩ := List.cons.inj h
  exact ⟨hmark, (Text.append_cons_inj (Text.not_mem_ofNat rfl) (Text.not_mem_ofNat rfl) h).2⟩

theorem framed_eq_iff {mark mark' : Char} {t t' : Text} :
    framed mark t = framed mark' t' ↔ mark = mark' ∧ t = t' :=
  ⟨framed_inj, fun ⟨hmark, ht⟩ => hmark ▸ ht ▸ rfl⟩

theorem framed_mark_ne {mark mark' : Char} {t t' : Text} (h : mark ≠ mark') :
    framed mark t ≠ framed mark' t' :=
  fun he => h (framed_inj he).1

theorem spelling_ne_nil (j : Json) : j.spelling ≠ [] := by
  cases j with
  | float x =>
    rw [spelling]
    split <;> simp [framed]
  | _ => simp [spelling, framed]

/-- The spelling of a floating-point number is that of a number or one of its own. -/
theorem spelling_float (x : Binary) :
    (∃ n, x.toInt? = some n ∧ (Json.float x).spelling = framed 'n' (Text.ofInt n)) ∨
      x.toInt? = none ∧ (Json.float x).spelling = framed 'f' x.render := by
  cases h : x.toInt? with
  | some n => exact .inl ⟨n, rfl, by rw [spelling, h]⟩
  | none => exact .inr ⟨rfl, by rw [spelling, h]⟩

/-- Only a text is spelled like a text, and only the same one. -/
theorem eq_of_spelling_str {j : Json} {t : Text} (h : j.spelling = (Json.str t).spelling) :
    j = .str t := by
  have hstr : (Json.str t).spelling = framed 's' t := by rw [spelling]
  rw [hstr] at h
  cases j with
  | str u =>
    rw [spelling] at h
    rw [(framed_inj h).2]
  | null => rw [spelling] at h; simp [framed] at h
  | float x =>
    rcases spelling_float x with ⟨n, -, hx⟩ | ⟨-, hx⟩ <;> rw [hx] at h <;>
      exact absurd h (framed_mark_ne (by decide))
  | bool | int | arr | obj => rw [spelling] at h; exact absurd h (framed_mark_ne (by decide))

/-! ### Truth -/

/-- The spellings of the values that count as false. -/
def falseSpellings : List Text :=
  [['z'], framed 'n' (Text.ofNat 0), framed 's' [], framed 'l' [], framed 'o' []]

theorem framed_mem_falseSpellings {mark : Char} {t : Text} :
    framed mark t ∈ falseSpellings ↔
      mark = 'n' ∧ t = Text.ofNat 0 ∨ (mark = 's' ∨ mark = 'l' ∨ mark = 'o') ∧ t = [] := by
  have hz : framed mark t ≠ ['z'] := by simp [framed]
  simp only [falseSpellings, List.mem_cons, hz, false_or, framed_eq_iff, List.not_mem_nil, or_false]
  rw [or_and_right, or_and_right]

/-- Zero is the floating-point number that counts as the integer zero. -/
theorem toInt?_eq_zero_iff {x : Binary} : x.toInt? = some 0 ↔ x.isZero = true := by
  cases x with
  | infinite => simp [Binary.toInt?, Binary.isZero]
  | nan => simp [Binary.toInt?, Binary.isZero]
  | finite negative m e =>
    have hsign : ∀ n : Nat, (if negative then -(n : Int) else n) = 0 ↔ n = 0 := fun n => by
      split <;> omega
    have hpos : ∀ n, Binary.power 2 n ≠ 0 := fun n =>
      Nat.ne_of_gt (Nat.pow_pos (by decide))
    simp only [Binary.toInt?, Binary.isZero, beq_iff_eq]
    split
    · rw [Option.some.injEq, hsign, Nat.mul_eq_zero]
      exact or_iff_left (hpos _)
    · split
      · rename_i hmod
        rw [Option.some.injEq, hsign]
        constructor
        · intro hdiv
          rw [← Nat.div_add_mod m (Binary.power 2 (-e).toNat), hdiv, hmod, Nat.mul_zero]
        · rintro rfl
          exact Nat.zero_div _
      · rename_i hmod
        refine ⟨fun h => (Option.some_ne_none _ h.symm).elim, ?_⟩
        rintro rfl
        exact absurd (Nat.zero_mod _) hmod

theorem mem_insertSorted (m : Text) (l : List Text) : m ∈ insertSorted m l := by
  induction l with
  | nil => exact List.mem_singleton.2 rfl
  | cons x rest ih =>
    rw [insertSorted]
    split
    · exact List.mem_cons_self
    · exact List.mem_cons_of_mem _ ih

theorem spellings_eq_nil_iff {items : List Json} : spellings items = [] ↔ items = [] := by
  cases items with
  | nil => simp [spellings]
  | cons item rest => simp [spellings, spelling_ne_nil]

theorem memberSpellings_eq_nil_iff {members : List (Text × Json)} :
    (memberSpellings members).flatten = [] ↔ members = [] := by
  cases members with
  | nil => simp [memberSpellings]
  | cons m rest =>
    obtain ⟨key, value⟩ := m
    simp only [memberSpellings, List.flatten_eq_nil_iff, reduceCtorEq, iff_false]
    intro h
    have := h _ (mem_insertSorted (framed 'k' key ++ value.spelling) (memberSpellings rest))
    simp [framed] at this

/-- The values that count as false are told by their spelling. -/
theorem truthy_eq_false_iff {j : Json} : j.truthy = false ↔ j.spelling ∈ falseSpellings := by
  cases j with
  | null => simp [truthy, spelling, falseSpellings]
  | bool b =>
    have hone : Text.ofNat 1 ≠ Text.ofNat 0 := fun h => absurd (Text.ofNat_inj h) (by decide)
    cases b <;> simp [truthy, spelling, framed_mem_falseSpellings, hone]
  | int n => simp [truthy, spelling, framed_mem_falseSpellings, Text.ofInt_eq_zero_iff]
  | str t => simp [truthy, spelling, framed_mem_falseSpellings]
  | arr items => simp [truthy, spelling, framed_mem_falseSpellings, spellings_eq_nil_iff]
  | obj members =>
    rw [spelling, framed_mem_falseSpellings, memberSpellings_eq_nil_iff]
    simp [truthy]
  | float x =>
    have hzero := toInt?_eq_zero_iff (x := x)
    rcases spelling_float x with ⟨n, hn, hx⟩ | ⟨hn, hx⟩
    · rw [hn] at hzero
      simp [truthy, hx, framed_mem_falseSpellings, Text.ofInt_eq_zero_iff, ← hzero]
    · -- what counts as no integer is not zero
      rw [hn] at hzero
      simp [truthy, hx, framed_mem_falseSpellings, ← hzero]

/-- Values that are alike count as true together. -/
theorem truthy_congr {a b : Json} (h : a.spelling = b.spelling) : a.truthy = b.truthy := by
  have hiff : a.truthy = false ↔ b.truthy = false := by
    rw [truthy_eq_false_iff, truthy_eq_false_iff, h]
  cases ha : a.truthy <;> cases hb : b.truthy <;> simp_all

end Json

end SchemaStructs
