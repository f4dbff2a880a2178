import SchemaStructs.Text.Case

/-!
# Upper case

A text in upper case stays as it is when it is put in upper case once more: a character of an
upper-case form is its own upper-case form (`Text.upperChar_of_mem`).  Of ASCII characters,
upper-casing brings in capital letters only (`Text.eq_or_isUpper_of_mem_upperChar`).

No code point that the tables map to is one that they map.  To compare the two lists without going
through all pairs, one of them is kept as the bits of a number (`Text.bits`).
-/

namespace SchemaStructs

namespace Text

/-- The code points of the run. -/
def CaseRun.points (r : CaseRun) : List Nat :=
  (List.range' r.first (r.last + 1 - r.first)).filter r.covers

/-- Where the run takes a code point. -/
def CaseRun.target (r : CaseRun) (n : Nat) : Nat := (n + r.offset).toNat

/-- The number with the given bits. -/
def bits (l : List Nat) : Nat := l.foldr (fun n m => 1 <<< n ||| m) 0

/-- The code points beyond ASCII with an upper-case form. -/
def upperDomain : List Nat := upperRuns.flatMap (·.points) ++ upperLong.map (·.1)

/-- The code points in the upper-case forms of characters beyond ASCII. -/
def upperImages : List Nat :=
  upperRuns.flatMap (fun r => r.points.map r.target) ++ upperLong.flatMap (·.2)

variable {r : CaseRun} {n : Nat} {c d : Char}

theorem CaseRun.mem_points (h : r.covers n = true) : n ∈ r.points := by
  refine List.mem_filter.2 ⟨List.mem_range'_1.2 ?_, h⟩
  simp only [covers, Bool.and_eq_true, decide_eq_true_eq] at h
  omega

theorem testBit_bits {l : List Nat} : (bits l).testBit n = true ↔ n ∈ l := by
  induction l with
  | nil => simp [bits]
  | cons m l ih =>
    have hcons : bits (m :: l) = 1 <<< m ||| bits l := rfl
    rw [hcons, Nat.testBit_or, Bool.or_eq_true, ih, Nat.one_shiftLeft, Nat.testBit_two_pow,
      decide_eq_true_eq, List.mem_cons, eq_comm]

/-- A code point of an upper-case form is that of a character without an upper-case form of its own;
in ASCII it is that of a capital letter. -/
theorem of_mem_upperImages (h : n ∈ upperImages) :
    n ∉ upperDomain ∧ (Char.ofNat n).toNat = n ∧ (Char.ofNat n).toUpper = Char.ofNat n ∧
      ((Char.ofNat n).isUpper = true ∨ 128 ≤ n) := by
  -- one pass over the table; a set of bits is fast to look up in
  have hall : (upperImages.all fun n => !(bits upperDomain).testBit n && (Char.ofNat n).toNat == n
      && (Char.ofNat n).toUpper == Char.ofNat n && ((Char.ofNat n).isUpper || Nat.ble 128 n)) =
        true := by
    decide +kernel
  have hn := List.all_eq_true.1 hall n h
  simp only [Bool.and_eq_true, Bool.or_eq_true, Bool.not_eq_true', beq_iff_eq, Nat.ble_eq] at hn
  obtain ⟨⟨⟨hbit, hnat⟩, hupper⟩, hcapital⟩ := hn
  refine ⟨fun hm => ?_, hnat, hupper, hcapital⟩
  rw [testBit_bits.2 hm] at hbit
  cases hbit

/-- The upper-case form of an ASCII character is one, too. -/
theorem upperChar_ascii (h : c.val < 128) : upperChar c = [c.toUpper] := if_pos h

/-- A character beyond ASCII that is not in the tables stands for itself. -/
theorem upperChar_eq_self (hc : ¬ c.val < 128) (h : c.toNat ∉ upperDomain) : upperChar c = [c] := by
  have hlong : upperLong.find? (·.1 == c.toNat) = none := by
    refine List.find?_eq_none.2 fun p hp heq => h (List.mem_append_right _ ?_)
    exact beq_iff_eq.1 heq ▸ List.mem_map_of_mem hp
  have hruns : upperRuns.find? (·.covers c.toNat) = none :=
    List.find?_eq_none.2 fun r hr hcovers => h (List.mem_append_left _
      (List.mem_flatMap.2 ⟨r, hr, CaseRun.mem_points hcovers⟩))
  rw [upperChar, if_neg hc, hlong]
  simp only [mapByRuns, hruns]

/-- A character beyond ASCII stands for itself or has an upper-case form from the tables. -/
theorem upperChar_cases (hc : ¬ c.val < 128) :
    upperChar c = [c] ∨ ∀ d ∈ upperChar c, ∃ n ∈ upperImages, d = Char.ofNat n := by
  rw [upperChar, if_neg hc]
  -- a form of several characters, a form from the runs, or none
  split
  · rename_i p long hp
    refine .inr fun d hd => ?_
    obtain ⟨n, hn, rfl⟩ := List.mem_map.1 hd
    exact ⟨n, List.mem_append_right _
      (List.mem_flatMap.2 ⟨_, List.mem_of_find?_eq_some hp, hn⟩), rfl⟩
  · rw [mapByRuns]
    split
    · rename_i r hr
      have hcovers : r.covers c.toNat = true := by simpa using List.find?_some hr
      refine .inr fun d hd => ⟨r.target c.toNat, List.mem_append_left _ (List.mem_flatMap.2
        ⟨r, List.mem_of_find?_eq_some hr, List.mem_map_of_mem (CaseRun.mem_points hcovers)⟩), ?_⟩
      exact List.mem_singleton.1 hd
    · exact .inl rfl

/-- A statement about all ASCII characters is one about finitely many. -/
theorem forall_ascii {P : Char → Prop} (h : ∀ n < 128, P (Char.ofNat n)) (hc : c.val < 128) :
    P c := by
  have := h c.toNat (UInt32.lt_iff_toNat_lt.1 hc)
  rwa [Char.ofNat_toNat] at this

/-- **A character of an upper-case form is its own upper-case form.** -/
theorem upperChar_of_mem (hd : d ∈ upperChar c) : upperChar d = [d] := by
  have hascii : ∀ n < 128, upperChar (Char.ofNat n).toUpper = [(Char.ofNat n).toUpper] := by
    decide +kernel
  by_cases hc : c.val < 128
  · rw [upperChar_ascii hc, List.mem_singleton] at hd
    subst hd
    exact forall_ascii (P := fun c => upperChar c.toUpper = [c.toUpper]) hascii hc
  · rcases upperChar_cases hc with hself | himages
    · rw [hself, List.mem_singleton] at hd
      rw [hd, hself]
    · obtain ⟨n, hn, rfl⟩ := himages d hd
      obtain ⟨hfixed, hnat, hupper, -⟩ := of_mem_upperImages hn
      by_cases hascii : (Char.ofNat n).val < 128
      · rw [upperChar_ascii hascii, hupper]
      · exact upperChar_eq_self hascii (hnat.symm ▸ hfixed)

/-- The only ASCII characters that an upper-case form brings in are capital letters. -/
theorem eq_or_isUpper_of_mem_upperChar (hd : d ∈ upperChar c) :
    d = c ∨ d.isUpper = true ∨ 128 ≤ d.toNat := by
  have hascii : ∀ n < 128, (Char.ofNat n).toUpper = Char.ofNat n ∨
      (Char.ofNat n).toUpper.isUpper = true := by
    decide +kernel
  by_cases hc : c.val < 128
  · rw [upperChar_ascii hc, List.mem_singleton] at hd
    subst hd
    exact (forall_ascii (P := fun c => c.toUpper = c ∨ c.toUpper.isUpper = true) hascii
      hc).imp_right .inl
  · rcases upperChar_cases hc with hself | himages
    · rw [hself, List.mem_singleton] at hd
      exact .inl hd
    · obtain ⟨n, hn, rfl⟩ := himages d hd
      obtain ⟨-, hnat, -, hcapital⟩ := of_mem_upperImages hn
      exact .inr (hcapital.imp_right fun h => hnat.symm ▸ h)

end Text

end SchemaStructs
