import SchemaStructs.Json.Showable
import SchemaStructs.Proofs.Json.Number
import SchemaStructs.Proofs.Json.Steps

/-!
# What is read can be shown

The limits of showing a value are those of reading one, so nothing comes in the way of showing what
was read (`Json.obstacle?_of_read`), nor of showing a part of it (`Json.obstacle?_of_mem`).

The number of digits of an integer bounds it (`Text.toNat_lt_pow`), and every list and object takes
up as much room in reading as in showing.  The readers of values, items and members are followed
together, by induction on the fuel (`Json.shown_all`).
-/

namespace SchemaStructs

/-- A number of so many digits is less than the power of ten. -/
theorem Text.toNat_lt_pow {t : Text} (h : t.all Char.isDigit = true) :
    Text.toNat t < 10 ^ t.length := by
  have hfold (n : Nat) :
      t.foldl (fun n d => 10 * n + (d.toNat - '0'.toNat)) n < (n + 1) * 10 ^ t.length := by
    induction t generalizing n with
    | nil => simp
    | cons d rest ih =>
      rw [List.all_cons, Bool.and_eq_true] at h
      have hdigit : d.toNat - '0'.toNat ≤ 9 := by
        have hle : d.val ≤ '9'.val := by simpa using (Bool.and_eq_true_iff.1 h.1).2
        have hnat : d.toNat ≤ '9'.toNat := UInt32.le_iff_toNat_le.1 hle
        have hnine : '9'.toNat = 57 := rfl
        have hzero : '0'.toNat = 48 := rfl
        omega
      have hstep : 10 * n + (d.toNat - '0'.toNat) + 1 ≤ (n + 1) * 10 := by omega
      rw [List.foldl_cons, List.length_cons, Nat.pow_succ', ← Nat.mul_assoc]
      exact Nat.lt_of_lt_of_le (ih h.2 _) (Nat.mul_le_mul_right _ hstep)
  simpa [Text.toNat] using hfold 0

namespace Json

variable {j : Json} {items : List Json} {members : List (Text × Json)} {t : Text} {next : Rest}
variable {fuel room pos : Nat}

/-! ### Obstacles -/

theorem obstacleItems?_eq_none_iff :
    obstacleItems? room items = none ↔ ∀ j ∈ items, obstacleWithin? room j = none := by
  induction items with
  | nil => simp [obstacleItems?]
  | cons item rest ih => simp [obstacleItems?, ih]

theorem obstacleMembers?_eq_none_iff :
    obstacleMembers? room members = none ↔ ∀ m ∈ members, obstacleWithin? room m.2 = none := by
  induction members with
  | nil => simp [obstacleMembers?]
  | cons m rest ih => simp [obstacleMembers?, ih]

/-- More room is no obstacle. -/
theorem obstacleWithin?_succ (h : obstacleWithin? room j = none) :
    obstacleWithin? (room + 1) j = none := by
  induction room generalizing j with
  | zero => cases j <;> simp_all [obstacleWithin?]
  | succ room ih =>
    cases j with
    | arr items =>
      simp only [obstacleWithin?, obstacleItems?_eq_none_iff] at h ⊢
      exact fun j hj => ih (h j hj)
    | obj members =>
      simp only [obstacleWithin?, obstacleMembers?_eq_none_iff] at h ⊢
      exact fun m hm => ih (h m hm)
    | _ => simp_all [obstacleWithin?]

/-- The members of an object that can be shown can be shown. -/
theorem obstacle?_of_mem (h : obstacle? (.obj members) = none) {m : Text × Json}
    (hm : m ∈ members) : m.2.obstacle? = none := by
  have hmembers : obstacleMembers? 984 members = none := h
  exact obstacleWithin?_succ (obstacleMembers?_eq_none_iff.1 hmembers m hm)

/-! ### Numbers and words -/

theorem all_isDigit_of_wholePart {whole rest : Text} (h : wholePart t = some (whole, rest)) :
    whole.all Char.isDigit = true := by
  unfold wholePart at h
  split at h
  · cases h
    rfl
  · dsimp only at h
    split at h
    · cases h
    · cases h
      exact List.all_takeWhile

theorem obstacle_of_readNumber (h : readNumber pos t = .ok (j, next)) :
    obstacleWithin? room j = none := by
  rw [readNumber_eq, readUnsigned] at h
  dsimp only at h
  split at h
  · cases h
  · rename_i whole rest hwhole
    split at h
    · cases h
      simp [obstacleWithin?]
    · split at h
      · split at h
        · cases h
        · rename_i hdigits
          cases h
          have hlt : Text.toNat whole < 10 ^ maxDigits :=
            Nat.lt_of_lt_of_le (Text.toNat_lt_pow (all_isDigit_of_wholePart hwhole))
              (Nat.pow_le_pow_right (by decide) (Nat.le_of_not_lt hdigits))
          have habs : (if (signPart t).1 = true then -(Text.toNat whole : Int)
              else (Text.toNat whole : Int)).natAbs = Text.toNat whole := by
            split <;> simp
          rw [obstacleWithin?, habs, Nat.pow_eq, if_neg (Nat.not_le.2 hlt)]
      · cases h
        simp [obstacleWithin?]

theorem obstacle_of_readPlain (h : readPlain pos t = .ok (j, next)) :
    obstacleWithin? room j = none := by
  unfold readPlain at h
  split at h
  · rename_i word value hfound
    cases h
    have hmem := List.mem_of_find?_eq_some hfound
    simp only [words, List.mem_cons, Prod.mk.injEq, List.not_mem_nil, or_false] at hmem
    rcases hmem with ⟨-, rfl⟩ | ⟨-, rfl⟩ | ⟨-, rfl⟩ | ⟨-, rfl⟩ | ⟨-, rfl⟩ | ⟨-, rfl⟩ <;>
      simp [obstacleWithin?]
  · exact obstacle_of_readNumber h

/-! ### Values -/

/-- What the readers with so much fuel read can be shown. -/
structure Shown (fuel : Nat) : Prop where
  /-- Values can be shown. -/
  value : ∀ {room pos t j next}, readValue fuel room pos t = .ok (j, next) →
    obstacleWithin? room j = none
  /-- The items of lists can be shown. -/
  items : ∀ {room pos t items next}, readItems fuel room pos t = .ok (items, next) →
    obstacleItems? room items = none
  /-- The members of objects can be shown, if those that were read before can. -/
  members : ∀ {room before pos t members next}, obstacleMembers? room before = none →
    readMembers fuel room before pos t = .ok (members, next) →
    obstacleMembers? room members = none

theorem obstacleMembers?_insert {value : Json} (h : obstacleMembers? room members = none)
    (hvalue : obstacleWithin? room value = none) (key : Text) :
    obstacleMembers? room (insert members key value) = none := by
  induction members with
  | nil => simp [insert, obstacleMembers?, hvalue]
  | cons m rest ih =>
    simp only [obstacleMembers?, Option.or_eq_none_iff] at h
    rw [insert]
    split
    · simp [obstacleMembers?, hvalue, h.2]
    · simp [obstacleMembers?, h.1, ih h.2]

theorem Shown.readItems (h : Shown fuel) (hread : readItems (fuel + 1) room pos t = .ok (items, next)) :
    obstacleItems? room items = none := by
  rw [readItems_eq] at hread
  obtain ⟨⟨item, p, rest⟩, hitem, hread⟩ := bind_eq_ok_iff.1 hread
  have hitem := h.value hitem
  dsimp only at hread
  unfold afterItem at hread
  split at hread
  · cases hread
    simp [obstacleItems?, hitem]
  · obtain ⟨⟨others, next⟩, hothers, hread⟩ := bind_eq_ok_iff.1 hread
    cases hread
    simp [obstacleItems?, hitem, h.items hothers]
  · cases hread

theorem Shown.readMembers (h : Shown fuel) {before : List (Text × Json)}
    (hbefore : obstacleMembers? room before = none)
    (hread : readMembers (fuel + 1) room before pos t = .ok (members, next)) :
    obstacleMembers? room members = none := by
  rcases eq_cons_or_ne '"' t with ⟨rest, rfl⟩ | hquote
  · rw [readMembers_eq] at hread
    obtain ⟨⟨key, p, rest⟩, -, hread⟩ := bind_eq_ok_iff.1 hread
    dsimp only at hread
    unfold afterKey at hread
    split at hread
    · obtain ⟨⟨value, p, rest⟩, hvalue, hread⟩ := bind_eq_ok_iff.1 hread
      have hinsert := obstacleMembers?_insert hbefore (h.value hvalue) key
      dsimp only at hread
      unfold afterMember at hread
      split at hread
      · cases hread
        exact hinsert
      · exact h.members hinsert hread
      · cases hread
    · cases hread
  · rw [readMembers_of_ne hquote] at hread
    cases hread

theorem Shown.readList (h : Shown fuel)
    (hread : readValue (fuel + 1) room pos ('[' :: t) = .ok (j, next)) :
    obstacleWithin? room j = none := by
  obtain ⟨q, u, hskip⟩ : ∃ q u, skipSpace (pos + 1) t = (q, u) := ⟨_, _, rfl⟩
  cases room with
  | zero =>
    rw [readValue_list_tooDeep] at hread
    cases hread
  | succ room =>
    rcases eq_cons_or_ne ']' u with ⟨rest, rfl⟩ | hopen
    · rw [readValue_list_empty hskip] at hread
      cases hread
      rfl
    · rw [readValue_list hskip hopen] at hread
      obtain ⟨⟨items, next⟩, hitems, hread⟩ := bind_eq_ok_iff.1 hread
      cases hread
      exact h.items hitems

theorem Shown.readObject (h : Shown fuel)
    (hread : readValue (fuel + 1) room pos ('\x7b' :: t) = .ok (j, next)) :
    obstacleWithin? room j = none := by
  obtain ⟨q, u, hskip⟩ : ∃ q u, skipSpace (pos + 1) t = (q, u) := ⟨_, _, rfl⟩
  cases room with
  | zero =>
    rw [readValue_object_tooDeep] at hread
    cases hread
  | succ room =>
    rcases eq_cons_or_ne '\x7d' u with ⟨rest, rfl⟩ | hopen
    · rw [readValue_object_empty hskip] at hread
      cases hread
      rfl
    · rw [readValue_object hskip hopen] at hread
      obtain ⟨⟨members, next⟩, hmembers, hread⟩ := bind_eq_ok_iff.1 hread
      cases hread
      exact h.members rfl hmembers

theorem Shown.readValue (h : Shown fuel)
    (hread : readValue (fuel + 1) room pos t = .ok (j, next)) : obstacleWithin? room j = none := by
  cases t with
  | nil =>
    rw [readValue_nil] at hread
    cases hread
  | cons c rest =>
    by_cases hquote : c = '"'
    · subst hquote
      rw [readValue_string] at hread
      obtain ⟨⟨s, next⟩, -, hread⟩ := bind_eq_ok_iff.1 hread
      cases hread
      simp [obstacleWithin?]
    by_cases hlist : c = '['
    · subst hlist
      exact h.readList hread
    by_cases hobject : c = '\x7b'
    · subst hobject
      exact h.readObject hread
    · rw [readValue_plain hquote hlist hobject] at hread
      exact obstacle_of_readPlain hread

theorem shown_all (fuel : Nat) : Shown fuel := by
  induction fuel with
  | zero =>
    refine ⟨fun h => ?_, fun h => ?_, fun _ h => ?_⟩
    · rw [readValue] at h
      cases h
    · rw [readItems] at h
      cases h
    · rw [readMembers] at h
      cases h
  | succ fuel ih => exact ⟨ih.readValue, ih.readItems, ih.readMembers⟩

/-- **Nothing comes in the way of showing what was read.** -/
theorem obstacle?_of_read (h : read t = .ok j) : j.obstacle? = none := by
  rcases eq_cons_or_ne (Char.ofNat 0xfeff) t with ⟨rest, rfl⟩ | hmark
  · rw [read_mark] at h
    cases h
  · rw [read_eq hmark] at h
    obtain ⟨⟨value, pos, rest⟩, hvalue, h⟩ := bind_eq_ok_iff.1 h
    obtain ⟨-, -, rfl⟩ := ended_eq_ok_iff.1 h
    exact (shown_all _).value hvalue

end Json

end SchemaStructs
