import Mathlib.Data.List.Nodup
import SchemaStructs.Json.Basic

/-!
# Members of an updated object

An object that is updated has the values of the update where there are any, and its own ones where
there are none (`Json.lookup_update`); of several values for one key the last one counts.  Its keys
are those of both, each once (`Json.mem_keys_update`, `Json.nodup_keys_update`).
-/

namespace SchemaStructs

namespace Json

variable {members others : List (Text × Json)} {key k : Text} {value v : Json}

/-! ### Values -/

theorem lookup_append (members others : List (Text × Json)) (k : Text) :
    lookup (members ++ others) k = (lookup members k).or (lookup others k) := by
  induction members with
  | nil => rfl
  | cons m rest ih =>
    obtain ⟨key, value⟩ := m
    rw [List.cons_append, lookup, lookup]
    split
    · rfl
    · exact ih

theorem lookup_insert (members : List (Text × Json)) (key k : Text) (value : Json) :
    lookup (insert members key value) k = if key = k then some value else lookup members k := by
  induction members with
  | nil => rfl
  | cons m rest ih =>
    obtain ⟨key', value'⟩ := m
    rw [insert]
    by_cases hkey : key' = key
    · subst hkey
      rw [if_pos rfl, lookup, lookup]
      split <;> rfl
    · rw [if_neg hkey, lookup, ih, lookup]
      by_cases hk : key' = k
      · rw [if_pos hk, if_pos hk, if_neg fun h => hkey (hk.trans h.symm)]
      · rw [if_neg hk, if_neg hk]

/-- **The last value of an update counts**, and without one the value that was there. -/
theorem lookup_update (members others : List (Text × Json)) (k : Text) :
    lookup (update members others) k = (lookup others.reverse k).or (lookup members k) := by
  induction others generalizing members with
  | nil => rfl
  | cons m rest ih =>
    obtain ⟨key, value⟩ := m
    have hstep : update members ((key, value) :: rest) =
        update (insert members key value) rest := rfl
    rw [hstep, ih, List.reverse_cons, lookup_append, lookup_insert, Option.or_assoc, lookup, lookup]
    congr 1
    split <;> rfl

/-! ### Keys -/

theorem map_fst_insert (members : List (Text × Json)) (key : Text) (value : Json) :
    (insert members key value).map (·.1) =
      if key ∈ members.map (·.1) then members.map (·.1) else members.map (·.1) ++ [key] := by
  induction members with
  | nil => rfl
  | cons m rest ih =>
    obtain ⟨key', value'⟩ := m
    rw [insert]
    by_cases hkey : key' = key
    · simp [hkey]
    · have hne : key ≠ key' := Ne.symm hkey
      rw [if_neg hkey, List.map_cons, ih]
      simp only [List.map_cons, List.mem_cons, hne, false_or]
      split <;> rfl

theorem mem_keys_update :
    k ∈ (update members others).map (·.1) ↔ k ∈ members.map (·.1) ∨ k ∈ others.map (·.1) := by
  induction others generalizing members with
  | nil => simp [update]
  | cons m rest ih =>
    obtain ⟨key, value⟩ := m
    have hstep : update members ((key, value) :: rest) =
        update (insert members key value) rest := rfl
    rw [hstep, ih, map_fst_insert]
    split
    · rename_i hmem
      rw [List.map_cons, List.mem_cons]
      constructor
      · rintro (h | h)
        · exact .inl h
        · exact .inr (.inr h)
      · rintro (h | rfl | h)
        · exact .inl h
        · exact .inl hmem
        · exact .inr h
    · simp [or_assoc]

theorem nodup_keys_update (h : (members.map (·.1)).Nodup) :
    ((update members others).map (·.1)).Nodup := by
  induction others generalizing members with
  | nil => exact h
  | cons m rest ih =>
    obtain ⟨key, value⟩ := m
    refine ih ?_
    rw [map_fst_insert]
    split
    · exact h
    · rename_i hnew
      exact List.nodup_append.2 ⟨h, List.nodup_singleton key, fun a ha b hb heq =>
        hnew (List.mem_singleton.1 hb ▸ heq ▸ ha)⟩

/-- A key that occurs has a value. -/
theorem exists_of_mem_keys (h : k ∈ members.map (·.1)) : ∃ v, lookup members k = some v := by
  induction members with
  | nil => cases h
  | cons m rest ih =>
    obtain ⟨key, value⟩ := m
    rw [lookup]
    split
    · exact ⟨value, rfl⟩
    · rename_i hne
      exact ih ((List.mem_cons.1 h).resolve_left (Ne.symm hne))

/-- If keys are distinct, each member has the value of its key. -/
theorem lookup_of_mem (hkeys : (members.map (·.1)).Nodup) (h : (key, value) ∈ members) :
    lookup members key = some value := by
  induction members with
  | nil => cases h
  | cons m rest ih =>
    obtain ⟨key', value'⟩ := m
    rw [List.map_cons, List.nodup_cons] at hkeys
    rw [lookup]
    rcases List.mem_cons.1 h with heq | h
    · obtain ⟨rfl, rfl⟩ := Prod.mk.inj heq
      rw [if_pos rfl]
    · have hmem : key ∈ rest.map (·.1) := List.mem_map_of_mem h
      rw [if_neg fun heq : key' = key => hkeys.1 (heq ▸ hmem)]
      exact ih hkeys.2 h

end Json

end SchemaStructs
