import SchemaStructs.Generator.Validation
import SchemaStructs.Proofs.Schema.Reachability

/-!
# What a preorder visits

A traversal with an explicit stack visits exactly the elements that are reached from the stack
through admitted elements, one link after another (`Graph.Admits`).

* `Graph.mem_preorder_iff`: the preorder of the roots consists of what is reached from them;
* `Generator.mem_checked_iff`: so a validation checks exactly the elements that a walk could
  declare.
-/

namespace SchemaStructs

namespace Graph

open Relation

/-- The element `j` is a child of `i`, and both are admitted. -/
def Admits (g : Graph) (keep : ElementId → Bool) (i j : ElementId) : Prop :=
  j ∈ g.children i ∧ keep i = true ∧ keep j = true

variable {g : Graph} {keep : ElementId → Bool} {seen stack roots : List ElementId}
variable {i j : ElementId}

/-- What is visited is admitted, and reached from the stack. -/
theorem exists_of_mem_preorderFrom (h : i ∈ g.preorderFrom keep seen stack) :
    ∃ s ∈ stack, keep s = true ∧ ReflTransGen (g.Admits keep) s i := by
  fun_induction preorderFrom g keep seen stack with
  | case1 => cases h
  | case2 seen s rest _ ih =>
    obtain ⟨t, ht, hkeep, hti⟩ := ih h
    exact ⟨t, List.mem_cons_of_mem s ht, hkeep, hti⟩
  | case3 seen s rest _ hs ih =>
    rcases List.mem_cons.1 h with rfl | h
    · exact ⟨i, List.mem_cons_self, hs, .refl⟩
    · obtain ⟨t, ht, hkeep, hti⟩ := ih h
      rcases List.mem_append.1 ht with ht | ht
      · exact ⟨s, List.mem_cons_self, hs, .head ⟨ht, hs, hkeep⟩ hti⟩
      · exact ⟨t, List.mem_cons_of_mem s ht, hkeep, hti⟩
  | case4 seen s rest _ _ ih =>
    obtain ⟨t, ht, hkeep, hti⟩ := ih h
    exact ⟨t, List.mem_cons_of_mem s ht, hkeep, hti⟩

/-- What is admitted and on the stack was seen before or is visited. -/
theorem mem_or_mem_preorderFrom (hi : i ∈ stack) (hkeep : keep i = true) :
    i ∈ seen ∨ i ∈ g.preorderFrom keep seen stack := by
  -- the top of the stack was seen before, is visited, or is not admitted
  fun_induction preorderFrom g keep seen stack with
  | case1 => cases hi
  | case2 seen s rest hseen ih =>
    rcases List.mem_cons.1 hi with rfl | hi
    · exact .inl hseen
    · exact ih hi
  | case3 seen s rest _ _ ih =>
    rcases List.mem_cons.1 hi with rfl | hi
    · exact .inr List.mem_cons_self
    · rcases ih (List.mem_append_right _ hi) with hmem | hmem
      · rcases List.mem_cons.1 hmem with rfl | hmem
        · exact .inr List.mem_cons_self
        · exact .inl hmem
      · exact .inr (List.mem_cons_of_mem _ hmem)
  | case4 seen s rest _ hs ih =>
    rcases List.mem_cons.1 hi with rfl | hi
    · exact absurd hkeep hs
    · exact ih hi

/-- The admitted children of what is visited were seen before or are visited, too. -/
theorem preorderFrom_closed (hi : i ∈ g.preorderFrom keep seen stack) (hj : j ∈ g.children i)
    (hkeep : keep j = true) : j ∈ seen ∨ j ∈ g.preorderFrom keep seen stack := by
  fun_induction preorderFrom g keep seen stack with
  | case1 => cases hi
  | case2 seen s rest _ ih => exact ih hi
  | case3 seen s rest _ _ ih =>
    have hbelow : j ∈ s :: seen ∨ j ∈ g.preorderFrom keep (s :: seen) (g.children s ++ rest) := by
      rcases List.mem_cons.1 hi with rfl | hi
      · exact mem_or_mem_preorderFrom (List.mem_append_left _ hj) hkeep
      · exact ih hi
    rcases hbelow with hmem | hmem
    · rcases List.mem_cons.1 hmem with rfl | hmem
      · exact .inr List.mem_cons_self
      · exact .inl hmem
    · exact .inr (List.mem_cons_of_mem _ hmem)
  | case4 seen s rest _ _ ih => exact ih hi

/-- **A preorder visits exactly what is reached from the roots** through admitted elements. -/
theorem mem_preorder_iff :
    i ∈ g.preorder keep roots ↔
      ∃ r ∈ roots, keep r = true ∧ ReflTransGen (g.Admits keep) r i := by
  constructor
  · exact exists_of_mem_preorderFrom
  · rintro ⟨r, hr, hkeep, hri⟩
    induction hri with
    | refl => exact (mem_or_mem_preorderFrom hr hkeep).resolve_left List.not_mem_nil
    | tail _ hst ih =>
      exact (preorderFrom_closed ih hst.1 hst.2.2).resolve_left List.not_mem_nil

end Graph

/-- A validation checks the elements that are reachable through elements that are not primitive. -/
theorem Generator.mem_checked_iff {g : Graph} {roots : List ElementId} {i : ElementId} :
    i ∈ checked g roots ↔ g.Reachable roots i := by
  have hcontains : g.Admits (fun i => !g.isPrimitive i) = g.Contains := by
    funext i j
    simp [Graph.Admits, Graph.Contains]
  rw [checked, Graph.mem_preorder_iff, hcontains]
  simp [Graph.Reachable]

end SchemaStructs
