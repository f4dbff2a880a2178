import SchemaStructs.Proofs.Schema.Reachability
import SchemaStructs.Schema.Tree

/-!
# Graphs of trees

A graph that is made from trees puts the children of an element before the element itself
(`Graph.Layered`), so no element of it contains itself (`Graph.acyclic_ofTrees`).
-/

namespace SchemaStructs

namespace Graph

open Relation

/-- The children of an element have smaller numbers than the element. -/
def Layered (g : Graph) : Prop := ∀ i, ∀ c ∈ g.children i, c < i

variable {g : Graph} {roots : List ElementId} {i j : ElementId}

theorem layered_empty : ({} : Graph).Layered := by
  intro i c hc
  rw [children_eq_nil_of_size_le (Nat.zero_le i)] at hc
  cases hc

/-- Elements beyond the graph have no children. -/
theorem layered_of_forall_lt (h : ∀ i < g.size, ∀ c ∈ g.children i, c < i) : g.Layered := by
  intro i c hc
  by_cases hi : i < g.size
  · exact h i hi c hc
  · rw [children_eq_nil_of_size_le (Nat.le_of_not_lt hi)] at hc
    cases hc

@[simp] theorem size_add (g : Graph) (e : Element) : (g.add e).1.size = g.size + 1 := by
  simp [add, size]

theorem children_add (g : Graph) (e : Element) (i : ElementId) :
    (g.add e).1.children i = if i = g.size then e.children else g.children i := by
  have hpush : (g.elements.push e)[i]? =
      if i = g.elements.size then some e else g.elements[i]? := Array.getElem?_push
  simp only [children, get, add, size, Array.getD_eq_getD_getElem?, hpush]
  split <;> rfl

theorem Layered.add (hg : g.Layered) {e : Element} (he : ∀ c ∈ e.children, c < g.size) :
    (g.add e).1.Layered := by
  intro i c hc
  rw [children_add] at hc
  split at hc
  · subst i
    exact he c hc
  · exact hg i c hc

mutual

/-- Adding a tree keeps a graph layered and gives a number of the graph. -/
theorem addTree_layered {g : Graph} (hg : g.Layered) (t : Tree) :
    (g.addTree t).1.Layered ∧ (g.addTree t).2 < (g.addTree t).1.size ∧
      g.size ≤ (g.addTree t).1.size := by
  obtain ⟨name, type, attributes, children, repeated, characterData⟩ := t
  obtain ⟨hlayered, hids, hsize⟩ := addTrees_layered hg children
  rw [addTree]
  refine ⟨hlayered.add hids, ?_, ?_⟩
  · rw [size_add]
    exact Nat.lt_succ_self _
  · rw [size_add]
    exact Nat.le_succ_of_le hsize

/-- Adding trees keeps a graph layered and gives numbers of the graph. -/
theorem addTrees_layered {g : Graph} (hg : g.Layered) (ts : List Tree) :
    (g.addTrees ts).1.Layered ∧ (∀ c ∈ (g.addTrees ts).2, c < (g.addTrees ts).1.size) ∧
      g.size ≤ (g.addTrees ts).1.size := by
  match ts with
  | [] => exact ⟨hg, by simp [addTrees], Nat.le_refl _⟩
  | t :: rest =>
    obtain ⟨hfirst, hid, hsize⟩ := addTree_layered hg t
    obtain ⟨hrest, hids, hsizes⟩ := addTrees_layered hfirst rest
    simp only [addTrees]
    refine ⟨hrest, fun c hc => ?_, Nat.le_trans hsize hsizes⟩
    rcases List.mem_cons.1 hc with rfl | hc
    · exact Nat.lt_of_lt_of_le hid hsizes
    · exact hids c hc

end

theorem Layered.lt_of_transGen (hg : g.Layered) (h : TransGen g.Contains i j) : j < i := by
  induction h with
  | single h => exact hg _ _ h.1
  | tail _ h ih => exact Nat.lt_trans (hg _ _ h.1) ih

theorem Layered.acyclic (hg : g.Layered) : g.Acyclic roots :=
  fun _ _ h => Nat.lt_irrefl _ (hg.lt_of_transGen h)

/-- What occurs in a graph made from trees has a number of the graph. -/
theorem lt_size_of_occurs (trees : List Tree) (h : (ofTrees trees).1.Occurs (ofTrees trees).2 i) :
    i < (ofTrees trees).1.size := by
  obtain ⟨hlayered, hids, -⟩ := addTrees_layered layered_empty trees
  exact h.of_closed (P := (· < (ofTrees trees).1.size)) hids fun i hi c hc =>
    Nat.lt_trans (hlayered i c hc) hi

/-- **No element of a graph made from trees contains itself.** -/
theorem acyclic_ofTrees (trees : List Tree) : (ofTrees trees).1.Acyclic roots :=
  (addTrees_layered layered_empty trees).1.acyclic

end Graph

end SchemaStructs
