import SchemaStructs.Schema.Element

/-!
# Traversing a schema

`Graph.preorder` visits the elements that can be reached from given roots, each once, parents
before children and siblings in order.  It keeps an explicit stack; every step takes one number off
the stack, and the children it adds are never added again, which bounds the number of steps
(`Graph.workload`).  The number of elements of a schema (`Graph.count`) is the length of its
preorder.
-/

namespace SchemaStructs

namespace Graph

/-- The children that the elements not yet seen can still put on the stack. -/
def unseenChildren (g : Graph) (seen : List ElementId) : List ElementId :=
  (List.range g.size).flatMap fun i => if i ∈ seen then [] else g.children i

/-- The number of steps that are left: the stack, and all that can still be put on it. -/
def workload (g : Graph) (seen stack : List ElementId) : Nat :=
  stack.length + (g.unseenChildren seen).length

theorem children_eq_nil_of_size_le {g : Graph} {i : ElementId} (h : g.size ≤ i) :
    g.children i = [] := by
  have : g.elements[i]? = none := Array.getElem?_eq_none h
  simp only [children, get, Array.getD_eq_getD_getElem?, this, Option.getD_none]
  rfl

theorem length_flatMap_mark (f : Nat → List Nat) (seen : List Nat) (i : Nat) (hi : i ∉ seen)
    (n : Nat) :
    ((List.range n).flatMap fun j => if j ∈ i :: seen then [] else f j).length +
        (if i < n then (f i).length else 0) =
      ((List.range n).flatMap fun j => if j ∈ seen then [] else f j).length := by
  induction n with
  | zero => simp
  | succ n ih =>
    simp only [List.range_succ, List.flatMap_append, List.length_append, List.flatMap_cons,
      List.flatMap_nil, List.append_nil]
    by_cases hn : n = i
    · subst hn
      simp [hi] at ih ⊢
      omega
    · have h₁ : (i < n + 1) ↔ i < n := by omega
      have h₂ : (n ∈ i :: seen) ↔ n ∈ seen := by simp [hn]
      simp only [h₁, h₂]
      omega

/-- Seeing an element takes its children off what can still be put on the stack. -/
theorem unseenChildren_cons (g : Graph) {i : ElementId} {seen : List ElementId} (hi : i ∉ seen) :
    (g.unseenChildren (i :: seen)).length + (g.children i).length =
      (g.unseenChildren seen).length := by
  have h := length_flatMap_mark g.children seen i hi g.size
  by_cases hs : i < g.size
  · simpa [unseenChildren, hs] using h
  · have : (g.children i).length = 0 := by
      rw [children_eq_nil_of_size_le (Nat.le_of_not_lt hs)]; rfl
    simp only [hs, if_false] at h
    simpa [unseenChildren, this] using h

/-- Visits what is on the stack and all below it, passing over elements that were seen or that
`keep` refuses. -/
def preorderFrom (g : Graph) (keep : ElementId → Bool) (seen stack : List ElementId) :
    List ElementId :=
  match stack with
  | [] => []
  | i :: rest =>
    if _ : i ∈ seen then preorderFrom g keep seen rest
    else if keep i then i :: preorderFrom g keep (i :: seen) (g.children i ++ rest)
    else preorderFrom g keep seen rest
termination_by g.workload seen stack
decreasing_by
  · simp [workload]
  · have := g.unseenChildren_cons ‹i ∉ seen›
    simp only [workload, List.length_append, List.length_cons]
    omega
  · simp [workload]

/-- The elements that can be reached from the roots through elements that `keep` admits, in the
order of their first visit. -/
def preorder (g : Graph) (keep : ElementId → Bool) (roots : List ElementId) : List ElementId :=
  g.preorderFrom keep [] roots

/-- The number of elements that can be reached from the roots. -/
def count (g : Graph) (roots : List ElementId) : Nat := (g.preorder (fun _ => true) roots).length

end Graph

end SchemaStructs
