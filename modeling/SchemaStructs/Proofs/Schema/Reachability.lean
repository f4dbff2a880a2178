import Mathlib.Data.Fintype.Card
import Mathlib.Data.Fintype.EquivFin
import Mathlib.Logic.Relation
import SchemaStructs.Schema.Traversal

/-!
# Reachability in a schema

An element *contains* another one when that is a child of it and neither is primitive
(`Graph.Contains`).  What a run can declare are the elements that are reached from the roots by
containment (`Graph.Reachable`).

* `Graph.Acyclic.acc`: where no reachable element contains itself, directly or not, containment can
  be descended only finitely often, because a graph has finitely many elements with children;
* `Graph.Reachable.of_closed`: what holds of the roots and is kept by containment holds of all
  reachable elements.
-/

namespace SchemaStructs

namespace Graph

open Relation

variable (g : Graph)

/-- The raw name of an element, whatever kind of value it is. -/
def rawName (i : ElementId) : Json := (g.get i).name

/-- The element `j` is a child of `i`, and neither is primitive. -/
def Contains (i j : ElementId) : Prop :=
  j ∈ g.children i ∧ g.isPrimitive i = false ∧ g.isPrimitive j = false

/-- The element is reached from a root through elements that are not primitive, itself one. -/
def Reachable (roots : List ElementId) (i : ElementId) : Prop :=
  ∃ r ∈ roots, g.isPrimitive r = false ∧ ReflTransGen g.Contains r i

/-- The element is a root or a child of a reachable element; it may be primitive. -/
def Occurs (roots : List ElementId) (i : ElementId) : Prop :=
  i ∈ roots ∨ ∃ p, g.Reachable roots p ∧ i ∈ g.children p

/-- No reachable element contains itself, directly or through others. -/
def Acyclic (roots : List ElementId) : Prop :=
  ∀ i, g.Reachable roots i → ¬ TransGen g.Contains i i

variable {g} {roots : List ElementId} {i j : ElementId}

theorem name_eq_of_rawName {n : Text} (h : g.rawName i = .str n) : g.name i = n := by
  simp only [rawName] at h
  simp only [name, h, Json.display]

theorem Reachable.root (hi : i ∈ roots) (hp : g.isPrimitive i = false) : g.Reachable roots i :=
  ⟨i, hi, hp, .refl⟩

theorem Reachable.contained (hi : g.Reachable roots i) (h : g.Contains i j) :
    g.Reachable roots j := by
  obtain ⟨r, hr, hp, hri⟩ := hi
  exact ⟨r, hr, hp, hri.tail h⟩

theorem Reachable.trans (hi : g.Reachable roots i) (h : ReflTransGen g.Contains i j) :
    g.Reachable roots j := by
  obtain ⟨r, hr, hp, hri⟩ := hi
  exact ⟨r, hr, hp, hri.trans h⟩

theorem Reachable.isPrimitive_eq (hi : g.Reachable roots i) : g.isPrimitive i = false := by
  obtain ⟨r, -, hp, hri⟩ := hi
  rcases hri.cases_tail with rfl | ⟨_, -, h⟩
  · exact hp
  · exact h.2.2

theorem Reachable.child (hi : g.Reachable roots i) (hj : j ∈ g.children i)
    (hp : g.isPrimitive j = false) : g.Reachable roots j :=
  hi.contained ⟨hj, hi.isPrimitive_eq, hp⟩

theorem Occurs.reachable (h : g.Occurs roots i) (hp : g.isPrimitive i = false) :
    g.Reachable roots i := by
  rcases h with h | ⟨p, hr, hc⟩
  · exact .root h hp
  · exact hr.child hc hp

theorem Reachable.occurs (h : g.Reachable roots i) : g.Occurs roots i := by
  obtain ⟨r, hr, hp, hri⟩ := h
  rcases hri.cases_tail with rfl | ⟨p, hrp, hpi⟩
  · exact .inl hr
  · exact .inr ⟨p, ⟨r, hr, hp, hrp⟩, hpi.1⟩

theorem Reachable.occurs_child (hi : g.Reachable roots i) : ∀ c ∈ g.children i, g.Occurs roots c :=
  fun _ hc => .inr ⟨i, hi, hc⟩

/-- A property of the roots that containment keeps is one of all reachable elements. -/
theorem Reachable.of_closed {P : ElementId → Prop} (hroots : ∀ r ∈ roots, P r)
    (hstep : ∀ i j, P i → g.Contains i j → P j) (h : g.Reachable roots i) : P i := by
  obtain ⟨r, hr, -, hri⟩ := h
  induction hri with
  | refl => exact hroots r hr
  | tail _ hst ih => exact hstep _ _ ih hst

theorem Reachable.mono {roots' : List ElementId} (hsub : ∀ r ∈ roots, r ∈ roots')
    (h : g.Reachable roots i) : g.Reachable roots' i := by
  obtain ⟨r, hr, h⟩ := h
  exact ⟨r, hsub r hr, h⟩

theorem Occurs.mono {roots' : List ElementId} (hsub : ∀ r ∈ roots, r ∈ roots')
    (h : g.Occurs roots i) : g.Occurs roots' i := by
  rcases h with h | ⟨p, hp, hc⟩
  · exact .inl (hsub i h)
  · exact .inr ⟨p, hp.mono hsub, hc⟩

/-- A property of the roots that children inherit is one of all that occurs. -/
theorem Occurs.of_closed {P : ElementId → Prop} (hroots : ∀ r ∈ roots, P r)
    (hstep : ∀ i, P i → ∀ c ∈ g.children i, P c) (h : g.Occurs roots i) : P i := by
  rcases h with h | ⟨p, hp, hc⟩
  · exact hroots i h
  · exact hstep p (hp.of_closed hroots fun i j hi hij => hstep i hi j hij.1) i hc

theorem not_contains_of_size_le (h : g.size ≤ i) : ¬ g.Contains i j := by
  rintro ⟨hj, -⟩
  rw [children_eq_nil_of_size_le h] at hj
  cases hj

/-- **Containment is well-founded below a reachable element of an acyclic schema.** -/
theorem Acyclic.acc (hg : g.Acyclic roots) (hi : g.Reachable roots i) :
    Acc (fun c p => g.Contains p c) i := by
  -- among the reachable elements of the graph, of which there are finitely many, containment
  -- through others is a strict order
  let S := {i : ElementId // g.Reachable roots i ∧ i < g.size}
  let below : S → S → Prop := fun a b => TransGen g.Contains b.1 a.1
  have hfin : Finite S :=
    Finite.of_injective (fun s : S => (⟨s.1, s.2.2⟩ : Fin g.size)) fun a b hab =>
      Subtype.ext (by simpa using hab)
  have htrans : IsTrans S below := ⟨fun _ _ _ hab hbc => hbc.trans hab⟩
  have hirr : Std.Irrefl below := ⟨fun a haa => hg a.1 a.2.1 haa⟩
  have hwf : WellFounded below := Finite.wellFounded_of_trans_of_irrefl below
  have key : ∀ s : S, Acc (fun c p => g.Contains p c) s.1 := by
    intro s
    induction s using hwf.induction with
    | _ s ih =>
      refine Acc.intro _ fun c hc => ?_
      by_cases hs : c < g.size
      · exact ih ⟨c, s.2.1.contained hc, hs⟩ (.single hc)
      · exact Acc.intro _ fun d hd => absurd hd (not_contains_of_size_le (Nat.le_of_not_lt hs))
  by_cases hs : i < g.size
  · exact key ⟨i, hi, hs⟩
  · exact Acc.intro _ fun d hd => absurd hd (not_contains_of_size_le (Nat.le_of_not_lt hs))

end Graph

end SchemaStructs
