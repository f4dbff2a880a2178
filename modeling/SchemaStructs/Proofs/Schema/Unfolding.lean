import SchemaStructs.Proofs.Schema.Shape

/-!
# Unfolding a schema

The plain depth-first preorder of a schema, in which a shared element occurs at every place where it
stands and nothing is passed over but primitive elements (`Graph.Unfolds`).

* `Graph.Acyclic.exists_unfolds` and `Graph.Unfolds.unique`: an acyclic schema has exactly one;
* `Graph.Unfolds.mem_iff`: it consists of the reachable elements;
* `Graph.Unfolds.length_lt`: what is below an element that another one contains is less than what is
  below that one;
* `Graph.Unfolds.map_rawName_eq`: where elements of the same name have alike shapes, the names below
  an element depend on its name only.
-/

namespace SchemaStructs

namespace Graph

open Relation

/-- The elements that are met when the given ones are unfolded with all that is below them, in
depth-first order, parents before children. -/
inductive Unfolds (g : Graph) : List ElementId → List ElementId → Prop
  /-- Nothing is left. -/
  | nil : Unfolds g [] []
  /-- A primitive element is passed over. -/
  | skip {i : ElementId} {is out : List ElementId} (h : g.isPrimitive i = true)
      (rest : Unfolds g is out) : Unfolds g (i :: is) out
  /-- Any other element comes before what is below it. -/
  | visit {i : ElementId} {is below out : List ElementId} (h : g.isPrimitive i = false)
      (children : Unfolds g (g.children i) below) (rest : Unfolds g is out) :
      Unfolds g (i :: is) (i :: (below ++ out))

variable {g : Graph} {roots is js out out' a b : List ElementId} {i j : ElementId}

theorem Unfolds.unique (h : g.Unfolds is out) (h' : g.Unfolds is out') : out = out' := by
  induction h generalizing out' with
  | nil => cases h'; rfl
  | skip hp _ ih =>
    cases h' with
    | skip _ rest => exact ih rest
    | visit hp' => rw [hp] at hp'; cases hp'
  | visit hp _ _ ihChildren ihRest =>
    cases h' with
    | skip hp' => rw [hp] at hp'; cases hp'
    | visit _ children rest => rw [ihChildren children, ihRest rest]

/-- Elements unfold if each of them does. -/
theorem exists_unfolds
    (h : ∀ i ∈ is, g.isPrimitive i = false → ∃ below, g.Unfolds (g.children i) below) :
    ∃ out, g.Unfolds is out := by
  induction is with
  | nil => exact ⟨[], .nil⟩
  | cons i is ih =>
    obtain ⟨out, hout⟩ := ih fun j hj => h j (List.mem_cons_of_mem i hj)
    cases hp : g.isPrimitive i with
    | true => exact ⟨out, .skip hp hout⟩
    | false =>
      obtain ⟨below, hbelow⟩ := h i List.mem_cons_self hp
      exact ⟨_, .visit hp hbelow hout⟩

theorem Acyclic.exists_below (hg : g.Acyclic roots) (hi : g.Reachable roots i) :
    ∃ below, g.Unfolds (g.children i) below := by
  have hacc := hg.acc hi
  have hp := hi.isPrimitive_eq
  clear hi
  induction hacc with
  | intro i _ ih => exact exists_unfolds fun c hc hpc => ih c ⟨hc, hp, hpc⟩ hpc

/-- **An acyclic schema can be unfolded.** -/
theorem Acyclic.exists_unfolds (hg : g.Acyclic roots) : ∃ out, g.Unfolds roots out :=
  Graph.exists_unfolds fun _ hi hp => hg.exists_below (.root hi hp)

/-! ### What an unfolding consists of -/

/-- An unfolding has all that is below an element right after it. -/
theorem Unfolds.exists_below (h : g.Unfolds is out) (hi : i ∈ is) (hp : g.isPrimitive i = false) :
    ∃ below, g.Unfolds (g.children i) below ∧ i :: below <:+: out := by
  induction h with
  | nil => cases hi
  | skip hp' _ ih =>
    rcases List.mem_cons.1 hi with rfl | hi
    · rw [hp] at hp'; cases hp'
    · exact ih hi
  | @visit j is below out hp' children rest _ ihRest =>
    rcases List.mem_cons.1 hi with rfl | hi
    · exact ⟨below, children, ⟨[], out, by simp⟩⟩
    · obtain ⟨below', hbelow', hpart⟩ := ihRest hi
      exact ⟨below', hbelow', hpart.trans ⟨j :: below, [], by simp⟩⟩

theorem Unfolds.isPrimitive_eq (h : g.Unfolds is out) (hi : i ∈ out) : g.isPrimitive i = false := by
  induction h with
  | nil => cases hi
  | skip _ _ ih => exact ih hi
  | visit hp _ _ ihChildren ihRest =>
    rcases List.mem_cons.1 hi with rfl | hi
    · exact hp
    · exact (List.mem_append.1 hi).elim ihChildren ihRest

/-- An unfolding has the children of its elements. -/
theorem Unfolds.closed (h : g.Unfolds is out) (hi : i ∈ out) (hc : j ∈ g.children i)
    (hp : g.isPrimitive j = false) : j ∈ out := by
  induction h with
  | nil => cases hi
  | skip _ _ ih => exact ih hi
  | visit _ children _ ihChildren ihRest =>
    rcases List.mem_cons.1 hi with rfl | hi
    · obtain ⟨below, -, hpart⟩ := children.exists_below hc hp
      exact List.mem_cons_of_mem _ (List.mem_append_left _ (hpart.subset List.mem_cons_self))
    · refine List.mem_cons_of_mem _ (List.mem_append.2 ?_)
      exact (List.mem_append.1 hi).imp ihChildren ihRest

theorem Unfolds.occurs (h : g.Unfolds is out) (his : ∀ i ∈ is, g.Occurs roots i) (hi : i ∈ out) :
    g.Occurs roots i := by
  induction h with
  | nil => cases hi
  | skip _ _ ih => exact ih (fun j hj => his j (List.mem_cons_of_mem _ hj)) hi
  | visit hp _ _ ihChildren ihRest =>
    have hocc := his _ List.mem_cons_self
    rcases List.mem_cons.1 hi with rfl | hi
    · exact hocc
    · rcases List.mem_append.1 hi with hi | hi
      · exact ihChildren (hocc.reachable hp).occurs_child hi
      · exact ihRest (fun j hj => his j (List.mem_cons_of_mem _ hj)) hi

/-- **The unfolding of the roots consists of the reachable elements.** -/
theorem Unfolds.mem_iff (h : g.Unfolds roots out) : i ∈ out ↔ g.Reachable roots i := by
  constructor
  · intro hi
    exact (h.occurs (fun r hr => .inl hr) hi).reachable (h.isPrimitive_eq hi)
  · rintro ⟨r, hr, hp, hri⟩
    induction hri with
    | refl =>
      obtain ⟨below, -, hpart⟩ := h.exists_below hr hp
      exact hpart.subset List.mem_cons_self
    | tail _ hst ih => exact h.closed ih hst.1 hst.2.2

/-- **What an element contains has less below it** than the element itself. -/
theorem Unfolds.length_lt (h : TransGen g.Contains i j) (ha : g.Unfolds (g.children i) a)
    (hb : g.Unfolds (g.children j) b) : b.length < a.length := by
  induction h using TransGen.head_induction_on generalizing a with
  | single h =>
    obtain ⟨below, hbelow, hpart⟩ := ha.exists_below h.1 h.2.2
    rw [hb.unique hbelow]
    exact hpart.length_le
  | head h _ ih =>
    obtain ⟨below, hbelow, hpart⟩ := ha.exists_below h.1 h.2.2
    exact Nat.lt_of_lt_of_le (ih hbelow) ((Nat.le_succ _).trans hpart.length_le)

/-! ### Names -/

/-- The elements that are not primitive decide an unfolding. -/
theorem Unfolds.cases_inner (h : g.Unfolds js b) :
    g.inner js = [] ∧ b = [] ∨
      ∃ j rest below out, g.inner js = j :: g.inner rest ∧ b = j :: (below ++ out) ∧ j ∈ js ∧
        (∀ k ∈ rest, k ∈ js) ∧ g.Unfolds (g.children j) below ∧ g.Unfolds rest out := by
  induction h with
  | nil => exact .inl ⟨rfl, rfl⟩
  | skip hp _ ih =>
    rw [inner_cons_of_primitive hp]
    refine ih.imp_right ?_
    rintro ⟨j, rest, below, out, hinner, hb, hj, hsub, hbelow, hout⟩
    exact ⟨j, rest, below, out, hinner, hb, List.mem_cons_of_mem _ hj,
      fun k hk => List.mem_cons_of_mem _ (hsub k hk), hbelow, hout⟩
  | @visit j rest below out hp children hrest _ _ =>
    exact .inr ⟨j, rest, below, out, inner_cons hp, rfl, List.mem_cons_self,
      fun k hk => List.mem_cons_of_mem _ hk, children, hrest⟩

/-- **Names below depend on names only**, where elements of the same name have children of the same
names. -/
theorem Unfolds.map_rawName_eq (ha : g.Unfolds is a) (hb : g.Unfolds js b)
    (hsame : ∀ i j, g.Reachable roots i → g.Reachable roots j → g.rawName i = g.rawName j →
      (g.inner (g.children i)).map g.rawName = (g.inner (g.children j)).map g.rawName)
    (his : ∀ i ∈ is, g.Occurs roots i) (hjs : ∀ j ∈ js, g.Occurs roots j)
    (h : (g.inner is).map g.rawName = (g.inner js).map g.rawName) :
    a.map g.rawName = b.map g.rawName := by
  -- the lists may differ in their primitive elements, so the other unfolding is not taken apart
  -- along with this one, but by what it starts with
  induction ha generalizing js b with
  | nil =>
    rcases hb.cases_inner with ⟨-, rfl⟩ | ⟨j, rest, -, -, hinner, -⟩
    · rfl
    · rw [hinner] at h; cases h
  | skip hp _ ih =>
    rw [inner_cons_of_primitive hp] at h
    exact ih hb (fun k hk => his k (List.mem_cons_of_mem _ hk)) hjs h
  | @visit i is below out hp _ _ ihChildren ihRest =>
    rw [inner_cons hp] at h
    rcases hb.cases_inner with
      ⟨hinner, -⟩ | ⟨j, rest, below', out', hinner, rfl, hj, hsub, hbelow', hout'⟩
    · rw [hinner] at h; cases h
    · rw [hinner] at h
      obtain ⟨hname, hrest⟩ := List.cons.inj h
      have hi := (his i List.mem_cons_self).reachable hp
      have hj' : g.Reachable roots j := by
        refine (hjs j hj).reachable ?_
        have hmem : j ∈ g.inner js := hinner ▸ List.mem_cons_self
        simpa [inner] using (List.mem_filter.1 hmem).2
      have hbelow := ihChildren hbelow' hi.occurs_child hj'.occurs_child (hsame i j hi hj' hname)
      have hout := ihRest hout' (fun k hk => his k (List.mem_cons_of_mem _ hk))
        (fun k hk => hjs k (hsub k hk)) hrest
      rw [List.map_cons, List.map_cons, List.map_append, List.map_append, hname, hbelow, hout]

end Graph

end SchemaStructs
