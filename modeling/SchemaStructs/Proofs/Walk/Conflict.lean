import SchemaStructs.Proofs.Walk.Account

/-!
# Conflicts under the strict strategy

The walk compares an element with the declaration of its name when it comes to it.  An element
whose name is declared is passed over with all that is below it, and shapes do not look at what is
below a child.  So the strict strategy does not find all conflicts of a schema
(`Walk.hidden_conflict`).  What it does find:

* `Walk.conflicts_settled`: when a walk comes to its end, any two elements *met* on the way, which
  are the roots and the children of declared elements, have the same shape if they share a name;
  and every other reachable element is below a met one that repeats the declaration of its name
  (`Walk.Repeats`).
-/

namespace SchemaStructs

namespace Walk

open Relation

variable {g : Graph} {gen : Generator} {declare : Declare} {roots : List ElementId}
variable {events : List Event} {i j k : ElementId}

/-- The element is not primitive, and a root or a child of a declared element. -/
def Met (g : Graph) (roots : List ElementId) (events : List Event) (i : ElementId) : Prop :=
  i ∈ occurrences g roots (elements events)

/-- The element is met and not declared, but another one of the same name and shape is. -/
def Repeats (g : Graph) (roots : List ElementId) (events : List Event) (i : ElementId) : Prop :=
  Met g roots events i ∧ i ∉ elements events ∧
    ∃ e ∈ elements events, g.rawName e = g.rawName i ∧ (g.shape i).alike (g.shape e) = true

/-- An element of a declared name that fits has the shape of the element declared for it. -/
theorem Valid.exists_alike (hv : Valid g declare roots events)
    (hvis : isVisited events (g.rawName i) = true) (hfit : fits g events i = true) :
    ∃ e ∈ elements events, g.rawName e = g.rawName i ∧ (g.shape i).alike (g.shape e) = true := by
  obtain ⟨d, hd, hname⟩ := hv.exists_declaration hvis
  exact ⟨d.element, mem_elements_iff.2 ⟨d, hd, rfl⟩, hname, hv.fits_eq hd hname ▸ hfit⟩

/-- What was met has the shape of the declaration of its name, where nothing is redefined. -/
theorem Met.exists_alike (h : Met g roots (gen.walk g roots).events i)
    (ho : (gen.walk g roots).failure = none)
    (hagreed : redefinitions (gen.walk g roots).events = []) :
    ∃ e ∈ elements (gen.walk g roots).events,
      g.rawName e = g.rawName i ∧ (g.shape i).alike (g.shape e) = true :=
  (valid_walk gen g roots).exists_alike (isVisited_of_mem_occurrences ho h)
    (fits_of_mem_occurrences ho hagreed h)

/-- Two elements that were met agree if they share a name, where nothing is redefined. -/
theorem Met.alike (hi : Met g roots (gen.walk g roots).events i)
    (hj : Met g roots (gen.walk g roots).events j) (ho : (gen.walk g roots).failure = none)
    (hagreed : redefinitions (gen.walk g roots).events = [])
    (hname : g.rawName i = g.rawName j) : (g.shape i).alike (g.shape j) = true := by
  obtain ⟨a, ha, hai, hia⟩ := hi.exists_alike ho hagreed
  obtain ⟨b, hb, hbj, hjb⟩ := hj.exists_alike ho hagreed
  obtain rfl : a = b := List.inj_on_of_nodup_map (valid_walk gen g roots).rawNames_nodup ha hb
    (hai.trans (hname.trans hbj.symm))
  exact Shape.alike_trans hia (Shape.alike_symm hjb)

/-- Where nothing is redefined, what was not met is below an element that repeats a declaration. -/
theorem met_or_below (ho : (gen.walk g roots).failure = none)
    (hagreed : redefinitions (gen.walk g roots).events = []) (h : g.Reachable roots i) :
    Met g roots (gen.walk g roots).events i ∨
      ∃ k, Repeats g roots (gen.walk g roots).events k ∧ TransGen g.Contains k i := by
  obtain ⟨r, hr, hp, hri⟩ := h
  induction hri with
  | refl => exact .inl (mem_occurrences_iff.2 ⟨.inl hr, hp⟩)
  | @tail b c _ hbc ih =>
    rcases ih with hmet | ⟨k, hk, hkb⟩
    · -- what a met element contains is met if the element is declared, and else lies below it
      by_cases hb : b ∈ elements (gen.walk g roots).events
      · exact .inl (mem_occurrences_iff.2 ⟨.inr ⟨b, hb, hbc.1⟩, hbc.2.2⟩)
      · exact .inr ⟨b, ⟨hmet, hb, hmet.exists_alike ho hagreed⟩, .single hbc⟩
    · exact .inr ⟨k, hk, hkb.tail hbc⟩

/-- **A strict walk that comes to its end has settled all conflicts among the elements it met**, and
has met all reachable elements but those below an element that repeats a declaration. -/
theorem conflicts_settled (gen : Generator) (g : Graph) (roots : List ElementId)
    (hs : gen.strategy = .error) (ho : (gen.walk g roots).failure = none) :
    (∀ i j, Met g roots (gen.walk g roots).events i → Met g roots (gen.walk g roots).events j →
      g.rawName i = g.rawName j → (g.shape i).alike (g.shape j) = true) ∧
    ∀ i, g.Reachable roots i → Met g roots (gen.walk g roots).events i ∨
      ∃ k, Repeats g roots (gen.walk g roots).events k ∧ TransGen g.Contains k i :=
  ⟨fun _ _ hi hj => hi.alike hj ho (redefinitions_of_strict hs),
    fun _ => met_or_below ho (redefinitions_of_strict hs)⟩

/-! ### A conflict below a repeated element -/

/-- Two baskets with a parcel each.  The parcels have the same shape, but what they hold is
defined twice, once with a weight and once with a price. -/
def baskets : Graph :=
  ⟨#[{ name := .str "basket", type := .str "basket", children := [1] },
    { name := .str "parcel", type := .str "parcel", children := [2] },
    withAttribute "content" "weight",
    { name := .str "spare", type := .str "spare", children := [4] },
    { name := .str "parcel", type := .str "parcel", children := [5] },
    withAttribute "content" "price"]⟩

theorem failure_baskets : ((plainGenerator .error).walk baskets [0, 3]).failure = none := by
  have h : ((plainGenerator .error).walk baskets [0, 3]).failure.isNone = true :=
    walk_of_outcome? (p := (·.failure.isNone)) (standard_plainGenerator _) 20 (by decide +kernel)
  exact Option.isNone_iff_eq_none.1 h

/-- A strict walk can come to its end although two reachable elements are in conflict. -/
theorem hidden_conflict :
    ¬ ∀ (gen : Generator) (g : Graph) (roots : List ElementId), gen.strategy = .error →
      (gen.walk g roots).failure = none → ∀ i j, g.Reachable roots i → g.Reachable roots j →
        g.rawName i = g.rawName j → (g.shape i).alike (g.shape j) = true := by
  intro h
  have hreach : baskets.Reachable [0, 3] 2 ∧ baskets.Reachable [0, 3] 5 := by
    constructor
    · exact ((Graph.Reachable.root (by decide) (by decide)).child (i := 0) (j := 1) (by decide)
        (by decide)).child (by decide) (by decide)
    · exact ((Graph.Reachable.root (by decide) (by decide)).child (i := 3) (j := 4) (by decide)
        (by decide)).child (by decide) (by decide)
  have halike := h (plainGenerator .error) baskets [0, 3] rfl failure_baskets 2 5 hreach.1 hreach.2
    rfl
  exact absurd halike (by decide)

theorem conflicts_settled_baskets :
    (∀ i j, Met baskets [0, 3] ((plainGenerator .error).walk baskets [0, 3]).events i →
      Met baskets [0, 3] ((plainGenerator .error).walk baskets [0, 3]).events j →
      baskets.rawName i = baskets.rawName j →
        (baskets.shape i).alike (baskets.shape j) = true) ∧
    ∀ i, baskets.Reachable [0, 3] i →
      Met baskets [0, 3] ((plainGenerator .error).walk baskets [0, 3]).events i ∨
        ∃ k, Repeats baskets [0, 3] ((plainGenerator .error).walk baskets [0, 3]).events k ∧
          TransGen baskets.Contains k i :=
  conflicts_settled (plainGenerator .error) baskets [0, 3] rfl failure_baskets

end Walk

end SchemaStructs
