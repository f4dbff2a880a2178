import SchemaStructs.Proofs.Generator.Clean
import SchemaStructs.Proofs.Walk.Conflict

/-!
# References to declared types

The field for a child that is not primitive refers to a struct.  A clean run makes sure that some
reachable element has the Go name of that struct.  The walk may not have come to this element: it
does not go below an element whose name is declared, while the validation goes everywhere.

* `Walk.references`: the type of such a field is declared by the same run, or it belongs to a
  reachable element whose name is not declared at all and which lies below an element that repeats
  a declaration;
* `Walk.dangling_reference`: the second happens, so a clean run can refer to a type that it does not
  declare.
-/

namespace SchemaStructs

namespace Walk

open Relation

variable {g : Graph} {gen : Generator} {roots : List ElementId} {i c e : ElementId} {t : Text}

/-- Elements of a visited name have the Go name of a declared type. -/
theorem mem_declaredTypes_of_isVisited
    (hvis : isVisited (gen.walk g roots).events (g.rawName i) = true)
    (ht : gen.typeName? (g.rawName i) = .ok t) : t ∈ declaredTypes (gen.walk g roots).events := by
  have hv := valid_walk gen g roots
  obtain ⟨d, hd, hname⟩ := hv.exists_declaration hvis
  have htype := (declare_eq_ok (declaration?_eq_ok (hv.genuine d hd)).1).2
  rw [hname, ht] at htype
  exact List.mem_map.2 ⟨d, hd, (Except.ok.inj htype).symm⟩

/-- A reachable element whose name is not declared lies below a repeated element, where nothing is
redefined. -/
theorem exists_repeats_of_not_isVisited (ho : (gen.walk g roots).failure = none)
    (hagreed : redefinitions (gen.walk g roots).events = []) (hi : g.Reachable roots i)
    (hvis : isVisited (gen.walk g roots).events (g.rawName i) = false) :
    ∃ k, Repeats g roots (gen.walk g roots).events k ∧ TransGen g.Contains k i := by
  refine (met_or_below ho hagreed hi).resolve_left fun hmet => ?_
  rw [isVisited_of_mem_occurrences ho hmet] at hvis
  cases hvis

/-- **References of a clean run.**  The Go type of the field for a child that is not primitive is
declared, or it is the Go name of a reachable element of a name that is not declared, below an
element that repeats a declaration. -/
theorem references (gen : Generator) (g : Graph) (roots : List ElementId)
    (hclean : gen.Clean g roots) :
    ∀ e ∈ elements (gen.walk g roots).events, ∀ c ∈ g.children e, g.isPrimitive c = false →
      ∃ t, gen.typeName? (g.get c).fieldType = .ok t ∧
        (t ∈ declaredTypes (gen.walk g roots).events ∨
          ∃ k i, Repeats g roots (gen.walk g roots).events k ∧ TransGen g.Contains k i ∧
            isVisited (gen.walk g roots).events (g.rawName i) = false ∧
            gen.typeName? (g.rawName i) = .ok t) := by
  intro e he c hc hp
  have hreach : g.Reachable roots e := by
    obtain ⟨d, hd, rfl⟩ := mem_elements_iff.1 he
    exact (valid_walk gen g roots).reachable d hd
  -- the validation found an element of this Go name, but the walk need not have come to it
  obtain ⟨t, i, hfield, hi, hname⟩ :=
    Generator.exists_declaring_of_validate hclean.validate_eq hreach hc hp
  refine ⟨t, hfield, ?_⟩
  cases hvis : isVisited (gen.walk g roots).events (g.rawName i) with
  | true => exact .inl (mem_declaredTypes_of_isVisited hvis hname)
  | false =>
    obtain ⟨k, hk, hki⟩ :=
      exists_repeats_of_not_isVisited hclean.failure_eq hclean.redefinitions_eq hi hvis
    exact .inr ⟨k, i, hk, hki, hvis, hname⟩

/-- A basket, a spare basket and a shelf.  The parcels of the two baskets have the same shape, but
only the content of the second parcel has a label, and the mark of the shelf is of its type. -/
def shelves : Graph :=
  ⟨#[{ name := .str "basket", type := .str "basket", children := [1] },
    { name := .str "parcel", type := .str "parcel", children := [2] },
    withAttribute "content" "weight",
    { name := .str "spare", type := .str "spare", children := [4] },
    { name := .str "parcel", type := .str "parcel", children := [5] },
    { name := .str "content", type := .str "content", children := [6] },
    { name := .str "label", type := .str "label" },
    { name := .str "shelf", type := .str "shelf", children := [8] },
    { name := .str "mark", type := .str "label" }]⟩

theorem clean_shelves : (plainGenerator .first).Clean shelves [0, 3, 7] :=
  Generator.clean_of_outcome? (standard_plainGenerator .first) rfl 40 (by decide +kernel)
    (by decide +kernel)

theorem shelf_mem_elements :
    7 ∈ elements ((plainGenerator .first).walk shelves [0, 3, 7]).events ∧
      ("label" : Text) ∉ declaredTypes ((plainGenerator .first).walk shelves [0, 3, 7]).events := by
  have h : ((elements ((plainGenerator .first).walk shelves [0, 3, 7]).events).contains 7 &&
      !(declaredTypes ((plainGenerator .first).walk shelves [0, 3, 7]).events).contains
        ("label" : Text)) = true :=
    walk_of_outcome? (p := fun o => (elements o.events).contains 7 &&
      !(declaredTypes o.events).contains ("label" : Text)) (standard_plainGenerator .first) 40
      (by decide +kernel)
  simpa using h

/-- A clean run can refer to a type that it does not declare. -/
theorem dangling_reference :
    ¬ ∀ (gen : Generator) (g : Graph) (roots : List ElementId), gen.Clean g roots →
      ∀ e ∈ elements (gen.walk g roots).events, ∀ c ∈ g.children e, g.isPrimitive c = false →
        ∃ t, gen.typeName? (g.get c).fieldType = .ok t ∧
          t ∈ declaredTypes (gen.walk g roots).events := by
  intro h
  obtain ⟨hshelf, hlabel⟩ := shelf_mem_elements
  obtain ⟨t, ht, hmem⟩ := h (plainGenerator .first) shelves [0, 3, 7] clean_shelves 7 hshelf 8
    (by decide) (by decide)
  have hfield : (plainGenerator .first).typeName? (shelves.get 8).fieldType =
      .ok ("label" : Text) := rfl
  rw [hfield] at ht
  exact hlabel (Except.ok.inj ht ▸ hmem)

theorem references_shelves :
    (plainGenerator .first).Clean shelves [0, 3, 7] ∧
    ∀ e ∈ elements ((plainGenerator .first).walk shelves [0, 3, 7]).events,
      ∀ c ∈ shelves.children e, shelves.isPrimitive c = false →
        ∃ t, (plainGenerator .first).typeName? (shelves.get c).fieldType = .ok t ∧
          (t ∈ declaredTypes ((plainGenerator .first).walk shelves [0, 3, 7]).events ∨
            ∃ k i, Repeats shelves [0, 3, 7]
                ((plainGenerator .first).walk shelves [0, 3, 7]).events k ∧
              TransGen shelves.Contains k i ∧
              isVisited ((plainGenerator .first).walk shelves [0, 3, 7]).events
                (shelves.rawName i) = false ∧
              (plainGenerator .first).typeName? (shelves.rawName i) = .ok t) :=
  ⟨clean_shelves, references (plainGenerator .first) shelves [0, 3, 7] clean_shelves⟩

end Walk

end SchemaStructs
