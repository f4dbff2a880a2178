import SchemaStructs.Proofs.Generator.Clean
import SchemaStructs.Proofs.Naming.Skeleton

/-!
# Go names of declared types

A walk declares no raw name twice.  The Go name of a type comes from the raw name by passes that are
not injective, and nothing compares the Go names of two declarations, so a clean run can declare two
structs of one Go name (`Walk.one_name_twice`).  What a Go name still tells is the skeleton of the
raw name:

* `Walk.typeNames`: in a clean run, declarations of one Go name have raw names of one skeleton;
  where the skeletons of the declared names are distinct, the Go names are.
-/

namespace SchemaStructs

open Validation in
/-- There is a warning about every type that has the name of a type that Go provides. -/
theorem Naming.isPrimitive_of_typeNameWarnings {typeName element : Text}
    (h : typeNameWarnings typeName element = []) : isPrimitive typeName = false := by
  have hwarned : ∀ n ∈ primitives,
      (isKeyword n || isPredeclared n || !Text.isIdentifier n) = true := by
    decide +kernel
  rw [Bool.eq_false_iff]
  intro hprimitive
  have hn := hwarned typeName (List.contains_iff_mem.1 hprimitive)
  obtain ⟨hreserved, hbad⟩ := List.append_eq_nil_iff.1 h
  cases hk : isKeyword typeName <;> cases hd : isPredeclared typeName <;>
    cases hi : Text.isIdentifier typeName <;> simp_all

namespace Naming

theorem TypeStyle.typeName_of_isPrimitive {n : Text} (style : TypeStyle)
    (h : isPrimitive n = true) : style.typeName n = n := by
  rw [typeName, if_pos h]

end Naming

namespace Generator

/-- A Go name that can be told is that of the style with the prefix, if the prefix is a text, and of
the style without one else. -/
theorem eq_typeName_of_typeName? {lead : Json} {exported : Bool} {n t : Text}
    (h : Template.Filter.typeName? lead exported n = .ok t) :
    t = Naming.TypeStyle.typeName { lead := lead.text?.getD [], exported } n := by
  cases lead with
  | str lead => exact (Except.ok.inj h).symm
  | arr items =>
    cases items with
    | nil => exact (Except.ok.inj h).symm
    | cons item items =>
      cases hn : Naming.isPrimitive n with
      | true =>
        rw [Template.Filter.typeName?, if_pos hn] at h
        rw [Naming.TypeStyle.typeName_of_isPrimitive _ hn, Except.ok.inj h]
      | false => rw [Template.Filter.typeName?, hn] at h; cases h
  | _ =>
    simp only [Template.Filter.typeName?] at h
    split at h
    · cases h
    · exact (Except.ok.inj h).symm

/-- Whatever value stands for the prefix, a run names its types in one style. -/
theorem exists_style (gen : Generator) : ∃ style : Naming.TypeStyle, ∀ n t,
    gen.typeName? (.str n) = .ok t → t = style.typeName n :=
  ⟨_, fun _ _ h => eq_typeName_of_typeName? (mapError_eq_ok_iff.1 h)⟩

end Generator

namespace Walk

variable {gen : Generator} {g : Graph} {roots : List ElementId} {d d' : Declaration}

/-- In a clean run the Go name of a declaration comes from a raw name that Go does not provide. -/
theorem exists_style_of_clean (hclean : gen.Clean g roots) : ∃ style : Naming.TypeStyle,
    ∀ d ∈ declarations (gen.walk g roots).events,
      d.typeName = style.typeName d.name ∧ Naming.isPrimitive d.name = false := by
  have hv := valid_walk gen g roots
  obtain ⟨style, hstyle⟩ := gen.exists_style
  refine ⟨style, fun d hd => ?_⟩
  obtain ⟨t, ht, hwarnings⟩ :=
    Generator.typeNameWarnings_of_validate hclean.validate_eq (hv.reachable d hd)
  have hname := hv.rawName_element hd
  have htype := (declare_eq_ok (declaration?_eq_ok (hv.genuine d hd)).1).2
  rw [hname] at ht htype
  have hprimitive := Naming.isPrimitive_of_typeNameWarnings hwarnings
  refine ⟨hstyle _ _ htype, ?_⟩
  -- a raw name that Go provides would be its own Go name, and there would be a warning about it
  rw [Bool.eq_false_iff]
  intro hn
  rw [hstyle _ _ ht, Naming.TypeStyle.typeName, if_pos hn, hn] at hprimitive
  cases hprimitive

/-- **Go names of a clean run.**  No raw name is declared twice; declarations of one Go name have
raw names of one skeleton; and the Go names are distinct where the skeletons of the raw names
are. -/
theorem typeNames (gen : Generator) (g : Graph) (roots : List ElementId)
    (hclean : gen.Clean g roots) :
    (visited (gen.walk g roots).events).Nodup ∧
    (∀ d ∈ declarations (gen.walk g roots).events, ∀ d' ∈ declarations (gen.walk g roots).events,
      d.typeName = d'.typeName → Naming.skeleton d.name = Naming.skeleton d'.name) ∧
    (((visited (gen.walk g roots).events).map Naming.skeleton).Nodup →
      (declaredTypes (gen.walk g roots).events).Nodup) := by
  obtain ⟨style, hstyle⟩ := exists_style_of_clean hclean
  have hskeleton : ∀ d ∈ declarations (gen.walk g roots).events,
      ∀ d' ∈ declarations (gen.walk g roots).events,
        d.typeName = d'.typeName → Naming.skeleton d.name = Naming.skeleton d'.name := by
    intro d hd d' hd' h
    obtain ⟨htype, hn⟩ := hstyle d hd
    obtain ⟨htype', hn'⟩ := hstyle d' hd'
    exact Naming.skeleton_eq_of_typeName_eq hn hn' (htype.symm.trans (h.trans htype'))
  refine ⟨(valid_walk gen g roots).names_nodup, hskeleton, fun hnodup => ?_⟩
  rw [visited, List.map_map] at hnodup
  refine List.Nodup.map_on (fun d hd d' hd' h => ?_) (List.Nodup.of_map _ hnodup)
  exact List.inj_on_of_nodup_map hnodup hd hd' (hskeleton d hd d' hd' h)

/-- Two elements without anything inside, of names that differ in a dash. -/
def dashes : Graph :=
  ⟨#[{ name := .str "foo-bar", type := .str "foo-bar" },
    { name := .str "fooBar", type := .str "fooBar" }]⟩

theorem clean_dashes : (plainGenerator .first).Clean dashes [0, 1] :=
  Generator.clean_of_outcome? (standard_plainGenerator .first) rfl 10 (by decide +kernel)
    (by decide +kernel)

/-- A clean run can declare one Go name twice. -/
theorem one_name_twice :
    ¬ ∀ (gen : Generator) (g : Graph) (roots : List ElementId), gen.Clean g roots →
      (declaredTypes (gen.walk g roots).events).Nodup := by
  intro h
  have hnodup := h (plainGenerator .first) dashes [0, 1] clean_dashes
  have htypes : (declaredTypes ((plainGenerator .first).walk dashes [0, 1]).events ==
      Text.ofStrings ["fooBar", "fooBar"]) = true :=
    walk_of_outcome? (p := fun o => declaredTypes o.events == Text.ofStrings ["fooBar", "fooBar"])
      (standard_plainGenerator .first) 10 (by decide +kernel)
  rw [beq_iff_eq.1 htypes] at hnodup
  exact absurd hnodup (by decide)

/-- Two elements whose names differ in more than dashes. -/
def colours : Graph :=
  ⟨#[{ name := .str "light-red", type := .str "light-red" },
    { name := .str "lightBlue", type := .str "lightBlue" }]⟩

theorem clean_colours : (plainGenerator .first).Clean colours [0, 1] :=
  Generator.clean_of_outcome? (standard_plainGenerator .first) rfl 10 (by decide +kernel)
    (by decide +kernel)

theorem visited_colours : ((visited ((plainGenerator .first).walk colours [0, 1]).events).map
    Naming.skeleton).Nodup := by
  have h : (decide ((visited ((plainGenerator .first).walk colours [0, 1]).events).map
      Naming.skeleton).Nodup) = true :=
    walk_of_outcome? (p := fun o => decide ((visited o.events).map Naming.skeleton).Nodup)
      (standard_plainGenerator .first) 10 (by decide +kernel)
  exact of_decide_eq_true h

theorem typeNames_colours :
    (plainGenerator .first).Clean colours [0, 1] ∧
    (visited ((plainGenerator .first).walk colours [0, 1]).events).Nodup ∧
    (∀ d ∈ declarations ((plainGenerator .first).walk colours [0, 1]).events,
      ∀ d' ∈ declarations ((plainGenerator .first).walk colours [0, 1]).events,
        d.typeName = d'.typeName → Naming.skeleton d.name = Naming.skeleton d'.name) ∧
    (declaredTypes ((plainGenerator .first).walk colours [0, 1]).events).Nodup :=
  have h := typeNames (plainGenerator .first) colours [0, 1] clean_colours
  ⟨clean_colours, h.1, h.2.1, h.2.2 visited_colours⟩

end Walk

end SchemaStructs
