import SchemaStructs.Proofs.Computation
import SchemaStructs.Proofs.Schema.Preorder
import SchemaStructs.Proofs.Walk.Account

/-!
# Runs without warnings

A run is *clean* when it gives code and nothing may be wrong with that code
(`Generator.Clean`).  Then the validation had nothing to say about any reachable element, the walk
came to its end, and it found nothing redefined (`Generator.clean_iff`).

* `Generator.typeNameWarnings_of_validate`: the Go names of all reachable elements are identifiers
  and not reserved;
* `Generator.exists_declaring_of_validate`: the field of a child that is not primitive has a type
  whose Go name is that of some reachable element.
-/

namespace SchemaStructs

namespace Generator

open Validation

variable {gen : Generator} {g : Graph} {roots : List ElementId} {i c : ElementId}
variable {declared : List Text} {struct t : Text}

/-! ### What a validation without warnings says -/

theorem exists_of_danglingWarning? {child : Element}
    (h : gen.danglingWarning? declared struct child = .ok [])
    (hp : child.isPrimitive = false) :
    ∃ t ∈ declared, gen.typeName? child.fieldType = .ok t := by
  rw [danglingWarning?, hp] at h
  obtain ⟨t, ht, h⟩ := bind_eq_ok_iff.1 h
  split at h
  · exact ⟨t, List.contains_iff_mem.1 ‹_›, ht⟩
  · -- the field would be warned of
    obtain ⟨own, -, h⟩ := bind_eq_ok_iff.1 h
    cases pure_eq_ok_iff.1 h

/-- What is known of an element that there is no warning about. -/
theorem of_elementWarnings? (h : gen.elementWarnings? g declared i = .ok []) :
    (∃ struct, gen.typeName? (g.rawName i) = .ok struct ∧
      typeNameWarnings struct (g.name i) = []) ∧
    ∀ c ∈ g.children i, g.isPrimitive c = false →
      ∃ t ∈ declared, gen.typeName? (g.get c).fieldType = .ok t := by
  -- warnings about the name, about the members and about dangling types, of which there is none
  obtain ⟨struct, hstruct, h⟩ := bind_eq_ok_iff.1 h
  obtain ⟨members, -, h⟩ := bind_eq_ok_iff.1 h
  obtain ⟨dangling, hdangling, h⟩ := bind_eq_ok_iff.1 h
  obtain ⟨hboth, hnone⟩ := List.append_eq_nil_iff.1 (pure_eq_ok_iff.1 h)
  obtain ⟨hname, -⟩ := List.append_eq_nil_iff.1 hboth
  refine ⟨⟨struct, hstruct, hname⟩, fun c hc hp => ?_⟩
  obtain ⟨ws, hws, hchild⟩ := exists_of_forall₂ (mapM_eq_ok_iff.1 hdangling)
    (List.mem_map_of_mem (f := g.get) hc)
  rw [List.flatten_eq_nil_iff.1 hnone ws hws] at hchild
  exact exists_of_danglingWarning? hchild hp

/-- A validation without warnings has none about any reachable element, given the Go names of all
reachable elements. -/
theorem exists_declared_of_validate (h : gen.validate g roots = .ok []) :
    ∃ declared, (∀ t ∈ declared, ∃ k, g.Reachable roots k ∧ gen.typeName? (g.rawName k) = .ok t) ∧
      ∀ i, g.Reachable roots i → gen.elementWarnings? g declared i = .ok [] := by
  dsimp only [validate] at h
  split at h
  · cases h
  obtain ⟨declared, hdeclared, h⟩ := bind_eq_ok_iff.1 h
  obtain ⟨warnings, hwarnings, h⟩ := bind_eq_ok_iff.1 h
  obtain ⟨-, hnone⟩ := List.append_eq_nil_iff.1 (pure_eq_ok_iff.1 h)
  refine ⟨declared, fun t ht => ?_, fun i hi => ?_⟩
  · obtain ⟨k, hk, hname⟩ := exists_of_forall₂ (mapM_eq_ok_iff.1 hdeclared).flip ht
    exact ⟨k, mem_checked_iff.1 hk, hname⟩
  · obtain ⟨ws, hws, hi⟩ := exists_of_forall₂ (mapM_eq_ok_iff.1 hwarnings) (mem_checked_iff.2 hi)
    rwa [List.flatten_eq_nil_iff.1 hnone ws hws] at hi

/-- Without warnings the Go name of a reachable element is an identifier that is not reserved. -/
theorem typeNameWarnings_of_validate (h : gen.validate g roots = .ok [])
    (hi : g.Reachable roots i) :
    ∃ struct, gen.typeName? (g.rawName i) = .ok struct ∧
      typeNameWarnings struct (g.name i) = [] := by
  obtain ⟨declared, -, hwarnings⟩ := exists_declared_of_validate h
  exact (of_elementWarnings? (hwarnings i hi)).1

/-- Without warnings the field of a child has the type of some reachable element. -/
theorem exists_declaring_of_validate (h : gen.validate g roots = .ok []) (hi : g.Reachable roots i)
    (hc : c ∈ g.children i) (hp : g.isPrimitive c = false) :
    ∃ t k, gen.typeName? (g.get c).fieldType = .ok t ∧ g.Reachable roots k ∧
      gen.typeName? (g.rawName k) = .ok t := by
  obtain ⟨declared, hdeclared, hwarnings⟩ := exists_declared_of_validate h
  obtain ⟨t, ht, hfield⟩ := (of_elementWarnings? (hwarnings i hi)).2 c hc hp
  obtain ⟨k, hk, hname⟩ := hdeclared t ht
  exact ⟨t, k, hfield, hk, hname⟩

/-! ### Clean runs -/

/-- The run gives code without any warning. -/
def Clean (gen : Generator) (g : Graph) (roots : List ElementId) : Prop :=
  ∃ code summary, gen.result g roots = .ok (.success code [] summary)

theorem result_eq_success_iff {code : Text} {ws : List Warning} {summary : Summary} :
    gen.result g roots = .ok (.success code ws summary) ↔
      gen.attempt g roots = .ok (.success code ws summary) := by
  unfold result
  cases gen.attempt g roots with
  | ok r => simp
  | error failure => cases failure <;> simp

/-- A run is clean exactly if the validation finds nothing, the walk comes to its end without
redefinitions, and the source can be assembled and formatted. -/
theorem clean_iff :
    gen.Clean g roots ↔ gen.validate g roots = .ok [] ∧ (gen.walk g roots).failure = none ∧
      Walk.redefinitions (gen.walk g roots).events = [] ∧
      ∃ source code, gen.assemble (declarationTexts (gen.walk g roots).events) = .ok source ∧
        gen.formatted source = .ok code := by
  simp only [Clean, result_eq_success_iff, attempt, bind_eq_ok_iff, pure_eq_ok_iff,
    collect_eq_ok_iff]
  constructor
  · rintro ⟨code, summary, found, hfound, run, ⟨hfailure, rfl⟩, source, hsource, code', hcode, h⟩
    injection h with _ hws _
    obtain ⟨rfl, hredefined⟩ := List.append_eq_nil_iff.1 hws
    exact ⟨hfound, hfailure, List.map_eq_nil_iff.1 hredefined, source, code', hsource, hcode⟩
  · rintro ⟨hvalid, hfailure, hredefined, source, code, hsource, hcode⟩
    refine ⟨code, gen.summary g roots (.ofEvents (gen.walk g roots).events), [], hvalid, _,
      ⟨hfailure, rfl⟩, source, hsource, code, hcode, ?_⟩
    rw [Walk.Collected.ofEvents, Walk.warnings, hredefined]
    rfl

theorem Clean.validate_eq (h : gen.Clean g roots) : gen.validate g roots = .ok [] :=
  (clean_iff.1 h).1

theorem Clean.failure_eq (h : gen.Clean g roots) : (gen.walk g roots).failure = none :=
  (clean_iff.1 h).2.1

theorem Clean.redefinitions_eq (h : gen.Clean g roots) :
    Walk.redefinitions (gen.walk g roots).events = [] :=
  (clean_iff.1 h).2.2.1

theorem assemble_of_fragment (hpackage : gen.settings.packageName.truthy = false)
    (texts : List Text) : gen.assemble texts = .ok (Text.joinWith "\n\n" texts ++ ['\n']) := by
  simp [assemble, packageClause?, hpackage, bind, Except.bind, pure, Except.pure]

/-- What a bounded number of steps and the validation show of the run of a given schema. -/
theorem clean_of_outcome? (hgen : gen.Standard) (hpackage : gen.settings.packageName.truthy = false)
    (fuel : Nat) (hvalid : (gen.validate g roots).toOption = some [])
    (h : ((Walk.outcome? g gen.strategy (gen.printed g) fuel [] [] [roots]).any fun o =>
      o.failure.isNone && (Walk.redefinitions o.events).isEmpty &&
        (gen.formatted (Text.joinWith "\n\n" (declarationTexts o.events) ++ ['\n'])).isOk) = true) :
    gen.Clean g roots := by
  have hwalk := Walk.walk_of_outcome? hgen fuel h
  simp only [Bool.and_eq_true, Option.isNone_iff_eq_none, List.isEmpty_iff] at hwalk
  obtain ⟨⟨hfailure, hredefined⟩, hformat⟩ := hwalk
  refine clean_iff.2 ⟨eq_ok_of_toOption hvalid, hfailure, hredefined, ?_⟩
  cases hf : gen.formatted
      (Text.joinWith "\n\n" (declarationTexts (gen.walk g roots).events) ++ ['\n']) with
  | error failure => rw [hf] at hformat; cases hformat
  | ok code => exact ⟨_, code, assemble_of_fragment hpackage _, hf⟩

end Generator

end SchemaStructs
