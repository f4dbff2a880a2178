import SchemaStructs.Proofs.Generator.Fields
import SchemaStructs.Proofs.Schema.Copy
import SchemaStructs.Proofs.Settings.Checked
import SchemaStructs.Proofs.Walk.Cycle

/-!
# Failures as results

A run is *contained* when it has a result: the code of the schema, or the failure that kept the code
from being generated (`Generator.Contained`).  A value that is misused outside of templates escapes
from the run instead.

The settings of a run are checked when they are loaded, and the names and types of elements when a
document is read.  Names of attributes are not: any value that counts as true passes for one, and
the templates report a value that is no text, but the validation comes before the templates.

* `Generator.exists_of_validate_eq_error`: the validation of elements that have texts for names and
  types fails because of the name of an attribute, and nothing else;
* `Generator.walk_ne_misuse`: the walk of such elements misuses no value;
* `Generator.result_of_validate`: once the validation has passed, the result is that of generating
  code;
* `Generator.contained_of_document`: so the run of a document is contained exactly if the attributes
  of all elements that are checked have texts for names, and `Generator.escapes` shows a document
  whose run is not.
-/

namespace SchemaStructs

/-- The attributes of all reachable elements have texts for names. -/
def Graph.AttributesNamed (g : Graph) (roots : List ElementId) : Prop :=
  ∀ i, g.Reachable roots i → ∀ a ∈ (g.get i).attributes, a.name.isText = true

namespace Generator

open Validation

variable {gen : Generator} {g : Graph} {roots : List ElementId} {i : ElementId}
variable {declared : List Text} {struct : Text} {failure : GenerationFailure}

/-- The run has a result, and it is that of generating code: the code, or a failure that is no
misuse of a value. -/
def Contained (gen : Generator) (g : Graph) (roots : List ElementId) : Prop :=
  (∃ code warnings summary, gen.result g roots = .ok (.success code warnings summary) ∧
    gen.generate g roots = .ok code) ∨
  ∃ failure, gen.result g roots = .ok (.failed failure) ∧
    gen.generate g roots = .error failure ∧ ∀ cause, failure ≠ .misuse cause

/-! ### Validation -/

theorem isText_of_nameText? {j : Json} {t : Text} (h : nameText? j = .ok t) : j.isText = true := by
  cases j with
  | str _ => rfl
  | _ => cases h

theorem nameText?_eq_error {j : Json} (h : nameText? j = .error failure) :
    j.isText = false ∧ failure = .misuse (.notText j.kind) := by
  cases j with
  | str _ => cases h
  | _ => exact ⟨rfl, (Except.error.inj h).symm⟩

/-- If the names of an element and of its children are texts, only that of an attribute can be
none. -/
theorem members?_eq_error (hi : (g.get i).Named) (hchildren : ∀ c ∈ g.children i, (g.get c).Named)
    (h : members? g i = .error failure) :
    ∃ a ∈ (g.get i).attributes,
      a.name.isText = false ∧ failure = .misuse (.notText a.name.kind) := by
  obtain ⟨j, hmem, herror⟩ := exists_of_mapM_eq_error h
  obtain ⟨hnot, rfl⟩ := nameText?_eq_error herror
  rw [List.mem_append, List.mem_append] at hmem
  rcases hmem with (hmem | hmem) | hmem
  · obtain ⟨a, ha, rfl⟩ := List.mem_map.1 hmem
    exact ⟨a, ha, hnot, rfl⟩
  · rw [List.map_map] at hmem
    obtain ⟨c, hc, rfl⟩ := List.mem_map.1 hmem
    exact absurd (hchildren c hc).name (by simpa using hnot)
  · split at hmem
    · rw [List.mem_singleton] at hmem
      rw [hmem, hi.name] at hnot
      cases hnot
    · cases hmem

theorem elementWarnings?_eq_error (hgen : gen.Standard) (hi : (g.get i).Named)
    (hchildren : ∀ c ∈ g.children i, (g.get c).Named)
    (h : gen.elementWarnings? g declared i = .error failure) :
    ∃ a ∈ (g.get i).attributes,
      a.name.isText = false ∧ failure = .misuse (.notText a.name.kind) := by
  rcases bind_eq_error_iff.1 h with h | ⟨struct, -, h⟩
  · rw [hgen.typeName?_eq hi.name] at h
    cases h
  rcases bind_eq_error_iff.1 h with h | ⟨members, -, h⟩
  · exact members?_eq_error hi hchildren h
  rcases bind_eq_error_iff.1 h with h | ⟨dangling, -, h⟩
  · -- the types of the children can all be looked up
    obtain ⟨e, he, herror⟩ := exists_of_mapM_eq_error h
    obtain ⟨c, hc, rfl⟩ := List.mem_map.1 he
    obtain ⟨ws, hws, -⟩ : ∃ ws, gen.danglingWarning? declared struct (g.get c) = .ok ws ∧ _ :=
      hgen.danglingWarning?_eq_ok (hchildren c hc)
    rw [hws] at herror
    cases herror
  · cases h

/-- **A validation fails because of the name of an attribute**, if the names and types of all
elements are texts. -/
theorem exists_of_validate_eq_error (hgen : gen.Standard)
    (hnamed : ∀ i, g.Occurs roots i → (g.get i).Named)
    (h : gen.validate g roots = .error failure) :
    ∃ i, g.Reachable roots i ∧ ∃ a ∈ (g.get i).attributes,
      a.name.isText = false ∧ failure = .misuse (.notText a.name.kind) := by
  dsimp only [validate] at h
  split at h
  · -- an element that cannot be looked up
    rename_i e he
    obtain ⟨i, hi, rfl⟩ := List.mem_map.1 (List.mem_of_find?_eq_some he)
    have hunfit := List.find?_some he
    rw [(hnamed i (mem_checked_iff.1 hi).occurs).isFit] at hunfit
    cases hunfit
  rcases bind_eq_error_iff.1 h with h | ⟨declared, -, h⟩
  · obtain ⟨i, hi, herror⟩ := exists_of_mapM_eq_error h
    rw [hgen.typeName?_eq (hnamed i (mem_checked_iff.1 hi).occurs).name] at herror
    cases herror
  rcases bind_eq_error_iff.1 h with h | ⟨warnings, -, h⟩
  · obtain ⟨i, hi, herror⟩ := exists_of_mapM_eq_error h
    have hi := mem_checked_iff.1 hi
    exact ⟨i, hi, elementWarnings?_eq_error hgen (hnamed i hi.occurs)
      (fun c hc => hnamed c (hi.occurs_child c hc)) herror⟩
  · cases h

/-- A validation that passes has seen texts for the names of all attributes. -/
theorem attributesNamed_of_validate {ws : List Warning} (h : gen.validate g roots = .ok ws) :
    g.AttributesNamed roots := by
  intro i hi a ha
  dsimp only [validate] at h
  split at h
  · cases h
  obtain ⟨declared, -, h⟩ := bind_eq_ok_iff.1 h
  obtain ⟨warnings, hwarnings, -⟩ := bind_eq_ok_iff.1 h
  obtain ⟨own, -, hown⟩ := exists_of_forall₂ (mapM_eq_ok_iff.1 hwarnings) (mem_checked_iff.2 hi)
  obtain ⟨struct, -, hown⟩ := bind_eq_ok_iff.1 hown
  obtain ⟨members, hmembers, -⟩ := bind_eq_ok_iff.1 hown
  have hmem : a.name ∈ (g.get i).attributes.map (·.name) := List.mem_map_of_mem ha
  obtain ⟨t, -, ht⟩ := exists_of_forall₂ (mapM_eq_ok_iff.1 hmembers)
    (List.mem_append_left _ (List.mem_append_left _ hmem))
  exact isText_of_nameText? ht

/-! ### Generating code -/

/-- **A walk misuses no value**, if the names and types of all elements are texts. -/
theorem walk_ne_misuse (hgen : gen.Standard) (hnamed : ∀ i, g.Occurs roots i → (g.get i).Named)
    (h : (gen.walk g roots).failure = some failure) (cause : Template.Failure) :
    failure ≠ .misuse cause := by
  rintro rfl
  obtain ⟨events, path, i, -, hocc, hstop⟩ := Walk.exists_stop_of_failure h
  rcases Walk.encounter_stop hstop with hu | ⟨-, ⟨-, he⟩ | ⟨-, ⟨-, -, -, he⟩ | ⟨-, he⟩⟩⟩
  · rw [Walk.unfit?_eq_none (hnamed i hocc)] at hu
    cases hu
  · cases he
  · cases he
  · rcases Walk.declaration?_eq_error he with ⟨_, he⟩ | he | ⟨hname, -⟩
    · cases he
    · rw [Graph.rawName, hgen.typeName?_eq (hnamed i hocc).name] at he
      cases he
    · rw [Graph.rawName, (hnamed i hocc).name] at hname
      cases hname

/-- Whether the source can be assembled is a matter of the template for the package. -/
theorem assemble_eq_error {texts : List Text} (h : gen.assemble texts = .error failure) :
    ∃ cause, failure = .package StructTemplates.packageFile cause := by
  rcases bind_eq_error_iff.1 h with h | ⟨clause, -, h⟩
  · unfold packageClause? at h
    split at h
    · cases h
    · obtain ⟨cause, -, rfl⟩ := mapError_eq_error_iff.1 h
      exact ⟨cause, rfl⟩
  · cases h

theorem formatted_eq_error {source : Text} (h : gen.formatted source = .error failure) :
    ∃ fault, failure = .format fault := by
  unfold formatted at h
  split at h
  · obtain ⟨fault, -, rfl⟩ := mapError_eq_error_iff.1 h
    exact ⟨fault, rfl⟩
  · cases h

/-- Generating code fails where its walk does, or for a reason that is no misuse of a value. -/
theorem generate_eq_error (h : gen.generate g roots = .error failure) :
    (gen.walk g roots).failure = some failure ∨ ∀ cause, failure ≠ .misuse cause := by
  rcases bind_eq_error_iff.1 h with h | ⟨source, -, h⟩
  · rcases bind_eq_error_iff.1 h with h | ⟨run, -, h⟩
    · exact .inl (collect_eq_error_iff.1 h)
    · obtain ⟨cause, rfl⟩ := assemble_eq_error h
      exact .inr fun _ he => by cases he
  · obtain ⟨fault, rfl⟩ := formatted_eq_error h
    exact .inr fun _ he => by cases he

/-- An attempt whose validation passes ends as generating code does. -/
theorem attempt_of_validate {ws : List Warning} (h : gen.validate g roots = .ok ws) :
    (∃ code warnings summary, gen.attempt g roots = .ok (.success code warnings summary) ∧
      gen.generate g roots = .ok code) ∨
    ∃ failure, gen.attempt g roots = .error failure ∧ gen.generate g roots = .error failure := by
  rw [attempt, generate, source, h]
  simp only [bind, Except.bind]
  cases gen.collect g roots with
  | error failure => exact .inr ⟨failure, rfl, rfl⟩
  | ok run =>
    dsimp only
    cases gen.assemble run.declarations with
    | error failure => exact .inr ⟨failure, rfl, rfl⟩
    | ok source =>
      dsimp only
      cases gen.formatted source with
      | error failure => exact .inr ⟨failure, rfl, rfl⟩
      | ok code => exact .inl ⟨code, _, _, rfl, rfl⟩

/-- **Once the validation has passed, the run is contained**, if the names and types of all elements
are texts. -/
theorem contained_of_validate (hgen : gen.Standard)
    (hnamed : ∀ i, g.Occurs roots i → (g.get i).Named) {ws : List Warning}
    (h : gen.validate g roots = .ok ws) : gen.Contained g roots := by
  rcases attempt_of_validate h with ⟨code, warnings, summary, hattempt, hcode⟩ |
    ⟨failure, hattempt, hfailure⟩
  · exact .inl ⟨code, warnings, summary, result_eq_success_iff.2 hattempt, hcode⟩
  · have hno : ∀ cause, failure ≠ .misuse cause :=
      (generate_eq_error hfailure).elim (walk_ne_misuse hgen hnamed) id
    refine .inr ⟨failure, ?_, hfailure, hno⟩
    rw [result, hattempt]
    cases failure with
    | misuse cause => exact absurd rfl (hno cause)
    | _ => rfl

/-- What ends the validation as a misuse escapes from the run. -/
theorem result_of_validate_eq_error {cause : Template.Failure}
    (h : gen.validate g roots = .error (.misuse cause)) : gen.result g roots = .error cause := by
  rw [result, attempt, h]
  rfl

theorem not_contained_of_result {cause : Template.Failure} (h : gen.result g roots = .error cause) :
    ¬ gen.Contained g roots := by
  rintro (⟨_, _, _, hresult, -⟩ | ⟨_, hresult, -⟩) <;> rw [h] at hresult <;> cases hresult

/-- Elements with texts for names and types give a contained run, or the name of an attribute
escapes. -/
theorem contained_or_escapes (hgen : gen.Standard)
    (hnamed : ∀ i, g.Occurs roots i → (g.get i).Named) :
    g.AttributesNamed roots ∧ gen.Contained g roots ∨
      ∃ i, g.Reachable roots i ∧ ∃ a ∈ (g.get i).attributes,
        a.name.isText = false ∧ gen.result g roots = .error (.notText a.name.kind) := by
  cases hvalidate : gen.validate g roots with
  | ok ws =>
    exact .inl ⟨attributesNamed_of_validate hvalidate, contained_of_validate hgen hnamed hvalidate⟩
  | error failure =>
    obtain ⟨i, hi, a, ha, hname, rfl⟩ := exists_of_validate_eq_error hgen hnamed hvalidate
    exact .inr ⟨i, hi, a, ha, hname, result_of_validate_eq_error hvalidate⟩

/-! ### Documents -/

theorem standard_of_load {files : FileTree} {file : Option Path} {overrides : List (Text × Json)}
    {s : Settings} (h : Settings.load files file overrides = .ok s) :
    ∃ gen, ofSettings? s = some gen ∧ gen.Standard := by
  have hs := Settings.checked_of_load h
  obtain ⟨strategy, hstrategy⟩ := hs.onConflict
  refine ⟨_, by rw [ofSettings?, hstrategy]; rfl, rfl, hs.lead⟩

/-- **The run of a document is contained exactly if attributes have texts for names.**  Settings
that are loaded give a generator.  For every document that is read, the run has the code or the
failure of generating code as its result if the attributes of all reachable elements have texts for
names; else a name that is no text escapes as a misuse. -/
theorem contained_of_document (files : FileTree) (file : Option Path)
    (overrides : List (Text × Json)) (s : Settings) (document : Json) (trees : List Tree)
    (hload : Settings.load files file overrides = .ok s)
    (hread : Tree.ofDocument? document = .ok trees) :
    ∃ gen, ofSettings? s = some gen ∧
      ((Graph.ofTrees trees).1.AttributesNamed (Graph.ofTrees trees).2 →
        gen.Contained (Graph.ofTrees trees).1 (Graph.ofTrees trees).2) ∧
      (¬ (Graph.ofTrees trees).1.AttributesNamed (Graph.ofTrees trees).2 →
        ∃ i, (Graph.ofTrees trees).1.Reachable (Graph.ofTrees trees).2 i ∧
          ∃ a ∈ ((Graph.ofTrees trees).1.get i).attributes, a.name.isText = false ∧
            gen.result (Graph.ofTrees trees).1 (Graph.ofTrees trees).2 =
              .error (.notText a.name.kind)) := by
  obtain ⟨gen, hsettings, hgen⟩ := standard_of_load hload
  refine ⟨gen, hsettings, ?_⟩
  rcases contained_or_escapes hgen fun i => Graph.named_of_occurs (i := i) hread with
    ⟨hattributes, hcontained⟩ | ⟨i, hi, a, ha, hname, hresult⟩
  · exact ⟨fun _ => hcontained, fun hnot => absurd hattributes hnot⟩
  · refine ⟨fun hattributes => ?_, fun _ => ⟨i, hi, a, ha, hname, hresult⟩⟩
    rw [hattributes i hi a ha] at hname
    cases hname

section Escaping

open Json (entry)

/-- A document of one element, with an attribute of the given name and type. -/
def attributeDocument (name type : Json) : Json :=
  .obj [entry "name" (.str "order"),
    entry "attribs" (.arr [.obj [entry "name" name, entry "type" type]])]

/-- The element of such a document. -/
def attributeTree (name type : Json) : Tree :=
  .node (.str "order") (.str "order") [{ name, type }] [] (.bool false) (.bool false)

theorem ofDocument?_attributeDocument :
    Tree.ofDocument? (attributeDocument (.str "id") (.int 5)) =
      .ok [attributeTree (.str "id") (.int 5)] := rfl

/-- A text is read as the name of an attribute, and any value as its type. -/
theorem contained_of_document_typed :
    Settings.load {} none [] = .ok {} ∧
    Tree.ofDocument? (attributeDocument (.str "id") (.int 5)) =
      .ok [attributeTree (.str "id") (.int 5)] ∧
    ∃ gen, ofSettings? {} = some gen ∧
      gen.Contained (Graph.ofTrees [attributeTree (.str "id") (.int 5)]).1
        (Graph.ofTrees [attributeTree (.str "id") (.int 5)]).2 := by
  refine ⟨Settings.load_default _, ofDocument?_attributeDocument, ?_⟩
  obtain ⟨gen, hsettings, hcontained, -⟩ := contained_of_document {} none [] {} _ _
    (Settings.load_default {}) ofDocument?_attributeDocument
  refine ⟨gen, hsettings, hcontained fun i hi => ?_⟩
  have hlt := Graph.lt_size_of_occurs _ hi.occurs
  have hnamed : ∀ i < 1, ∀ a ∈
      ((Graph.ofTrees [attributeTree (.str "id") (.int 5)]).1.get i).attributes,
      a.name.isText = true := by decide
  exact hnamed i hlt

/-- **A number is read as the name of an attribute**, and the run of that document is not
contained. -/
theorem escapes :
    ¬ ∀ (files : FileTree) (file : Option Path) (overrides : List (Text × Json)) (s : Settings)
      (document : Json) (trees : List Tree) (gen : Generator),
      Settings.load files file overrides = .ok s → Tree.ofDocument? document = .ok trees →
      ofSettings? s = some gen →
      gen.Contained (Graph.ofTrees trees).1 (Graph.ofTrees trees).2 := by
  intro h
  have hread : Tree.ofDocument? (attributeDocument (.int 5) .null) =
      .ok [attributeTree (.int 5) (.str "string")] := rfl
  obtain ⟨gen, hsettings, hgen⟩ := standard_of_load (Settings.load_default {})
  have hcontained := h {} none [] {} _ _ gen (Settings.load_default {}) hread hsettings
  rcases contained_or_escapes hgen fun i => Graph.named_of_occurs (i := i) hread with
    ⟨hattributes, -⟩ | ⟨i, -, a, -, -, hresult⟩
  · -- the only element is a root
    have hname := hattributes 0 (.root (by decide) (by decide)) _ (List.mem_singleton.2 rfl)
    cases hname
  · exact not_contained_of_result hresult hcontained

end Escaping

end Generator

end SchemaStructs
