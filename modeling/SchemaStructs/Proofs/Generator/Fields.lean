import Mathlib.Data.Finset.Card
import Mathlib.Data.Finset.Dedup
import SchemaStructs.Proofs.Generator.Clean
import SchemaStructs.Proofs.Generator.Printer
import SchemaStructs.Proofs.Naming.Capital

/-!
# Fields that are printed and fields that are checked

The template of a declaration and the validation go through the parts of an element separately: the
one prints a field for each attribute, for each child and for the character data, the other one
collects the raw names behind the fields.  Both come to the same names in the same order
(`Graph.fieldNames`).

* `Validation.countP_fieldWarnings`: there is one warning about equal names for each field whose
  name another field before it has, so that warnings and distinct names add up to the fields;
* `Generator.checkedStruct`: what is printed for an element that is checked, and what is warned of;
* `Generator.properStruct`: what the structs are like if nothing is warned of.

`Generator.fields_of_walk` puts them together for the declarations of a walk.
-/

namespace SchemaStructs

open Naming Source

/-- The raw names behind the fields of an element: those of its attributes, of its children and, if
it carries character data, its own. -/
def Graph.memberNames (g : Graph) (i : ElementId) : List Text :=
  (g.get i).attributes.map (·.name.display) ++ (g.children i).map g.name
    ++ if (g.get i).characterData.truthy then [g.name i] else []

/-- The names of the fields of an element. -/
def Graph.fieldNames (g : Graph) (i : ElementId) : List Text := (g.memberNames i).map normalizeTitle

/-- The warning says that two fields have one name. -/
def Warning.isSameField : Warning → Bool
  | .sameField .. => true
  | _ => false

variable {gen : Generator} {g : Graph} {roots : List ElementId} {i : ElementId}
variable {s : Settings} {style : TypeStyle} {struct : Text} {seen : List (Text × Text)}
variable {members declared : List Text} {ws : List Warning}

/-! ### What is printed -/

namespace Printer

open StructTemplates

/-- What a declaration starts with: a comment if there is to be one, and the line that opens the
struct. -/
def opening (s : Settings) (name : Text) : Text :=
  (if s.comments.truthy then
      Template.commented "//" (s.style.typeName name ++ " is generated from an XSD element") ++ "\n"
    else [])
    ++ "type " ++ s.style.typeName name ++ " struct \x7b\n"

/-- The fields of an element have the names that its members give. -/
theorem map_name_rowsOf (style : TypeStyle) (g : Graph) (i : ElementId) :
    (rowsOf style g (g.get i)).map Row.name = g.fieldNames i := by
  simp only [rowsOf, Graph.fieldNames, Graph.memberNames, List.map_append, List.map_map]
  congr 1
  cases (g.get i).characterData.truthy <;> rfl

/-- A declaration has a line for each field. -/
theorem declarationText_eq_rows (s : Settings) (g : Graph) (i : ElementId) :
    declarationText s (g.name i) (g.shape i) =
      opening s (g.name i) ++ Text.ended ((rowsOf s.style g (g.get i)).map Row.rawLine)
        ++ "\x7d" := by
  rw [ended_rowsOf]
  simp only [declarationText, opening, Graph.shape, List.flatMap_map, List.append_assoc]
  rfl

end Printer

/-! ### What is warned of -/

namespace Validation

/-- The members of an element of texts. -/
theorem members?_eq (hi : (g.get i).Textual) (hchildren : ∀ c ∈ g.children i, (g.get c).Textual) :
    members? g i = .ok (g.memberNames i) := by
  have hname : ∀ j : Json, j.isText = true → nameText? j = .ok j.display := fun j h => by
    rw [Json.eq_str_display h]
    rfl
  have hmembers : ∀ js : List Json, (∀ j ∈ js, j.isText = true) →
      js.mapM nameText? = .ok (js.map Json.display) := by
    intro js hjs
    have h : (js.map id).mapM nameText? = .ok (js.map Json.display) :=
      Template.mapM_map_eq_ok fun j hj => hname j (hjs j hj)
    rwa [List.map_id] at h
  have htext : ∀ j ∈ (g.get i).attributes.map (·.name)
      ++ ((g.get i).children.map g.get).map (·.name)
      ++ (if (g.get i).characterData.truthy then [(g.get i).name] else []), j.isText = true := by
    intro j hj
    simp only [List.mem_append, List.mem_map] at hj
    rcases hj with (⟨a, ha, rfl⟩ | ⟨e, ⟨c, hc, rfl⟩, rfl⟩) | hj
    · exact (hi.attributes a ha).1
    · exact (hchildren c hc).name
    · split at hj
      · exact List.mem_singleton.1 hj ▸ hi.name
      · cases hj
  rw [members?, hmembers _ htext]
  simp only [Graph.memberNames, Graph.children, List.map_append, List.map_map]
  cases (g.get i).characterData.truthy <;> rfl

/-- Warnings about equal names and distinct names add up to the fields, where the names before them
count as well. -/
theorem countP_fieldWarnings (struct : Text) (seen : List (Text × Text)) (members : List Text) :
    (fieldWarnings struct seen members).countP Warning.isSameField
        + ((seen.map (·.1)).toFinset ∪ (members.map normalizeTitle).toFinset).card =
      members.length + (seen.map (·.1)).toFinset.card := by
  induction members generalizing seen with
  | nil => simp [fieldWarnings]
  | cons member rest ih =>
    have hbad : (if Text.isIdentifier (normalizeTitle member) then []
        else [Warning.badFieldName (normalizeTitle member) member struct]).countP
          Warning.isSameField = 0 := by
      split <;> rfl
    simp only [fieldWarnings, List.countP_append, hbad, List.map_cons, List.toFinset_cons,
      List.length_cons]
    cases hfind : seen.find? (·.1 == normalizeTitle member) with
    | some p =>
      -- the name was there before, so there is one more warning and no new name
      have hmem : normalizeTitle member ∈ (seen.map (·.1)).toFinset := by
        have hname := List.find?_some hfind
        simp only [beq_iff_eq] at hname
        rw [List.mem_toFinset, ← hname]
        exact List.mem_map_of_mem (List.mem_of_find?_eq_some hfind)
      rw [Finset.union_insert, Finset.insert_eq_self.2 (Finset.mem_union_left _ hmem)]
      have := ih seen
      rw [List.countP_cons_of_pos rfl]
      omega
    | none =>
      have hmem : normalizeTitle member ∉ (seen.map (·.1)).toFinset := by
        simp only [List.mem_toFinset, List.mem_map, not_exists, not_and]
        intro p hp hname
        have := List.find?_eq_none.1 hfind p hp
        simp [hname] at this
      have := ih ((normalizeTitle member, member) :: seen)
      simp only [List.map_cons, List.toFinset_cons, Finset.card_insert_of_notMem hmem,
        Finset.insert_union, ← Finset.union_insert] at this ⊢
      omega

/-- There is one warning about equal names for each field whose name is not new. -/
theorem countP_fieldWarnings_nil (struct : Text) (members : List Text) :
    (fieldWarnings struct [] members).countP Warning.isSameField
      + (members.map normalizeTitle).dedup.length = members.length := by
  have h := countP_fieldWarnings struct [] members
  rwa [List.map_nil, List.toFinset_nil, Finset.empty_union, Finset.card_empty, Nat.add_zero,
    List.card_toFinset] at h

/-- The fields of a struct are identifiers if none is warned of. -/
theorem isIdentifier_of_fieldWarnings (h : fieldWarnings struct seen members = []) :
    ∀ n ∈ members.map normalizeTitle, Text.isIdentifier n = true := by
  induction members generalizing seen with
  | nil => simp
  | cons member rest ih =>
    obtain ⟨hbad, hrest⟩ := List.append_eq_nil_iff.1 h
    rw [List.map_cons, List.forall_mem_cons]
    constructor
    · by_contra hn
      rw [if_neg hn] at hbad
      cases hbad
    · split at hrest
      · cases hrest
      · exact ih hrest

/-- The fields of a struct have distinct names if none is warned of. -/
theorem nodup_of_fieldWarnings (h : fieldWarnings struct [] members = []) :
    (members.map normalizeTitle).Nodup := by
  have hcount := countP_fieldWarnings_nil struct members
  rw [h, List.countP_nil, Nat.zero_add] at hcount
  refine List.dedup_eq_self.1 ((List.dedup_sublist _).eq_of_length ?_)
  rw [hcount, List.length_map]

/-- A name that nothing is warned of is an identifier that is not reserved. -/
theorem of_typeNameWarnings {typeName element : Text} (h : typeNameWarnings typeName element = []) :
    Text.isIdentifier typeName = true ∧ isKeyword typeName = false ∧
      isPredeclared typeName = false := by
  unfold typeNameWarnings at h
  split_ifs at h <;> simp_all

theorem countP_typeNameWarnings (typeName element : Text) :
    (typeNameWarnings typeName element).countP Warning.isSameField = 0 := by
  unfold typeNameWarnings
  split_ifs <;> rfl

end Validation

namespace Generator

open Validation Printer

theorem Standard.typeName?_eq (hgen : gen.Standard) {j : Json} (hj : j.isText = true) :
    gen.typeName? j = .ok (gen.settings.style.typeName j.display) := by
  rw [typeName?, Json.eq_str_display hgen.lead_isText, Json.eq_str_display hj]
  rfl

/-- The type of a child is looked up if it and the name are texts, and only a dangling one is warned
of. -/
theorem Standard.danglingWarning?_eq_ok (hgen : gen.Standard) {child : Element}
    (h : child.Named) : ∃ ws, gen.danglingWarning? declared struct child = .ok ws ∧
      ws.countP Warning.isSameField = 0 := by
  rw [danglingWarning?, hgen.typeName?_eq h.fieldType, hgen.typeName?_eq h.name]
  split
  · exact ⟨[], rfl, rfl⟩
  · simp only [bind, Except.bind]
    split
    · exact ⟨[], rfl, rfl⟩
    · exact ⟨_, rfl, rfl⟩

/-- What an element of texts is warned of: its name, its fields, and types that dangle. -/
theorem Standard.elementWarnings?_eq_ok (hgen : gen.Standard) (hi : (g.get i).Textual)
    (hchildren : ∀ c ∈ g.children i, (g.get c).Textual) (declared : List Text) :
    ∃ others, gen.elementWarnings? g declared i = .ok
        (typeNameWarnings (gen.settings.style.typeName (g.name i)) (g.name i)
          ++ fieldWarnings (gen.settings.style.typeName (g.name i)) [] (g.memberNames i)
          ++ others) ∧
      others.countP Warning.isSameField = 0 := by
  obtain ⟨dangling, hdangling, hcount⟩ := exists_mapM_eq_ok
    (f := gen.danglingWarning? declared (gen.settings.style.typeName (g.name i)))
    (l := (g.get i).children.map g.get) (fun e he => by
      obtain ⟨c, hc, rfl⟩ := List.mem_map.1 he
      exact hgen.danglingWarning?_eq_ok (hchildren c hc).named)
  refine ⟨dangling.flatten, ?_, ?_⟩
  · simp only [elementWarnings?, hgen.typeName?_eq hi.name, members?_eq hi hchildren]
    rw [Graph.name] at hdangling
    simp only [bind, Except.bind, hdangling]
    rfl
  · simp only [List.countP_eq_zero] at hcount ⊢
    intro w hw
    obtain ⟨ws, hws, hw⟩ := List.mem_flatten.1 hw
    exact hcount ws hws w hw

/-- **What is printed and what is checked**: the struct of an element and its warnings. -/
structure CheckedStruct (gen : Generator) (g : Graph) (i : ElementId) : Prop where
  /-- The declaration has a line for each field. -/
  printed : gen.render g i = .ok (opening gen.settings (g.name i)
    ++ Text.ended ((rowsOf gen.settings.style g (g.get i)).map Row.rawLine) ++ "\x7d")
  /-- The fields have the names of the attributes, the children and the character data. -/
  names : (rowsOf gen.settings.style g (g.get i)).map Row.name = g.fieldNames i
  /-- Warnings about equal names and distinct names add up to the fields. -/
  counted : ∀ declared, ∃ ws, gen.elementWarnings? g declared i = .ok ws ∧
    ws.countP Warning.isSameField + (g.fieldNames i).dedup.length = (g.fieldNames i).length

/-- **What a struct is like if nothing is warned of.** -/
structure ProperStruct (g : Graph) (i : ElementId) (typeName : Text) : Prop where
  /-- The fields have distinct names. -/
  names_nodup : (g.fieldNames i).Nodup
  /-- The names of the fields are identifiers. -/
  isIdentifier_names : ∀ n ∈ g.fieldNames i, Text.isIdentifier n = true
  /-- The name of the struct is an identifier. -/
  isIdentifier : Text.isIdentifier typeName = true
  /-- It is no keyword. -/
  isKeyword : isKeyword typeName = false
  /-- It hides no predeclared identifier. -/
  isPredeclared : isPredeclared typeName = false
  /-- If the raw names are ASCII, the fields start with capitals. -/
  capital : (∀ m ∈ g.memberNames i, IsAscii m) →
    ∀ n ∈ g.fieldNames i, ∃ c rest, n = c :: rest ∧ c.isUpper = true

theorem checkedStruct (hgen : gen.Standard) (hi : (g.get i).Textual)
    (hchildren : ∀ c ∈ g.children i, (g.get c).Textual) : gen.CheckedStruct g i := by
  refine ⟨?_, map_name_rowsOf _ _ _, fun declared => ?_⟩
  · rw [hgen.render_eq hi fun c hc => (hchildren c hc).named, declarationText_eq_rows]
  · obtain ⟨others, hws, hcount⟩ := hgen.elementWarnings?_eq_ok hi hchildren declared
    refine ⟨_, hws, ?_⟩
    have := countP_fieldWarnings_nil (gen.settings.style.typeName (g.name i)) (g.memberNames i)
    simp only [List.countP_append, countP_typeNameWarnings, hcount, Graph.fieldNames,
      List.length_map]
    omega

/-- The struct of an element that nothing is warned of. -/
theorem properStruct (hgen : gen.Standard) (hi : (g.get i).Textual)
    (hchildren : ∀ c ∈ g.children i, (g.get c).Textual)
    (h : gen.elementWarnings? g declared i = .ok []) :
    ProperStruct g i (gen.settings.style.typeName (g.name i)) := by
  obtain ⟨others, hws, -⟩ := hgen.elementWarnings?_eq_ok hi hchildren declared
  rw [hws] at h
  obtain ⟨hboth, -⟩ := List.append_eq_nil_iff.1 (Except.ok.inj h)
  obtain ⟨hname, hfields⟩ := List.append_eq_nil_iff.1 hboth
  obtain ⟨hidentifier, hkeyword, hpredeclared⟩ := of_typeNameWarnings hname
  have hfieldNames := isIdentifier_of_fieldWarnings hfields
  refine ⟨nodup_of_fieldWarnings hfields, hfieldNames, hidentifier, hkeyword, hpredeclared, ?_⟩
  intro hascii n hn
  obtain ⟨m, hm, rfl⟩ := List.mem_map.1 hn
  exact exists_isUpper_of_isIdentifier (hascii m hm) (hfieldNames _ hn)

/-- **What a clean validation guarantees.**  Every declaration of a walk is that of an element which
the validation checks.  What is printed for a checked element has a line for each of its attributes,
its children and its character data, in this order, and it is warned of equal names as often as a
name is not new.  If nothing is warned of, the declared structs are proper Go. -/
theorem fields_of_walk (hgen : gen.Standard) (htext : ∀ i, g.Occurs roots i → (g.get i).Textual) :
    (∀ d ∈ Walk.declarations (gen.walk g roots).events,
        d.element ∈ checked g roots ∧ gen.render g d.element = .ok d.text) ∧
      (∀ i ∈ checked g roots, gen.CheckedStruct g i) ∧
      (gen.validate g roots = .ok [] → ∀ d ∈ Walk.declarations (gen.walk g roots).events,
        ProperStruct g d.element d.typeName) := by
  have hvalid := Walk.valid_walk gen g roots
  have hdeclare : ∀ d ∈ Walk.declarations (gen.walk g roots).events,
      gen.render g d.element = .ok d.text ∧
        gen.typeName? (g.rawName d.element) = .ok d.typeName := fun d hd =>
    Walk.declare_eq_ok (Walk.declaration?_eq_ok (hvalid.genuine d hd)).1
  have hchildren : ∀ {i}, g.Reachable roots i → ∀ c ∈ g.children i, (g.get c).Textual :=
    fun hi c hc => htext c (.inr ⟨_, hi, hc⟩)
  refine ⟨fun d hd => ⟨mem_checked_iff.2 (hvalid.reachable d hd), (hdeclare d hd).1⟩,
    fun i hi => ?_, fun hclean d hd => ?_⟩
  · have hi := mem_checked_iff.1 hi
    exact checkedStruct hgen (htext i hi.occurs) (hchildren hi)
  · have hi := hvalid.reachable d hd
    obtain ⟨declared, -, hwarnings⟩ := exists_declared_of_validate hclean
    have hproper := properStruct hgen (htext _ hi.occurs) (hchildren hi) (hwarnings _ hi)
    have hname := hgen.typeName?_eq (htext _ hi.occurs).name
    rw [← Graph.rawName, (hdeclare d hd).2] at hname
    exact Except.ok.inj hname ▸ hproper

theorem validate_calendar : agendaGenerator.validate calendar [2] = .ok [] :=
  eq_ok_of_toOption (by decide +kernel)

theorem fields_of_walk_calendar :
    agendaGenerator.Standard ∧ (∀ i, calendar.Occurs [2] i → (calendar.get i).Textual) ∧
    agendaGenerator.validate calendar [2] = .ok [] ∧
    (∀ i ∈ checked calendar [2], agendaGenerator.CheckedStruct calendar i) ∧
    ∀ d ∈ Walk.declarations (agendaGenerator.walk calendar [2]).events,
      ProperStruct calendar d.element d.typeName := by
  have htext : ∀ i, calendar.Occurs [2] i → (calendar.get i).Textual :=
    fun _ h => (plain_calendar h).textual
  obtain ⟨-, hchecked, hproper⟩ := fields_of_walk standard_agendaGenerator htext
  exact ⟨standard_agendaGenerator, htext, validate_calendar, hchecked, hproper validate_calendar⟩

end Generator

end SchemaStructs
