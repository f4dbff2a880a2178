import SchemaStructs.Proofs.Generator.Fields
import SchemaStructs.Proofs.Walk.Containment
import SchemaStructs.Proofs.Walk.TypeNames

/-!
# Types of scalar fields

The field for an attribute and the field for the character data of an element have types of their
own, which come from the raw types by two different rules: the first is named as the structs are,
with the prefix of the run, and the second is only normalized.  A type is *usable* if Go provides it
or the run declares it (`Generator.Usable`).

The validation looks up the types of children only.  The types of attributes, and those of elements
with character data, do not matter to it at all (`Generator.validate_congr`), so a clean run can
print types that are not usable, and a struct that contains itself
(`Generator.unusable_types`).

* `Generator.scalar_types`: the type of an attribute is usable if Go provides it or its raw name is
  declared, and hardly otherwise; that of character data is usable if Go provides it, and an element
  without a type of its own has a field of the type of its own struct, unless the run has a prefix.
-/

namespace SchemaStructs

open Naming Source

/-- Two elements differ at most in the types of attributes and, if they carry character data, in
their own types. -/
structure Element.SameButScalars (e f : Element) : Prop where
  /-- The names are the same. -/
  name : e.name = f.name
  /-- The attributes have the same names. -/
  attributes : e.attributes.map (·.name) = f.attributes.map (·.name)
  /-- The children are the same. -/
  children : e.children = f.children
  /-- Both carry character data, or neither does. -/
  characterData : e.characterData.truthy = f.characterData.truthy
  /-- Without character data, the types are the same. -/
  type : e.characterData.truthy = false → e.type = f.type

namespace Element.SameButScalars

variable {e f : Element}

theorem isPrimitive_eq (h : e.SameButScalars f) : e.isPrimitive = f.isPrimitive := by
  rw [isPrimitive, isPrimitive, ← h.characterData]
  cases hc : e.characterData.truthy with
  | true => rfl
  | false => rw [h.type hc]

theorem isFit_eq (h : e.SameButScalars f) : e.isFit = f.isFit := by
  rw [isFit, isFit, ← h.characterData]
  cases hc : e.characterData.truthy with
  | true => rfl
  | false => rw [h.type hc]

theorem fieldType_eq (h : e.SameButScalars f) : e.fieldType = f.fieldType := by
  rw [fieldType, fieldType, ← h.characterData, ← h.name]
  cases hc : e.characterData.truthy with
  | true => rfl
  | false => rw [h.type hc]

end Element.SameButScalars

namespace Generator

open Validation Printer

variable {gen : Generator} {g h : Graph} {roots : List ElementId} {i : ElementId}
variable {declared : List Text} {struct : Text} {events : List Walk.Event} {d : Declaration}
variable {t : Text}

/-! ### What the validation does not look at -/

/-- Graphs with the same children are visited in the same order. -/
theorem preorderFrom_congr {keep : ElementId → Bool} (hchildren : ∀ i, g.children i = h.children i)
    (seen stack : List ElementId) :
    g.preorderFrom keep seen stack = h.preorderFrom keep seen stack := by
  fun_induction g.preorderFrom keep seen stack with
  | case1 => rw [Graph.preorderFrom]
  | case2 seen i rest hi ih => rw [Graph.preorderFrom, dif_pos hi, ih]
  | case3 seen i rest hi hkeep ih =>
    rw [Graph.preorderFrom, dif_neg hi, if_pos hkeep, ← hchildren, ih]
  | case4 seen i rest hi hkeep ih =>
    rw [Graph.preorderFrom, dif_neg hi, if_neg hkeep, ih]

theorem danglingWarning?_congr {e f : Element} (h : e.SameButScalars f) :
    gen.danglingWarning? declared struct e = gen.danglingWarning? declared struct f := by
  rw [danglingWarning?, danglingWarning?, h.isPrimitive_eq, h.fieldType_eq, h.name]

section Congr

variable (hsame : ∀ i, (g.get i).SameButScalars (h.get i))

include hsame

theorem checked_congr : checked g roots = checked h roots := by
  have hkeep : (fun i => !g.isPrimitive i) = fun i => !h.isPrimitive i :=
    funext fun i => congrArg _ (hsame i).isPrimitive_eq
  rw [checked, checked, hkeep]
  exact preorderFrom_congr (fun i => (hsame i).children) [] roots

theorem members?_congr (i : ElementId) : members? g i = members? h i := by
  have hchildren : ((g.get i).children.map g.get).map (·.name) =
      ((h.get i).children.map h.get).map (·.name) := by
    rw [(hsame i).children, List.map_map, List.map_map]
    exact List.map_congr_left fun c _ => (hsame c).name
  rw [members?, members?, hchildren, (hsame i).attributes, (hsame i).name,
    (hsame i).characterData]

theorem elementWarnings?_congr (declared : List Text) (i : ElementId) :
    gen.elementWarnings? g declared i = gen.elementWarnings? h declared i := by
  have hchildren : ∀ struct, ((g.get i).children.map g.get).mapM
        (gen.danglingWarning? declared struct) =
      ((h.get i).children.map h.get).mapM (gen.danglingWarning? declared struct) := by
    intro struct
    have hlook : gen.danglingWarning? declared struct ∘ g.get =
        gen.danglingWarning? declared struct ∘ h.get :=
      funext fun c => danglingWarning?_congr (hsame c)
    rw [(hsame i).children, List.mapM_map, List.mapM_map, hlook]
  simp only [elementWarnings?, hchildren, members?_congr hsame, (hsame i).name, Graph.name]

/-- The first element whose type cannot be looked up is the same. -/
theorem find?_isFit_congr (is : List ElementId) :
    ((is.map g.get).find? (!·.isFit)).map (·.type) =
      ((is.map h.get).find? (!·.isFit)).map (·.type) := by
  induction is with
  | nil => rfl
  | cons i is ih =>
    rw [List.map_cons, List.map_cons, List.find?_cons, List.find?_cons, ← (hsame i).isFit_eq]
    cases hfit : (g.get i).isFit with
    | true => exact ih
    | false =>
      have hplain : (g.get i).characterData.truthy = false := (Bool.or_eq_false_iff.1 hfit).1
      exact congrArg some ((hsame i).type hplain)

/-- **The types of scalar fields do not matter to the validation.** -/
theorem validate_congr : gen.validate g roots = gen.validate h roots := by
  have hfit := find?_isFit_congr hsame (checked h roots)
  have hnames : (fun i => gen.typeName? (g.get i).name) = fun i => gen.typeName? (h.get i).name :=
    funext fun i => by rw [(hsame i).name]
  have hwarnings : gen.elementWarnings? g = gen.elementWarnings? h :=
    funext fun declared => funext fun i => elementWarnings?_congr hsame declared i
  rw [validate, validate, checked_congr hsame, hnames, hwarnings]
  cases hg : ((checked h roots).map g.get).find? (!·.isFit) with
  | none =>
    rw [hg] at hfit
    rw [Option.map_eq_none_iff.1 hfit.symm]
  | some e =>
    rw [hg] at hfit
    obtain ⟨f, hf, htype⟩ := Option.map_eq_some_iff.1 hfit.symm
    simp only [hf, htype]

end Congr

/-! ### Types that can be used -/

/-- The type can be used in the code of a run: Go provides it, or the run declares it. -/
def Usable (events : List Walk.Event) (t : Text) : Prop :=
  isPrimitive t = true ∨ t ∈ Walk.declaredTypes events

/-- The run does not change the names of types, apart from normalizing them. -/
def Unled (gen : Generator) : Prop := gen.settings.style = { lead := [], exported := false }

/-- What is known of the scalar fields of a declaration in a clean run. -/
structure ScalarFields (gen : Generator) (g : Graph) (events : List Walk.Event) (d : Declaration) :
    Prop where
  /-- The declaration has a line for each attribute and one for character data. -/
  printed : d.text = opening gen.settings d.name
    ++ Text.ended ((rowsOf gen.settings.style g (g.get d.element)).map Row.rawLine) ++ "\x7d"
  /-- The type of an attribute is usable if Go provides it, or a struct is declared under it. -/
  usable_attribute : ∀ a ∈ (g.get d.element).attributes,
    isPrimitive a.type.display = true ∨ a.type.display ∈ Walk.visited events →
      Usable events (attributeRow gen.settings.style a).type
  /-- One that Go does not provide is usable only if the name that is printed for it is provided or
  a struct is declared under a name of the same skeleton. -/
  of_usable_attribute : ∀ a ∈ (g.get d.element).attributes, isPrimitive a.type.display = false →
    Usable events (attributeRow gen.settings.style a).type →
      isPrimitive (attributeRow gen.settings.style a).type = true ∨
        ∃ n ∈ Walk.visited events, skeleton a.type.display = skeleton n
  /-- The type of character data is usable, and not that of the struct, if Go provides it. -/
  usable_provided : isPrimitive (g.get d.element).type.display = true →
    Usable events (characterRow (g.get d.element)).type ∧
      (characterRow (g.get d.element)).type ≠ d.typeName
  /-- It is usable, too, if a struct is declared under it and the run has no prefix. -/
  usable_declared : gen.Unled → (g.get d.element).type.display ∈ Walk.visited events →
    Usable events (characterRow (g.get d.element)).type
  /-- The field for the character data of an element without a type of its own has the type of the
  struct itself if the run does not change names, and another one if it has a prefix. -/
  own_type : (g.get d.element).type = (g.get d.element).name →
    (gen.Unled → (characterRow (g.get d.element)).type = d.typeName) ∧
    (skeleton gen.settings.style.lead ≠ [] →
      (characterRow (g.get d.element)).type ≠ d.typeName)

/-- A type that Go provides is printed as it is. -/
theorem normalize_of_isPrimitive (ht : isPrimitive t = true) : normalize t = t := by
  have hall : ∀ n ∈ primitives, normalize n = n := by decide +kernel
  exact hall t (List.contains_iff_mem.1 ht)

/-- Without a prefix a type is normalized as character data is. -/
theorem Unled.typeName_eq (hgen : gen.Unled) (t : Text) :
    gen.settings.style.typeName t = normalize t := by
  rw [hgen, TypeStyle.typeName]
  split
  · exact (normalize_of_isPrimitive ‹_›).symm
  · rfl

/-- In a clean run a declaration has the Go name of its raw name, which Go does not provide. -/
theorem Standard.declaration_of_clean (hgen : gen.Standard)
    (htext : ∀ i, g.Occurs roots i → (g.get i).Textual) (hclean : gen.Clean g roots)
    (hd : d ∈ Walk.declarations (gen.walk g roots).events) :
    d.name = g.name d.element ∧ d.typeName = gen.settings.style.typeName d.name ∧
      isPrimitive d.name = false ∧ isPrimitive d.typeName = false := by
  have hvalid := Walk.valid_walk gen g roots
  have hreach := hvalid.reachable d hd
  have hraw := hvalid.rawName_element hd
  have hname : d.name = g.name d.element := (Graph.name_eq_of_rawName hraw).symm
  have htype := (Walk.declare_eq_ok (Walk.declaration?_eq_ok (hvalid.genuine d hd)).1).2
  obtain ⟨t, ht, hwarnings⟩ := typeNameWarnings_of_validate hclean.validate_eq hreach
  have htypeName : d.typeName = t := Except.ok.inj (htype.symm.trans ht)
  have hstyle := hgen.typeName?_eq (htext _ hreach.occurs).name
  rw [← Graph.rawName, ht] at hstyle
  obtain ⟨style, hall⟩ := Walk.exists_style_of_clean hclean
  exact ⟨hname, by rw [htypeName, hname]; exact Except.ok.inj hstyle, (hall d hd).2,
    htypeName ▸ isPrimitive_of_typeNameWarnings hwarnings⟩

/-- **Types of scalar fields in a clean run.**  The validation is the same whatever they are, so it
is only due to the way in which they are named if they are usable. -/
theorem scalar_types (hgen : gen.Standard) (htext : ∀ i, g.Occurs roots i → (g.get i).Textual)
    (hclean : gen.Clean g roots) :
    (∀ h : Graph, (∀ i, (g.get i).SameButScalars (h.get i)) → gen.validate h roots = .ok []) ∧
      ∀ d ∈ Walk.declarations (gen.walk g roots).events,
        ScalarFields gen g (gen.walk g roots).events d := by
  refine ⟨fun h hsame => by rw [← validate_congr hsame, hclean.validate_eq], fun d hd => ?_⟩
  have hvalid := Walk.valid_walk gen g roots
  have hreach := hvalid.reachable d hd
  obtain ⟨hname, htype, hraw, hprovided⟩ := hgen.declaration_of_clean htext hclean hd
  have hdeclared : ∀ n ∈ Walk.visited (gen.walk g roots).events,
      gen.settings.style.typeName n ∈ Walk.declaredTypes (gen.walk g roots).events := by
    intro n hn
    obtain ⟨d', hd', rfl⟩ := Walk.mem_visited_iff.1 hn
    rw [← (hgen.declaration_of_clean htext hclean hd').2.1]
    exact List.mem_map_of_mem hd'
  exact {
    printed := by
      have hchildren : ∀ c ∈ g.children d.element, (g.get c).Textual :=
        fun c hc => htext c (.inr ⟨_, hreach, hc⟩)
      have hprinted := (checkedStruct hgen (htext _ hreach.occurs) hchildren).printed
      have hrender := (Walk.declare_eq_ok (Walk.declaration?_eq_ok (hvalid.genuine d hd)).1).1
      rw [hname]
      exact Except.ok.inj (hrender.symm.trans hprinted)
    usable_attribute := fun a _ h => by
      rcases h with h | h
      · exact .inl (by rwa [attributeRow, TypeStyle.typeName_of_isPrimitive _ h])
      · exact .inr (hdeclared _ h)
    of_usable_attribute := fun a _ hnot husable => by
      refine husable.imp_right fun hmem => ?_
      obtain ⟨d', hd', heq⟩ := List.mem_map.1 hmem
      obtain ⟨-, htype', hraw', -⟩ := hgen.declaration_of_clean htext hclean hd'
      exact ⟨d'.name, List.mem_map_of_mem hd',
        skeleton_eq_of_typeName_eq hnot hraw' (heq.symm.trans htype')⟩
    usable_provided := fun h => by
      rw [characterRow, normalize_of_isPrimitive h]
      refine ⟨.inl h, fun heq => ?_⟩
      rw [← heq, h] at hprovided
      cases hprovided
    usable_declared := fun hunled h => by
      rw [characterRow, ← hunled.typeName_eq]
      exact .inr (hdeclared _ h)
    own_type := fun heq => by
      have hrow : (characterRow (g.get d.element)).type = normalize d.name := by
        rw [characterRow, heq, hname, Graph.name]
      rw [hrow, htype]
      refine ⟨fun hunled => (hunled.typeName_eq _).symm, fun hlead hown => hlead ?_⟩
      have hskeleton := congrArg skeleton hown
      rw [skeleton_normalize, skeleton_typeName _ hraw] at hskeleton
      exact List.append_left_eq_self.1 hskeleton.symm }

/-- An order with an identifier and a kind, which is that of a label inside, and a remark. -/
def parcelTrees : List Tree :=
  [.node (.str "order") (.str "order") [⟨.str "id", .str "int"⟩, ⟨.str "kind", .str "label"⟩]
    [.node (.str "label") (.str "label") [] [] (.bool false) (.bool false),
      .node (.str "remark") (.str "string") [] [] (.bool false) (.bool true)]
    (.bool false) (.bool false)]

/-- The graph of the order: label and remark come first. -/
abbrev parcel : Graph := (Graph.ofTrees parcelTrees).1

theorem clean_parcel : (Walk.plainGenerator .first).Clean parcel [2] :=
  clean_of_outcome? (Walk.standard_plainGenerator .first) rfl 20 (by decide +kernel)
    (by decide +kernel)

theorem textual_parcel (h : parcel.Occurs [2] i) : (parcel.get i).Textual :=
  Walk.textual_of_elements parcelTrees (by decide) h

/-- The kind of the order has the type of the label, and the remark that of texts. -/
theorem scalar_types_parcel :
    (Walk.plainGenerator .first).Standard ∧
    (∀ i, parcel.Occurs [2] i → (parcel.get i).Textual) ∧
    (Walk.plainGenerator .first).Clean parcel [2] ∧
    ∀ d ∈ Walk.declarations ((Walk.plainGenerator .first).walk parcel [2]).events,
      ScalarFields (Walk.plainGenerator .first) parcel
        ((Walk.plainGenerator .first).walk parcel [2]).events d :=
  ⟨Walk.standard_plainGenerator .first, fun _ => textual_parcel, clean_parcel,
    (scalar_types (Walk.standard_plainGenerator .first) (fun _ => textual_parcel)
      clean_parcel).2⟩

/-! ### Types that cannot be used -/

open Json (entry)

instance (events : List Walk.Event) (t : Text) : Decidable (Usable events t) :=
  inferInstanceAs (Decidable (_ ∨ _))

/-- The types of all scalar fields of a declaration are usable, and that of its character data is
not the type of the struct itself. -/
def ScalarsUsable (gen : Generator) (g : Graph) (events : List Walk.Event) (d : Declaration) :
    Prop :=
  (∀ a ∈ (g.get d.element).attributes, Usable events (attributeRow gen.settings.style a).type) ∧
    ((g.get d.element).characterData.truthy = true →
      Usable events (characterRow (g.get d.element)).type ∧
        (characterRow (g.get d.element)).type ≠ d.typeName)

instance (gen : Generator) (g : Graph) (events : List Walk.Event) (d : Declaration) :
    Decidable (ScalarsUsable gen g events d) :=
  inferInstanceAs (Decidable (_ ∧ (_ → _ ∧ _)))

/-- The document is accepted, its names and types are texts, and its clean run declares a struct
whose scalar fields are not all usable. -/
def Misprints (document : Json) : Prop :=
  ∃ trees, Tree.ofDocument? document = .ok trees ∧
    (∀ i, (Graph.ofTrees trees).1.Occurs (Graph.ofTrees trees).2 i →
      ((Graph.ofTrees trees).1.get i).Textual) ∧
    (Walk.plainGenerator .first).Clean (Graph.ofTrees trees).1 (Graph.ofTrees trees).2 ∧
    ∃ d ∈ Walk.declarations ((Walk.plainGenerator .first).walk (Graph.ofTrees trees).1
        (Graph.ofTrees trees).2).events,
      ¬ ScalarsUsable (Walk.plainGenerator .first) (Graph.ofTrees trees).1
        ((Walk.plainGenerator .first).walk (Graph.ofTrees trees).1 (Graph.ofTrees trees).2).events
        d

theorem misprints_of_shownBy {document : Json}
    (h : (Tree.ofDocument? document).toOption.any
      (Walk.shownBy (Walk.plainGenerator .first) fun g o => (Walk.declarations o.events).any
        fun d => !decide (ScalarsUsable (Walk.plainGenerator .first) g o.events d)) = true) :
    Misprints document := by
  obtain ⟨trees, hd, htextual, hclean, hany⟩ :=
    Walk.of_shownBy (Walk.standard_plainGenerator .first) rfl h
  obtain ⟨d, hmem, hnot⟩ := List.any_eq_true.1 hany
  rw [Bool.not_eq_true', decide_eq_false_iff_not] at hnot
  exact ⟨trees, hd, htextual, hclean, d, hmem, hnot⟩

/-- An element with an attribute of a type that nothing declares. -/
def moneyDocument : Json :=
  .obj [entry "name" (.str "order"), entry "attribs" (.arr
    [.obj [entry "name" (.str "id"), entry "type" (.str "money")]])]

/-- An element with character data and no type of its own. -/
def noteDocument : Json := .obj [entry "name" (.str "note"), entry "cdata" (.bool true)]

/-- **Clean runs can print types that cannot be used**, for attributes and for character data. -/
theorem unusable_types : Misprints moneyDocument ∧ Misprints noteDocument :=
  ⟨misprints_of_shownBy (by decide +kernel), misprints_of_shownBy (by decide +kernel)⟩

end Generator

end SchemaStructs
