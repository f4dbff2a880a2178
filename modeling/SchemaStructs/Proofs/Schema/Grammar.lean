import SchemaStructs.Proofs.Loading.Refusal
import SchemaStructs.Proofs.Schema.Canonical

/-!
# The grammar of schema documents

Which values are read as elements and documents, and what they are read as, without a reader.  A
member that counts as false is taken for one that is not there (`Json.given`).

* `Json.IsElement`: an object with a name, and perhaps a type, a list of attributes with names and a
  list of elements;
* `Json.Roots`: the elements at the top of a document, which is one object, a list, or an object
  with a list of roots;
* `Graph.Mirrors`: an element of a graph has the parts that an object tells, and its children mirror
  the items of the list of children, one by one;
* `Graph.Planted`: a graph has grown by elements of its own, each of which stands at one place.

`Tree.grammar` says that the reader accepts this grammar, no more and no less, and that the graph
mirrors what was read.  Values go as deep as they like, so the proofs are by induction on the items
of the lists of children (`Json.children_induction`).
-/

namespace SchemaStructs

namespace Json

/-- A member of an object, if it is there and counts as true. -/
def given (members : List (Text × Json)) (key : Text) : Option Json :=
  (lookup members key).filter truthy

/-- A member is absent or counts as false. -/
def Untold (members : List (Text × Json)) (key : Text) : Prop :=
  ∀ j, lookup members key = some j → j.truthy = false

/-- The items of a list that may be left out. -/
def itemsOf : Option Json → List Json
  | some (.arr items) => items
  | _ => []

/-- A list that may be left out, and what holds of its items. -/
inductive Listed (P : Json → Prop) : Option Json → Prop where
  /-- There is no list. -/
  | absent : Listed P none
  /-- There is a list. -/
  | items {items : List Json} (h : ∀ item ∈ items, P item) : Listed P (some (.arr items))

/-- The value is an object with a name that counts as true. -/
def IsAttribute (j : Json) : Prop :=
  ∃ members, j = .obj members ∧ (given members "name").isSome = true

/-- The parts of an element but for its children. -/
structure IsHead (members : List (Text × Json)) : Prop where
  /-- The name is a text that is not empty. -/
  name : ∃ name, given members "name" = some (.str name)
  /-- The type, if there is one, is a text that is not empty. -/
  type : given members "type" = none ∨ ∃ type, given members "type" = some (.str type)
  /-- The attributes, if there are any, are a list of objects with names. -/
  attributes : Listed IsAttribute (given members "attribs")

/-- The value is an element, and so is all that is below it. -/
inductive IsElement : Json → Prop where
  /-- An object with the parts of an element, whose children, if there are any, are a list of
  elements. -/
  | object {members : List (Text × Json)} (hhead : IsHead members)
      (hchildren : Listed IsElement (given members "children")) : IsElement (.obj members)

/-- The values at the top of a document. -/
inductive Roots : Json → List Json → Prop where
  /-- An object without roots stands for itself. -/
  | object {members : List (Text × Json)} (h : lookup members "roots" = none) :
      Roots (.obj members) [.obj members]
  /-- A list has its items. -/
  | list (items : List Json) : Roots (.arr items) items
  /-- An object has a list of roots. -/
  | roots {members : List (Text × Json)} {items : List Json}
      (h : lookup members "roots" = some (.arr items)) : Roots (.obj members) items

end Json

open Json (given itemsOf Listed)

/-- The attribute has the name and type that the object tells. -/
def Attribute.Mirrors (j : Json) (a : Attribute) : Prop :=
  ∃ members, j = .obj members ∧ given members "name" = some a.name ∧
    a.type = (given members "type").getD (.str "string")

/-- The element has the parts that the object tells, whatever its children are. -/
structure Element.Mirrors (members : List (Text × Json)) (e : Element) : Prop where
  /-- It has the name. -/
  name : given members "name" = some e.name
  /-- It has the type, which is the name if none is told. -/
  type : e.type = (given members "type").getD e.name
  /-- It has the attributes, in order. -/
  attributes : List.Forall₂ Attribute.Mirrors (itemsOf (given members "attribs")) e.attributes
  /-- It may occur several times if the flag counts as true. -/
  repeated : e.repeated = .bool (given members "list").isSome
  /-- It carries character data if the flag counts as true. -/
  characterData : e.characterData = .bool (given members "cdata").isSome

namespace Graph

/-- The element of the graph mirrors the object, and so do its children, in order. -/
inductive Mirrors (g : Graph) : Json → ElementId → Prop where
  /-- The element has the parts that the object tells, and its children mirror the items. -/
  | object {members : List (Text × Json)} {i : ElementId} (hi : i < g.size)
      (hparts : (g.get i).Mirrors members)
      (hchildren : List.Forall₂ (Mirrors g) (itemsOf (given members "children")) (g.children i)) :
      Mirrors g (.obj members) i

/-- The graph has grown by elements which stand at one place each: among the given roots, or among
the children of one of these elements. -/
structure Planted (before g : Graph) (roots : List ElementId) : Prop where
  /-- The elements that were there stay what they are. -/
  extends_before : Extends before g
  /-- The places of the others. -/
  places : (roots ++ (List.range' before.size (g.size - before.size)).flatMap g.children).Perm
    (List.range' before.size (g.size - before.size))

end Graph

/-! ### Members -/

namespace Json

variable {members : List (Text × Json)} {key t : Text} {items : List Json} {j : Json}
variable {P : Json → Prop} {member : Option Json}

theorem given_eq_some_iff : given members key = some j ↔
    lookup members key = some j ∧ j.truthy = true := Option.filter_eq_some_iff

theorem given_eq_none_iff : given members key = none ↔ Untold members key := by
  rw [given, Option.filter_eq_none_iff]
  simp [Untold]

/-- A text that is given is not empty. -/
theorem given_eq_str_iff :
    given members key = some (.str t) ↔ lookup members key = some (.str t) ∧ t ≠ [] := by
  rw [given_eq_some_iff]
  simp [truthy]

/-- A list that is given is not empty. -/
theorem given_eq_arr_iff : given members key = some (.arr items) ↔
    lookup members key = some (.arr items) ∧ items ≠ [] := by
  rw [given_eq_some_iff]
  simp [truthy]

/-- A member is given if it is there and true, where one that is absent counts as null. -/
theorem given_eq_some_iff_getD : given members key = some j ↔
    (lookup members key).getD .null = j ∧ j.truthy = true := by
  rw [given_eq_some_iff]
  cases lookup members key with
  | none =>
    simp only [Option.getD_none, reduceCtorEq, false_and, false_iff, not_and]
    rintro rfl
    exact Bool.false_ne_true
  | some value => simp

theorem getD_given (members : List (Text × Json)) (key : Text) (default : Json) :
    (given members key).getD default =
      if ((lookup members key).getD .null).truthy then (lookup members key).getD .null
      else default := by
  split
  · rename_i htruthy
    rw [given_eq_some_iff_getD.2 ⟨rfl, htruthy⟩, Option.getD_some]
  · rename_i htruthy
    cases hgiven : given members key with
    | none => rfl
    | some j =>
      obtain ⟨hj, hj'⟩ := given_eq_some_iff_getD.1 hgiven
      rw [hj] at htruthy
      exact absurd hj' htruthy

theorem truthy_of_given_eq_none (h : given members key = none) :
    ((lookup members key).getD .null).truthy = false := by
  by_contra htruthy
  rw [given_eq_some_iff_getD.2 ⟨rfl, Bool.not_eq_false _ ▸ htruthy⟩] at h
  cases h

theorem listed_iff :
    Listed P member ↔ Listed (fun _ => True) member ∧ ∀ item ∈ itemsOf member, P item := by
  constructor
  · intro h
    cases h with
    | absent => exact ⟨.absent, by simp [itemsOf]⟩
    | items h => exact ⟨.items fun _ _ => trivial, h⟩
  · rintro ⟨hlist, h⟩
    cases hlist with
    | absent => exact .absent
    | items => exact .items h

theorem isElement_obj_iff :
    IsElement (.obj members) ↔ IsHead members ∧ Listed IsElement (given members "children") := by
  constructor
  · intro h
    cases h with
    | object hhead hchildren => exact ⟨hhead, hchildren⟩
  · rintro ⟨hhead, hchildren⟩
    exact .object hhead hchildren

theorem roots_arr_iff {roots : List Json} : (Json.arr items).Roots roots ↔ roots = items := by
  constructor
  · intro h
    cases h
    rfl
  · rintro rfl
    exact .list _

/-- The roots of an object are told by what stands under that name. -/
theorem roots_obj_iff : (Json.obj members).Roots items ↔
    lookup members "roots" = none ∧ items = [.obj members] ∨
      lookup members "roots" = some (.arr items) := by
  constructor
  · intro h
    cases h with
    | object h => exact .inl ⟨h, rfl⟩
    | roots h => exact .inr h
  · rintro (⟨h, rfl⟩ | h)
    · exact .object h
    · exact .roots h

theorem listed_given_iff : Listed P (given members key) ↔ Untold members key ∨
    ∃ items, lookup members key = some (.arr items) ∧ items ≠ [] ∧ ∀ item ∈ items, P item := by
  constructor
  · intro h
    cases hgiven : given members key with
    | none => exact .inl (given_eq_none_iff.1 hgiven)
    | some j =>
      rw [hgiven] at h
      cases h with
      | items h =>
        obtain ⟨hlookup, hne⟩ := given_eq_arr_iff.1 hgiven
        exact .inr ⟨_, hlookup, hne, h⟩
  · rintro (huntold | ⟨items, hlookup, hne, h⟩)
    · rw [given_eq_none_iff.2 huntold]
      exact .absent
    · rw [given_eq_arr_iff.2 ⟨hlookup, hne⟩]
      exact .items h

/-- **The grammar of elements, member by member.** -/
theorem isElement_iff : IsElement j ↔ ∃ members, j = .obj members ∧
    (∃ name, lookup members "name" = some (.str name) ∧ name ≠ []) ∧
    (Untold members "type" ∨ ∃ type, lookup members "type" = some (.str type) ∧ type ≠ []) ∧
    (Untold members "attribs" ∨ ∃ items, lookup members "attribs" = some (.arr items) ∧
      items ≠ [] ∧ ∀ item ∈ items, IsAttribute item) ∧
    (Untold members "children" ∨ ∃ items, lookup members "children" = some (.arr items) ∧
      items ≠ [] ∧ ∀ item ∈ items, IsElement item) := by
  simp only [← listed_given_iff]
  simp only [← given_eq_str_iff, ← given_eq_none_iff]
  constructor
  · intro h
    cases h with
    | object hhead hchildren =>
      exact ⟨_, rfl, hhead.name, hhead.type, hhead.attributes, hchildren⟩
  · rintro ⟨members, rfl, hname, htype, hattributes, hchildren⟩
    exact .object ⟨hname, htype, hattributes⟩ hchildren

/-! ### Items -/

theorem sizeOf_lt_of_lookup (h : lookup members key = some j) :
    sizeOf j < sizeOf (Json.obj members) := by
  induction members with
  | nil => cases h
  | cons m members ih =>
    rw [lookup] at h
    simp only [obj.sizeOf_spec, List.cons.sizeOf_spec] at ih ⊢
    split at h
    · obtain rfl := Option.some.inj h
      obtain ⟨k, v⟩ := m
      simp only [Prod.mk.sizeOf_spec]
      omega
    · have := ih h
      omega

theorem sizeOf_lt_of_mem_itemsOf (h : j ∈ itemsOf (given members key)) :
    sizeOf j < sizeOf (Json.obj members) := by
  cases hgiven : given members key with
  | none =>
    rw [hgiven] at h
    cases h
  | some value =>
    rw [hgiven] at h
    have hvalue := sizeOf_lt_of_lookup (given_eq_some_iff.1 hgiven).1
    cases value with
    | arr items =>
      have hitem : sizeOf j < sizeOf items := List.sizeOf_lt_of_mem h
      rw [arr.sizeOf_spec] at hvalue
      omega
    | _ => cases h

/-- **Induction on the items of the list of children.** -/
theorem children_induction {motive : Json → Prop}
    (step : ∀ j, (∀ members, j = .obj members →
      ∀ item ∈ itemsOf (given members "children"), motive item) → motive j) (j : Json) :
    motive j :=
  step j fun members hj item hitem =>
    have : sizeOf item < sizeOf j := hj ▸ sizeOf_lt_of_mem_itemsOf hitem
    children_induction step item
termination_by sizeOf j
decreasing_by exact this

end Json

/-! ### Reading a part -/

namespace Tree

variable {members : List (Text × Json)} {owner name type : Text} {j : Json} {a : Attribute}
variable {attributes : List Attribute} {trees : List Tree} {items : List Json}

theorem flagOfJson_eq (members : List (Text × Json)) (key : Text) :
    flagOfJson members key = (given members key).isSome := by
  rw [flagOfJson, given]
  cases Json.lookup members key with
  | none => rfl
  | some j => cases h : j.truthy <;> simp [Option.filter, h]

theorem nameOfJson?_eq_ok_iff :
    nameOfJson? members = .ok name ↔ given members "name" = some (.str name) := by
  rw [Json.given_eq_str_iff, nameOfJson?]
  split
  · rename_i c rest hlookup
    rw [hlookup]
    constructor
    · intro h
      cases h
      exact ⟨rfl, List.cons_ne_nil c rest⟩
    · rintro ⟨h, -⟩
      cases h
      rfl
  · rename_i hlookup
    constructor
    · intro h
      cases h
    · rintro ⟨h, hne⟩
      obtain ⟨c, rest, rfl⟩ := List.exists_cons_of_ne_nil hne
      exact absurd h (hlookup c rest)

theorem typeOfJson?_eq_ok_iff : typeOfJson? name members = .ok type ↔
    (given members "type").getD (.str name) = .str type := by
  rw [typeOfJson?, given]
  cases hlookup : Json.lookup members "type" with
  | none => simp
  | some j =>
    cases htruthy : j.truthy with
    | false => simp [Option.filter, htruthy]
    | true => cases j <;> simp [Option.filter, htruthy]

theorem ofJson?_eq_ok_iff_mirrors : Attribute.ofJson? owner j = .ok a ↔ a.Mirrors j := by
  cases j with
  | obj members =>
    rw [Attribute.ofJson?, Json.get?, Json.get?, ← Json.getD_given]
    constructor
    · intro h
      split at h
      · cases h
        exact ⟨members, rfl, Json.given_eq_some_iff_getD.2 ⟨rfl, ‹_›⟩, rfl⟩
      · cases h
    · rintro ⟨members', hmembers, hname, htype⟩
      cases hmembers
      obtain ⟨hname, htruthy⟩ := Json.given_eq_some_iff_getD.1 hname
      rw [hname, if_pos htruthy]
      exact congrArg Except.ok (congrArg (Attribute.mk a.name) htype.symm)
  | _ =>
    constructor
    · intro h
      cases h
    · rintro ⟨members, h, -⟩
      cases h

theorem exists_ofJson?_eq_ok_iff : (∃ a, Attribute.ofJson? owner j = .ok a) ↔ j.IsAttribute := by
  simp only [ofJson?_eq_ok_iff_mirrors]
  constructor
  · rintro ⟨a, members, rfl, hname, -⟩
    exact ⟨members, rfl, by rw [hname]; rfl⟩
  · rintro ⟨members, rfl, hname⟩
    obtain ⟨name, hname⟩ := Option.isSome_iff_exists.1 hname
    exact ⟨⟨name, _⟩, members, rfl, hname, rfl⟩

/-- What is no object is no attribute. -/
theorem mapM_ofJson?_ne_ok (hne : items ≠ []) (h : ∀ item ∈ items, item.isText = true) :
    items.mapM (Attribute.ofJson? owner) ≠ .ok attributes := by
  intro hread
  obtain ⟨item, rest, rfl⟩ := List.exists_cons_of_ne_nil hne
  obtain ⟨a, ha⟩ := exists_mapM_eq_ok_iff.1 ⟨_, hread⟩ item List.mem_cons_self
  obtain ⟨members, rfl, -⟩ := ofJson?_eq_ok_iff_mirrors.1 ha
  cases h _ List.mem_cons_self

theorem listOfJson?_eq_ok_iff :
    Attribute.listOfJson? owner ((Json.lookup members "attribs").getD .null) = .ok attributes ↔
      Listed (fun _ => True) (given members "attribs") ∧
        (itemsOf (given members "attribs")).mapM (Attribute.ofJson? owner) = .ok attributes := by
  unfold Attribute.listOfJson?
  cases hgiven : given members "attribs" with
  | none =>
    rw [Json.truthy_of_given_eq_none hgiven]
    exact (and_iff_right .absent).symm
  | some j =>
    obtain ⟨hlookup, htruthy⟩ := Json.given_eq_some_iff_getD.1 hgiven
    rw [hlookup, htruthy, Bool.not_true, if_neg Bool.false_ne_true]
    cases j with
    | arr items => exact (and_iff_right (.items fun _ _ => trivial)).symm
    | str t =>
      have hne : t.map (fun c => Json.str [c]) ≠ [] := by simpa [Json.truthy] using htruthy
      constructor
      · intro h
        exact absurd h (mapM_ofJson?_ne_ok hne (List.forall_mem_map.2 fun _ _ => rfl))
      · rintro ⟨h, -⟩
        cases h
    | obj entries =>
      have hne : entries.map (fun m => Json.str m.1) ≠ [] := by simpa [Json.truthy] using htruthy
      constructor
      · intro h
        exact absurd h (mapM_ofJson?_ne_ok hne (List.forall_mem_map.2 fun _ _ => rfl))
      · rintro ⟨h, -⟩
        cases h
    | _ =>
      constructor
      · intro h
        cases h
      · rintro ⟨h, -⟩
        cases h

theorem itemsOfJson?_of_not_truthy (h : j.truthy = false) : itemsOfJson? j = .ok [] := by
  cases j with
  | str t =>
    rw [Json.truthy, Bool.not_eq_false'] at h
    rw [itemsOfJson?, if_pos h]
  | obj members =>
    rw [Json.truthy, Bool.not_eq_false'] at h
    rw [itemsOfJson?, if_pos h]
  | arr items =>
    rw [Json.truthy, Bool.not_eq_false', List.isEmpty_iff] at h
    rw [h]
    rfl
  | _ => rw [itemsOfJson?_of_not_hasItems rfl, h, if_neg Bool.false_ne_true]

/-- No value that counts as true has items but a list. -/
theorem exists_arr_of_itemsOfJson? (h : itemsOfJson? j = .ok trees) (htruthy : j.truthy = true) :
    ∃ items, j = .arr items := by
  cases j with
  | arr items => exact ⟨items, rfl⟩
  | str t =>
    rw [Json.truthy, Bool.not_eq_true'] at htruthy
    rw [itemsOfJson?, htruthy] at h
    cases h
  | obj members =>
    rw [Json.truthy, Bool.not_eq_true'] at htruthy
    rw [itemsOfJson?, htruthy] at h
    cases h
  | _ =>
    rw [itemsOfJson?_of_not_hasItems rfl, if_pos htruthy] at h
    cases h

theorem childrenOfJson?_eq_ok_iff : childrenOfJson? members = .ok trees ↔
    Listed (fun _ => True) (given members "children") ∧
      (itemsOf (given members "children")).mapM ofJson? = .ok trees := by
  have hread : childrenOfJson? members =
      itemsOfJson? ((Json.lookup members "children").getD .null) := by
    rw [childrenOfJson?_eq]
    cases Json.lookup members "children" <;> rfl
  rw [hread]
  cases hgiven : given members "children" with
  | none =>
    rw [itemsOfJson?_of_not_truthy (Json.truthy_of_given_eq_none hgiven)]
    exact (and_iff_right .absent).symm
  | some j =>
    obtain ⟨hlookup, htruthy⟩ := Json.given_eq_some_iff_getD.1 hgiven
    rw [hlookup]
    constructor
    · intro h
      obtain ⟨items, rfl⟩ := exists_arr_of_itemsOfJson? h htruthy
      rw [itemsOfJson?, listOfJson?_eq_mapM] at h
      exact ⟨.items fun _ _ => trivial, h⟩
    · rintro ⟨hlist, h⟩
      cases hlist with
      | items =>
        rw [itemsOfJson?, listOfJson?_eq_mapM]
        exact h

/-! ### Reading elements -/

/-- The own parts of an element are read exactly if they are as they should be. -/
theorem exists_parts_iff : (∃ name type attributes, nameOfJson? members = .ok name ∧
      typeOfJson? name members = .ok type ∧
      Attribute.listOfJson? name ((Json.lookup members "attribs").getD .null) = .ok attributes) ↔
    Json.IsHead members := by
  simp only [nameOfJson?_eq_ok_iff, typeOfJson?_eq_ok_iff, listOfJson?_eq_ok_iff]
  constructor
  · rintro ⟨name, type, attributes, hname, htype, hlist, hattributes⟩
    refine ⟨⟨name, hname⟩, ?_, Json.listed_iff.2 ⟨hlist, fun item hitem => ?_⟩⟩
    · cases hgiven : given members "type" with
      | none => exact .inl rfl
      | some j =>
        rw [hgiven, Option.getD_some] at htype
        exact .inr ⟨type, congrArg some htype⟩
    · exact exists_ofJson?_eq_ok_iff.1 (exists_mapM_eq_ok_iff.1 ⟨_, hattributes⟩ item hitem)
  · rintro ⟨⟨name, hname⟩, htype, hattributes⟩
    obtain ⟨hlist, hitems⟩ := Json.listed_iff.1 hattributes
    obtain ⟨attributes, hread⟩ := exists_mapM_eq_ok_iff.2 fun item hitem =>
      exists_ofJson?_eq_ok_iff.2 (hitems item hitem)
    rcases htype with htype | ⟨type, htype⟩
    · exact ⟨name, name, attributes, hname, by rw [htype]; rfl, hlist, hread⟩
    · exact ⟨name, type, attributes, hname, by rw [htype]; rfl, hlist, hread⟩

/-- **The reader accepts the elements of the grammar**, no more and no less. -/
theorem exists_ofJson?_iff_isElement (j : Json) : (∃ t, ofJson? j = .ok t) ↔ j.IsElement := by
  induction j using Json.children_induction with
  | step j ih =>
    cases j with
    | obj members =>
      have hitems : (∃ trees, (itemsOf (given members "children")).mapM ofJson? = .ok trees) ↔
          ∀ item ∈ itemsOf (given members "children"), item.IsElement := by
        rw [exists_mapM_eq_ok_iff]
        exact forall₂_congr fun item hitem => ih members rfl item hitem
      rw [Json.isElement_obj_iff, ← exists_parts_iff, Json.listed_iff, ← hitems]
      simp only [ofJson?_obj_eq_ok_iff, childrenOfJson?_eq_ok_iff]
      constructor
      · rintro ⟨t, name, type, attributes, trees, hname, htype, hattributes, ⟨hlist, htrees⟩, -⟩
        exact ⟨⟨name, type, attributes, hname, htype, hattributes⟩, hlist, trees, htrees⟩
      · rintro ⟨⟨name, type, attributes, hname, htype, hattributes⟩, hlist, trees, htrees⟩
        exact ⟨_, name, type, attributes, trees, hname, htype, hattributes, ⟨hlist, htrees⟩, rfl⟩
    | _ =>
      constructor
      · rintro ⟨t, h⟩
        cases h
      · intro h
        cases h

/-- An object without roots is read as the one element. -/
theorem ofDocument?_of_lookup_none (h : Json.lookup members "roots" = none) :
    ofDocument? (.obj members) = [Json.obj members].mapM ofJson? := by
  simp only [ofDocument?, Json.get?, h]
  rfl

/-- An object with roots is read as the list of them. -/
theorem ofDocument?_eq_ok_iff_of_lookup {value : Json}
    (hlookup : Json.lookup members "roots" = some value) : ofDocument? (.obj members) = .ok trees ↔
      ∃ items, value = .arr items ∧ items.mapM ofJson? = .ok trees := by
  simp only [ofDocument?, Json.get?, hlookup]
  constructor
  · intro h
    cases value with
    | arr items => exact ⟨items, rfl, listOfJson?_eq_mapM items ▸ h⟩
    | _ => cases h
  · rintro ⟨items, rfl, h⟩
    exact (listOfJson?_eq_mapM items).trans h

/-- A document is read item by item. -/
theorem ofDocument?_eq_ok_iff : ofDocument? j = .ok trees ↔
    ∃ items, j.Roots items ∧ items.mapM ofJson? = .ok trees := by
  cases j with
  | arr items =>
    have hread : ofDocument? (.arr items) = items.mapM ofJson? := listOfJson?_eq_mapM items
    simp [hread, Json.roots_arr_iff]
  | obj members =>
    simp only [Json.roots_obj_iff]
    cases hlookup : Json.lookup members "roots" with
    | none => simp [ofDocument?_of_lookup_none hlookup]
    | some value => simp [ofDocument?_eq_ok_iff_of_lookup hlookup]
  | _ =>
    constructor
    · intro h
      cases h
    · rintro ⟨items, hroots, -⟩
      cases hroots

end Tree

/-! ### What was read -/

namespace Graph

variable {g before : Graph} {members : List (Text × Json)} {items : List Json} {j : Json}
variable {t : Tree} {trees : List Tree} {i : ElementId} {is : List ElementId}

/-- Elements that are added for trees mirror the items that these were read from, if each does so
for its own. -/
theorem forall₂_mirrors (h : ∀ item ∈ items, ∀ t i, Tree.ofJson? item = .ok t → g.AddedFor t i →
      g.Mirrors item i)
    (htrees : List.Forall₂ (fun item t => Tree.ofJson? item = .ok t) items trees)
    (his : List.Forall₂ g.AddedFor trees is) : List.Forall₂ g.Mirrors items is := by
  induction htrees generalizing is with
  | nil =>
    cases his
    exact .nil
  | cons hread _ ih =>
    cases his with
    | cons hi hrest =>
      obtain ⟨hitem, hitems⟩ := List.forall_mem_cons.1 h
      exact .cons (hitem _ _ hread hi) (ih hitems hrest)

/-- **An element that was added for what was read mirrors it.** -/
theorem mirrors_of_ofJson? (h : Tree.ofJson? j = .ok t) (hi : g.AddedFor t i) :
    g.Mirrors j i := by
  induction j using Json.children_induction generalizing t i with
  | step j ih =>
    cases j with
    | obj members =>
      obtain ⟨name, type, attributes, trees, hname, htype, hattributes, htrees, rfl⟩ :=
        Tree.ofJson?_obj_eq_ok_iff.1 h
      obtain ⟨hlt, hbare, -⟩ := hi.depicts
      simp only [Element.bare, Element.mk.injEq] at hbare
      obtain ⟨hname', htype', hattributes', -, hrepeated', hdata'⟩ := hbare
      have hchildren := mapM_eq_ok_iff.1 (Tree.childrenOfJson?_eq_ok_iff.1 htrees).2
      refine .object hlt ⟨?_, ?_, ?_, ?_, ?_⟩ (forall₂_mirrors
        (fun item hitem t i ht hi => ih members rfl item hitem ht hi) hchildren hi.children)
      · rw [hname']
        exact Tree.nameOfJson?_eq_ok_iff.1 hname
      · rw [hname', htype']
        exact (Tree.typeOfJson?_eq_ok_iff.1 htype).symm
      · rw [hattributes']
        exact (mapM_eq_ok_iff.1 (Tree.listOfJson?_eq_ok_iff.1 hattributes).2).imp fun _ _ =>
          Tree.ofJson?_eq_ok_iff_mirrors.1
      · rw [hrepeated', Tree.flagOfJson_eq]
      · rw [hdata', Tree.flagOfJson_eq]
    | _ => cases h

/-! ### Places -/

mutual

/-- The elements that are added for a tree stand at one place each. -/
theorem places_addTree (before : Graph) (t : Tree) (hg : Extends (before.addTree t).1 g) :
    ((before.addTree t).2 :: (List.range' before.size t.size).flatMap g.children).Perm
      (List.range' before.size t.size) := by
  obtain ⟨name, type, attributes, children, repeated, characterData⟩ := t
  have hroot : (before.addTree (.node name type attributes children repeated characterData)).2 =
      before.size + Tree.sizes children := by
    rw [addTree]
    exact size_addTrees before children
  have hchildren := children_of_extends hg
  rw [hroot] at hchildren ⊢
  rw [addTree] at hg
  have hplaces := places_addTrees before children ((extends_add _ _).trans hg)
  rw [Tree.size, List.range'_1_concat, List.flatMap_append, List.flatMap_singleton, hchildren]
  -- the places of the children come from the root, all others from the elements below it
  exact ((List.perm_append_comm.trans hplaces).cons _).trans (List.perm_append_singleton _ _).symm

/-- The elements that are added for trees stand at one place each. -/
theorem places_addTrees (before : Graph) (trees : List Tree)
    (hg : Extends (before.addTrees trees).1 g) :
    ((before.addTrees trees).2 ++
      (List.range' before.size (Tree.sizes trees)).flatMap g.children).Perm
      (List.range' before.size (Tree.sizes trees)) := by
  match trees with
  | [] => exact .nil
  | t :: rest =>
    simp only [addTrees] at hg ⊢
    have hfirst := places_addTree before t ((depicts_addTrees _ rest).1.trans hg)
    have hrest := places_addTrees (before.addTree t).1 rest hg
    rw [size_addTree] at hrest
    rw [Tree.sizes, ← List.range'_append_1, List.flatMap_append]
    refine List.Perm.trans ?_ (hfirst.append hrest)
    rw [List.cons_append, List.cons_append, ← List.append_assoc, ← List.append_assoc]
    exact (List.perm_append_comm.append_right _).cons _

end

/-- **Elements that are added for trees are planted.** -/
theorem planted_addTrees (before : Graph) (trees : List Tree) :
    Planted before (before.addTrees trees).1 (before.addTrees trees).2 := by
  have hextends := (depicts_addTrees before trees).1
  refine ⟨hextends, ?_⟩
  rw [size_addTrees, Nat.add_sub_cancel_left]
  exact places_addTrees before trees ⟨Nat.le_refl _, fun _ _ => rfl⟩

theorem planted_addTree (before : Graph) (t : Tree) :
    Planted before (before.addTree t).1 [(before.addTree t).2] :=
  planted_addTrees before [t]

end Graph

/-- **The reader accepts the grammar, and what it reads mirrors the document.**  A value is read as
an element exactly if it is one: an object whose members are as they should be, those of the
children below it as well.  A document is read exactly if all values at its top are elements.
Whatever the graph was before, it grows by one element for each object, with the parts, the order
and the nesting that the document tells. -/
theorem Tree.grammar (j : Json) :
    ((∃ t, Tree.ofJson? j = .ok t) ↔ j.IsElement) ∧
    (j.IsElement ↔ ∃ members, j = .obj members ∧
      (∃ name, Json.lookup members "name" = some (.str name) ∧ name ≠ []) ∧
      (Json.Untold members "type" ∨
        ∃ type, Json.lookup members "type" = some (.str type) ∧ type ≠ []) ∧
      (Json.Untold members "attribs" ∨
        ∃ items, Json.lookup members "attribs" = some (.arr items) ∧ items ≠ [] ∧
          ∀ item ∈ items, item.IsAttribute) ∧
      (Json.Untold members "children" ∨
        ∃ items, Json.lookup members "children" = some (.arr items) ∧ items ≠ [] ∧
          ∀ item ∈ items, item.IsElement)) ∧
    ((∃ trees, Tree.ofDocument? j = .ok trees) ↔
      ∃ items, j.Roots items ∧ ∀ item ∈ items, item.IsElement) ∧
    (∀ t, Tree.ofJson? j = .ok t → ∀ before : Graph,
      (before.addTree t).1.Mirrors j (before.addTree t).2 ∧
        Graph.Planted before (before.addTree t).1 [(before.addTree t).2]) ∧
    ∀ trees, Tree.ofDocument? j = .ok trees → ∃ items, j.Roots items ∧
      List.Forall₂ (Graph.ofTrees trees).1.Mirrors items (Graph.ofTrees trees).2 ∧
        Graph.Planted {} (Graph.ofTrees trees).1 (Graph.ofTrees trees).2 := by
  refine ⟨Tree.exists_ofJson?_iff_isElement j, Json.isElement_iff, ?_, fun t ht before => ?_,
    fun trees htrees => ?_⟩
  · simp only [Tree.ofDocument?_eq_ok_iff, ← Tree.exists_ofJson?_iff_isElement,
      ← exists_mapM_eq_ok_iff]
    constructor
    · rintro ⟨trees, items, hroots, h⟩
      exact ⟨items, hroots, trees, h⟩
    · rintro ⟨items, hroots, trees, h⟩
      exact ⟨trees, items, hroots, h⟩
  · exact ⟨Graph.mirrors_of_ofJson? ht (Graph.addedFor_addTree before t),
      Graph.planted_addTree before t⟩
  · obtain ⟨items, hroots, h⟩ := Tree.ofDocument?_eq_ok_iff.1 htrees
    refine ⟨items, hroots, ?_, Graph.planted_addTrees {} trees⟩
    exact Graph.forall₂_mirrors (fun item _ t i ht hi => Graph.mirrors_of_ofJson? ht hi)
      (mapM_eq_ok_iff.1 h) (Graph.forall₂_addedFor ⟨Nat.le_refl _, fun _ _ => rfl⟩)

/-- An order whose type, and that of its attribute, count as false, with items that may repeat and
have neither attributes nor children. -/
def orderObject : Json := .obj
  [Json.entry "name" (.str "order"), Json.entry "type" (.int 0),
    Json.entry "attribs" (.arr [.obj [Json.entry "name" (.str "id"), Json.entry "type" .null]]),
    Json.entry "children" (.arr [.obj [Json.entry "name" (.str "item"),
      Json.entry "type" (.str "string"), Json.entry "list" (.str "yes"),
      Json.entry "attribs" (.str []), Json.entry "children" (.obj [])]])]

/-- A document with this order. -/
def orderDocument : Json := .obj [Json.entry "roots" (.arr [orderObject])]

/-- The tree of the order. -/
def orderTree : Tree :=
  .node (.str "order") (.str "order") [{ name := .str "id", type := .str "string" }]
    [.node (.str "item") (.str "string") [] [] (.bool true) (.bool false)]
    (.bool false) (.bool false)

theorem Tree.grammar_order :
    Tree.ofJson? orderObject = .ok orderTree ∧ orderObject.IsElement ∧
    (∀ before : Graph, (before.addTree orderTree).1.Mirrors orderObject
      (before.addTree orderTree).2 ∧
        Graph.Planted before (before.addTree orderTree).1 [(before.addTree orderTree).2]) ∧
    Tree.ofDocument? orderDocument = .ok [orderTree] ∧
    ∃ items, orderDocument.Roots items ∧
      List.Forall₂ (Graph.ofTrees [orderTree]).1.Mirrors items (Graph.ofTrees [orderTree]).2 ∧
        Graph.Planted {} (Graph.ofTrees [orderTree]).1 (Graph.ofTrees [orderTree]).2 := by
  have hobject : Tree.ofJson? orderObject = .ok orderTree := rfl
  have hdocument : Tree.ofDocument? orderDocument = .ok [orderTree] := rfl
  obtain ⟨hiff, -, -, hmirrors, -⟩ := Tree.grammar orderObject
  exact ⟨hobject, hiff.1 ⟨_, hobject⟩, hmirrors _ hobject, hdocument,
    (Tree.grammar orderDocument).2.2.2.2 _ hdocument⟩

end SchemaStructs
