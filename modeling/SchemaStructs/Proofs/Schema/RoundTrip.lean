import SchemaStructs.Proofs.Computation
import SchemaStructs.Schema.Document

/-!
# Trees written and read again

A tree is *readable* when its names and types are texts that are not empty, its attributes have
names and types that count as true, and its flags are truth values (`Tree.Readable`).  Writing such
a tree and reading what was written gives the tree again (`Tree.ofJson?_toJson`), and so it is with
a document of several trees (`Tree.ofDocument?_listToJson`): parts that are left out because they
are empty or not set are those that reading fills in.  All that is read is readable
(`Tree.readable_of_ofJson?`, `Tree.allReadable_of_ofDocument?`).
-/

namespace SchemaStructs

/-- The value is a text that is not empty. -/
def Json.isNamed : Json → Bool
  | .str t => !t.isEmpty
  | _ => false

/-- The value has items: those of a list, the characters of a text or the keys of an object. -/
def Json.hasItems : Json → Bool
  | .str _ | .arr _ | .obj _ => true
  | _ => false

/-- The value is a truth value. -/
def Json.isFlag : Json → Bool
  | .bool _ => true
  | _ => false

namespace Tree

mutual

/-- The tree can be written and read again. -/
def Readable : Tree → Prop
  | .node name type attributes children repeated characterData =>
    name.isNamed = true ∧ type.isNamed = true ∧
      (∀ a ∈ attributes, a.name.truthy = true ∧ a.type.truthy = true) ∧
      repeated.isFlag = true ∧ characterData.isFlag = true ∧ AllReadable children

/-- The trees can be written and read again. -/
def AllReadable : List Tree → Prop
  | [] => True
  | tree :: rest => Readable tree ∧ AllReadable rest

end

theorem allReadable_iff {trees : List Tree} : AllReadable trees ↔ ∀ t ∈ trees, t.Readable := by
  induction trees with
  | nil => simp [AllReadable]
  | cons tree rest ih => simp [AllReadable, ih]

/-! ### Parts of an element -/

theorem exists_of_isNamed {j : Json} (h : j.isNamed = true) : ∃ c rest, j = .str (c :: rest) := by
  cases j with
  | str t =>
    cases t with
    | nil => cases h
    | cons c rest => exact ⟨c, rest, rfl⟩
  | _ => cases h

theorem exists_of_isFlag {j : Json} (h : j.isFlag = true) : ∃ b, j = .bool b := by
  cases j with
  | bool b => exact ⟨b, rfl⟩
  | _ => cases h

/-- An attribute is read as it was written. -/
theorem ofJson?_attributeToJson (owner : Text) {a : Attribute}
    (h : a.name.truthy = true ∧ a.type.truthy = true) :
    Attribute.ofJson? owner (attributeToJson a) = .ok a := by
  obtain ⟨hname, htype⟩ := h
  have hgetName : ((attributeToJson a).get? "name").getD .null = a.name := rfl
  have hgetType : ((attributeToJson a).get? "type").getD .null = a.type := rfl
  simp only [Attribute.ofJson?, hgetName, hgetType, hname, htype, if_true]

theorem mapM_ofJson? (owner : Text) {attributes : List Attribute}
    (h : ∀ a ∈ attributes, a.name.truthy = true ∧ a.type.truthy = true) :
    (attributes.map attributeToJson).mapM (Attribute.ofJson? owner) = .ok attributes := by
  induction attributes with
  | nil => rfl
  | cons a rest ih =>
    obtain ⟨ha, hrest⟩ := List.forall_mem_cons.1 h
    rw [List.map_cons, List.mapM_cons, ofJson?_attributeToJson owner ha, ih hrest]
    rfl

/-! ### Members of an element -/

/-- The children are read from their member alone. -/
theorem childrenOfJson?_eq (members : List (Text × Json)) :
    childrenOfJson? members =
      ((Json.lookup members "children").map itemsOfJson?).getD (.ok []) := by
  induction members with
  | nil => rfl
  | cons m members ih =>
    rw [childrenOfJson?, Json.lookup]
    split
    · rfl
    · exact ih

/-- The members of a written element. -/
def membersOf (name type : Json) (attributes : List Attribute) (children : List Tree)
    (repeated characterData : Json) : List (Text × Json) :=
  [Json.entry "name" name, Json.entry "type" type]
    ++ (if attributes.isEmpty then []
      else [Json.entry "attribs" (.arr (attributes.map attributeToJson))])
    ++ (if children.isEmpty then [] else [Json.entry "children" (.arr (listToJson children))])
    ++ flagMember "list" repeated ++ flagMember "cdata" characterData

variable {name type : Json} {attributes : List Attribute} {children : List Tree} {r b : Bool}

-- With the shape of the lists and the flags given, looking a member up is a matter of computation.

theorem lookup_attribs :
    Json.lookup (membersOf name type attributes children (.bool r) (.bool b)) "attribs" =
      if attributes.isEmpty then none else some (.arr (attributes.map attributeToJson)) := by
  cases attributes <;> cases children <;> cases r <;> cases b <;> rfl

theorem lookup_children :
    Json.lookup (membersOf name type attributes children (.bool r) (.bool b)) "children" =
      if children.isEmpty then none else some (.arr (listToJson children)) := by
  cases attributes <;> cases children <;> cases r <;> cases b <;> rfl

theorem flagOfJson_list :
    flagOfJson (membersOf name type attributes children (.bool r) (.bool b)) "list" = r := by
  cases attributes <;> cases children <;> cases r <;> cases b <;> rfl

theorem flagOfJson_cdata :
    flagOfJson (membersOf name type attributes children (.bool r) (.bool b)) "cdata" = b := by
  cases attributes <;> cases children <;> cases r <;> cases b <;> rfl

/-- The attributes of an element are read as they were written. -/
theorem listOfJson?_lookup (owner : Text)
    (h : ∀ a ∈ attributes, a.name.truthy = true ∧ a.type.truthy = true) :
    Attribute.listOfJson? owner ((Json.lookup (membersOf name type attributes children (.bool r)
      (.bool b)) "attribs").getD .null) = .ok attributes := by
  rw [lookup_attribs]
  cases attributes with
  | nil => rfl
  | cons a rest => exact mapM_ofJson? owner h

/-- The children of an element are read as they were written, if their list is. -/
theorem childrenOfJson?_membersOf (h : listOfJson? (listToJson children) = .ok children) :
    childrenOfJson? (membersOf name type attributes children (.bool r) (.bool b)) =
      .ok children := by
  rw [childrenOfJson?_eq, lookup_children]
  cases children with
  | nil => rfl
  | cons t rest => exact h

/-! ### Whole trees -/

mutual

/-- **A readable tree is read as it was written.** -/
theorem ofJson?_toJson (t : Tree) (h : t.Readable) : ofJson? (toJson t) = .ok t := by
  obtain ⟨name, type, attributes, children, repeated, characterData⟩ := t
  obtain ⟨hname, htype, hattributes, hrepeated, hdata, hchildren⟩ := h
  obtain ⟨c, rest, rfl⟩ := exists_of_isNamed hname
  obtain ⟨d, typeRest, rfl⟩ := exists_of_isNamed htype
  obtain ⟨r, rfl⟩ := exists_of_isFlag hrepeated
  obtain ⟨b, rfl⟩ := exists_of_isFlag hdata
  have hmembers : toJson (.node (.str (c :: rest)) (.str (d :: typeRest)) attributes children
      (.bool r) (.bool b)) = .obj (membersOf (.str (c :: rest)) (.str (d :: typeRest)) attributes
        children (.bool r) (.bool b)) := by
    rw [toJson, membersOf]
  -- the name and the type come first, so they are found at once
  have hnameRead : nameOfJson? (membersOf (.str (c :: rest)) (.str (d :: typeRest)) attributes
      children (.bool r) (.bool b)) = .ok (c :: rest) := rfl
  have htypeRead : typeOfJson? (c :: rest) (membersOf (.str (c :: rest)) (.str (d :: typeRest))
      attributes children (.bool r) (.bool b)) = .ok (d :: typeRest) := rfl
  have hchildrenRead : childrenOfJson? (membersOf (.str (c :: rest)) (.str (d :: typeRest))
      attributes children (.bool r) (.bool b)) = .ok children :=
    childrenOfJson?_membersOf (listOfJson?_listToJson children hchildren)
  rw [hmembers, ofJson?, hnameRead]
  simp only [bind, Except.bind, htypeRead, listOfJson?_lookup _ hattributes, hchildrenRead,
    flagOfJson_list, flagOfJson_cdata]
  rfl

/-- Readable trees are read as they were written. -/
theorem listOfJson?_listToJson (trees : List Tree) (h : AllReadable trees) :
    listOfJson? (listToJson trees) = .ok trees := by
  match trees with
  | [] => rfl
  | t :: rest =>
    rw [listToJson, listOfJson?, ofJson?_toJson t h.1, listOfJson?_listToJson rest h.2]
    rfl

end

/-- **A document of readable trees is read as it was written.** -/
theorem ofDocument?_listToJson {trees : List Tree} (h : ∀ t ∈ trees, t.Readable) :
    ofDocument? (.arr (listToJson trees)) = .ok trees := by
  exact listOfJson?_listToJson trees (allReadable_iff.2 h)

/-! ### What is read -/

section Reading

variable {members : List (Text × Json)} {owner name type : Text} {t : Tree} {j : Json}

theorem itemsOfJson?_of_not_hasItems (h : j.hasItems = false) :
    itemsOfJson? j = if j.truthy then .error (.noItems j.kind) else .ok [] := by
  cases j <;> first | rfl | cases h

/-- An element is read part by part. -/
theorem ofJson?_obj_eq_ok_iff :
    ofJson? (.obj members) = .ok t ↔ ∃ name type attributes children,
      nameOfJson? members = .ok name ∧ typeOfJson? name members = .ok type ∧
      Attribute.listOfJson? name ((Json.lookup members "attribs").getD .null) = .ok attributes ∧
      childrenOfJson? members = .ok children ∧
      t = .node (.str name) (.str type) attributes children
        (.bool (flagOfJson members "list")) (.bool (flagOfJson members "cdata")) := by
  rw [ofJson?]
  simp only [bind_eq_ok_iff, pure_eq_ok_iff]
  constructor
  · rintro ⟨name, hname, type, htype, attributes, hattributes, children, hchildren, rfl⟩
    exact ⟨name, type, attributes, children, hname, htype, hattributes, hchildren, rfl⟩
  · rintro ⟨name, type, attributes, children, hname, htype, hattributes, hchildren, rfl⟩
    exact ⟨name, hname, type, htype, attributes, hattributes, children, hchildren, rfl⟩

theorem isNamed_of_nameOfJson? (h : nameOfJson? members = .ok name) :
    (Json.str name).isNamed = true := by
  unfold nameOfJson? at h
  split at h <;> cases h
  rfl

theorem isNamed_of_typeOfJson? (hname : (Json.str name).isNamed = true)
    (h : typeOfJson? name members = .ok type) : (Json.str type).isNamed = true := by
  unfold typeOfJson? at h
  split at h
  · cases h
    exact hname
  · split at h
    · cases h
      exact hname
    · rename_i htruthy
      split at h <;> cases h
      simpa [Json.isNamed, Json.truthy] using htruthy

theorem truthy_of_ofJson? {j : Json} {a : Attribute} (h : Attribute.ofJson? owner j = .ok a) :
    a.name.truthy = true ∧ a.type.truthy = true := by
  unfold Attribute.ofJson? at h
  dsimp only at h
  split at h
  · rename_i hname
    cases h
    refine ⟨hname, ?_⟩
    dsimp only
    split
    · assumption
    · rfl
  · cases h

theorem truthy_of_mapM {items : List Json} {attributes : List Attribute}
    (h : items.mapM (Attribute.ofJson? owner) = .ok attributes) :
    ∀ a ∈ attributes, a.name.truthy = true ∧ a.type.truthy = true := by
  intro a ha
  obtain ⟨j, -, hj⟩ := exists_of_forall₂ (mapM_eq_ok_iff.1 h).flip ha
  exact truthy_of_ofJson? hj

/-- The attributes that are read have names and types. -/
theorem truthy_of_listOfJson? {j : Json} {attributes : List Attribute}
    (h : Attribute.listOfJson? owner j = .ok attributes) :
    ∀ a ∈ attributes, a.name.truthy = true ∧ a.type.truthy = true := by
  unfold Attribute.listOfJson? at h
  split at h
  · cases h
    simp
  · split at h
    · exact truthy_of_mapM h
    · exact truthy_of_mapM h
    · exact truthy_of_mapM h
    · cases h

mutual

/-- **What is read can be written and read again.** -/
theorem readable_of_ofJson? {j : Json} {t : Tree} (h : ofJson? j = .ok t) : t.Readable := by
  match j with
  | .obj members =>
    obtain ⟨name, type, attributes, children, hname, htype, hattributes, hchildren, rfl⟩ :=
      ofJson?_obj_eq_ok_iff.1 h
    have hnamed := isNamed_of_nameOfJson? hname
    exact ⟨hnamed, isNamed_of_typeOfJson? hnamed htype, truthy_of_listOfJson? hattributes, rfl, rfl,
      allReadable_of_childrenOfJson? hchildren⟩
  | .null | .bool _ | .int _ | .float _ | .str _ | .arr _ => cases h

/-- The children that are read can be written and read again. -/
theorem allReadable_of_childrenOfJson? {members : List (Text × Json)} {trees : List Tree}
    (h : childrenOfJson? members = .ok trees) : AllReadable trees := by
  match members with
  | [] =>
    cases h
    trivial
  | (key, value) :: rest =>
    rw [childrenOfJson?] at h
    split at h
    · exact allReadable_of_itemsOfJson? h
    · exact allReadable_of_childrenOfJson? h

theorem allReadable_of_itemsOfJson? {j : Json} {trees : List Tree}
    (h : itemsOfJson? j = .ok trees) : AllReadable trees := by
  match j with
  | .arr items => exact allReadable_of_listOfJson? h
  | .str _ | .obj _ =>
    rw [itemsOfJson?] at h
    split at h <;> cases h
    trivial
  | .null | .bool _ | .int _ | .float _ =>
    rw [itemsOfJson?_of_not_hasItems rfl] at h
    split at h <;> cases h
    trivial

theorem allReadable_of_listOfJson? {items : List Json} {trees : List Tree}
    (h : listOfJson? items = .ok trees) : AllReadable trees := by
  match items with
  | [] =>
    cases h
    trivial
  | item :: rest =>
    rw [listOfJson?] at h
    obtain ⟨t, ht, h⟩ := bind_eq_ok_iff.1 h
    obtain ⟨ts, hts, h⟩ := bind_eq_ok_iff.1 h
    cases h
    exact ⟨readable_of_ofJson? ht, allReadable_of_listOfJson? hts⟩

end

/-- A document that is read can be written and read again. -/
theorem allReadable_of_ofDocument? {trees : List Tree} (h : ofDocument? j = .ok trees) :
    AllReadable trees := by
  unfold ofDocument? at h
  split at h
  · exact allReadable_of_listOfJson? h
  · exact allReadable_of_listOfJson? h
  · cases h
  · obtain ⟨t, ht, h⟩ := bind_eq_ok_iff.1 h
    cases h
    exact ⟨readable_of_ofJson? ht, trivial⟩
  · cases h

end Reading

end Tree

end SchemaStructs
