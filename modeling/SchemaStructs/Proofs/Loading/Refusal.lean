import SchemaStructs.Loading.Load
import SchemaStructs.Proofs.Schema.RoundTrip

/-!
# Documents that are refused

A document that is no schema is refused with the source it comes from and a fault.  One fault is not
expected where documents are read: the attributes or children of an element are a value that counts
as true but has no items, so that going through them fails by itself.

* `Tree.Stuck`: reading an element comes to such a value, in the element itself or, at any depth,
  in the first faulty child;
* `Tree.ofJson?_eq_noItems_iff`: reading fails in this way exactly if it gets stuck;
* `Loading.refusals`: a document has trees or is refused, unless it gets stuck.
-/

namespace SchemaStructs

/-- The value is gone through item by item, but has none to give: it counts as true and is no list,
text or object. -/
def Json.Itemless (j : Json) : Prop := j.truthy = true ∧ j.hasItems = false

namespace Tree

mutual

/-- Reading the element gets stuck at an itemless value of the given kind. -/
inductive Stuck : Json → Text → Prop
  /-- The name and the type are fine, but the attributes are an itemless value. -/
  | attributes {members : List (Text × Json)} {name type : Text} {value : Json}
      (hname : nameOfJson? members = .ok name) (htype : typeOfJson? name members = .ok type)
      (hlookup : Json.lookup members "attribs" = some value) (hvalue : value.Itemless) :
      Stuck (.obj members) value.kind
  /-- The attributes are fine, too, but the children are not. -/
  | children {members : List (Text × Json)} {name type kind : Text} {attributes : List Attribute}
      {value : Json} (hname : nameOfJson? members = .ok name)
      (htype : typeOfJson? name members = .ok type)
      (hattributes :
        Attribute.listOfJson? name ((Json.lookup members "attribs").getD .null) = .ok attributes)
      (hlookup : Json.lookup members "children" = some value) (hvalue : StuckItems value kind) :
      Stuck (.obj members) kind

/-- Reading the items of the value gets stuck. -/
inductive StuckItems : Json → Text → Prop
  /-- The value itself is itemless. -/
  | value {j : Json} (hvalue : j.Itemless) : StuckItems j j.kind
  /-- Some items are read, and the next one gets stuck. -/
  | item {before after : List Json} {item : Json} {kind : Text}
      (hbefore : ∀ b ∈ before, ∃ t, ofJson? b = .ok t) (hitem : Stuck item kind) :
      StuckItems (.arr (before ++ item :: after)) kind

end

variable {members : List (Text × Json)} {items : List Json} {name kind : Text} {j : Json}

theorem listOfJson?_eq_mapM (items : List Json) : listOfJson? items = items.mapM ofJson? := by
  induction items with
  | nil => rfl
  | cons item rest ih => rw [listOfJson?, List.mapM_cons, ih]

theorem nameOfJson?_ne_noItems : nameOfJson? members ≠ .error (.noItems kind) := by
  unfold nameOfJson?
  split <;> nofun

theorem typeOfJson?_ne_noItems : typeOfJson? name members ≠ .error (.noItems kind) := by
  unfold typeOfJson?
  split
  · nofun
  · split
    · nofun
    · split <;> nofun

theorem mapM_ofJson?_ne_noItems :
    items.mapM (Attribute.ofJson? name) ≠ .error (.noItems kind) := by
  intro h
  obtain ⟨item, -, h⟩ := exists_of_mapM_eq_error h
  unfold Attribute.ofJson? at h
  dsimp only at h
  split at h <;> cases h

/-- Attributes cannot be gone through if they are an itemless value. -/
theorem listOfJson?_of_itemless (h : j.Itemless) :
    Attribute.listOfJson? name j = .error (.noItems j.kind) := by
  unfold Attribute.listOfJson?
  rw [h.1]
  cases j <;> first | rfl | cases h.2

theorem itemless_of_listOfJson? (h : Attribute.listOfJson? name j = .error (.noItems kind)) :
    j.Itemless ∧ j.kind = kind := by
  unfold Attribute.listOfJson? at h
  split at h
  · cases h
  · rename_i htruthy
    have htruthy : j.truthy = true := by simpa using htruthy
    cases j with
    | arr _ | str _ | obj _ => exact absurd h mapM_ofJson?_ne_noItems
    | _ =>
      cases h
      exact ⟨⟨htruthy, rfl⟩, rfl⟩

/-! ### Getting stuck -/

mutual

theorem stuck_of_ofJson? {j : Json} {kind : Text} (h : ofJson? j = .error (.noItems kind)) :
    Stuck j kind := by
  match j with
  | .obj members =>
    rw [ofJson?] at h
    rcases bind_eq_error_iff.1 h with h | ⟨name, hname, h⟩
    · exact absurd h nameOfJson?_ne_noItems
    rcases bind_eq_error_iff.1 h with h | ⟨type, htype, h⟩
    · exact absurd h typeOfJson?_ne_noItems
    rcases bind_eq_error_iff.1 h with h | ⟨attributes, hattributes, h⟩
    · obtain ⟨hvalue, rfl⟩ := itemless_of_listOfJson? h
      cases hlookup : Json.lookup members "attribs" with
      | none =>
        rw [hlookup] at hvalue
        cases hvalue.1
      | some value =>
        rw [hlookup] at hvalue
        exact .attributes hname htype hlookup hvalue
    rcases bind_eq_error_iff.1 h with h | ⟨children, -, h⟩
    · obtain ⟨value, hlookup, hvalue⟩ := stuckItems_of_childrenOfJson? h
      exact .children hname htype hattributes hlookup hvalue
    · cases h
  | .null | .bool _ | .int _ | .float _ | .str _ | .arr _ => cases h

theorem stuckItems_of_childrenOfJson? {members : List (Text × Json)} {kind : Text}
    (h : childrenOfJson? members = .error (.noItems kind)) :
    ∃ value, Json.lookup members "children" = some value ∧ StuckItems value kind := by
  match members with
  | [] => cases h
  | (key, value) :: rest =>
    rw [childrenOfJson?] at h
    rw [Json.lookup]
    split at h
    · rename_i hkey
      rw [if_pos hkey]
      exact ⟨value, rfl, stuckItems_of_itemsOfJson? h⟩
    · rename_i hkey
      rw [if_neg hkey]
      exact stuckItems_of_childrenOfJson? h

theorem stuckItems_of_itemsOfJson? {j : Json} {kind : Text}
    (h : itemsOfJson? j = .error (.noItems kind)) : StuckItems j kind := by
  match j with
  | .arr items =>
    obtain ⟨before, item, after, rfl, hbefore, hitem⟩ := exists_stuck_of_listOfJson? h
    exact .item hbefore hitem
  | .str _ | .obj _ =>
    rw [itemsOfJson?] at h
    split at h <;> cases h
  | .null | .bool _ | .int _ | .float _ =>
    rw [itemsOfJson?_of_not_hasItems rfl] at h
    split at h <;> cases h
    exact .value ⟨‹_›, rfl⟩

theorem exists_stuck_of_listOfJson? {items : List Json} {kind : Text}
    (h : listOfJson? items = .error (.noItems kind)) :
    ∃ before item after, items = before ++ item :: after ∧
      (∀ b ∈ before, ∃ t, ofJson? b = .ok t) ∧ Stuck item kind := by
  match items with
  | [] => cases h
  | item :: rest =>
    rcases bind_eq_error_iff.1 h with h | ⟨t, ht, h⟩
    · exact ⟨[], item, rest, rfl, by simp, stuck_of_ofJson? h⟩
    rcases bind_eq_error_iff.1 h with h | ⟨ts, -, h⟩
    · obtain ⟨before, next, after, rfl, hbefore, hnext⟩ := exists_stuck_of_listOfJson? h
      exact ⟨item :: before, next, after, rfl, List.forall_mem_cons.2 ⟨⟨t, ht⟩, hbefore⟩, hnext⟩
    · cases h

end

mutual

theorem Stuck.ofJson?_eq {j : Json} {kind : Text} (h : Stuck j kind) :
    ofJson? j = .error (.noItems kind) := by
  match h with
  | .attributes hname htype hlookup hvalue =>
    rw [ofJson?, hname, hlookup]
    simp only [bind, Except.bind, htype, Option.getD_some, listOfJson?_of_itemless hvalue]
  | .children hname htype hattributes hlookup hvalue =>
    rw [ofJson?, hname, childrenOfJson?_eq, hlookup]
    simp only [bind, Except.bind, htype, hattributes, Option.map_some, Option.getD_some,
      hvalue.itemsOfJson?_eq]

theorem StuckItems.itemsOfJson?_eq {j : Json} {kind : Text} (h : StuckItems j kind) :
    itemsOfJson? j = .error (.noItems kind) := by
  match h with
  | .value hvalue => rw [itemsOfJson?_of_not_hasItems hvalue.2, if_pos hvalue.1]
  | .item hbefore hitem =>
    rw [itemsOfJson?, listOfJson?_eq_mapM]
    exact mapM_eq_error_iff.2 ⟨_, _, _, rfl, hbefore, hitem.ofJson?_eq⟩

end

/-- **Reading an element comes to a value without items exactly if it gets stuck.** -/
theorem ofJson?_eq_noItems_iff : ofJson? j = .error (.noItems kind) ↔ Stuck j kind :=
  ⟨stuck_of_ofJson?, Stuck.ofJson?_eq⟩

theorem itemsOfJson?_eq_noItems_iff : itemsOfJson? j = .error (.noItems kind) ↔ StuckItems j kind :=
  ⟨stuckItems_of_itemsOfJson?, StuckItems.itemsOfJson?_eq⟩

/-- Reading the document gets stuck at a value of the given kind. -/
inductive StuckDocument : Json → Text → Prop
  /-- The document is an element. -/
  | element {members : List (Text × Json)} {kind : Text}
      (hroots : Json.lookup members "roots" = none) (h : Stuck (.obj members) kind) :
      StuckDocument (.obj members) kind
  /-- The document has a list of roots. -/
  | roots {members : List (Text × Json)} {items : List Json} {kind : Text}
      (hroots : Json.lookup members "roots" = some (.arr items))
      (h : StuckItems (.arr items) kind) : StuckDocument (.obj members) kind
  /-- The document is a list. -/
  | list {items : List Json} {kind : Text} (h : StuckItems (.arr items) kind) :
      StuckDocument (.arr items) kind

theorem ofDocument?_eq_noItems_iff :
    ofDocument? j = .error (.noItems kind) ↔ StuckDocument j kind := by
  constructor
  · intro h
    cases j with
    | arr items => exact .list (itemsOfJson?_eq_noItems_iff.1 h)
    | obj members =>
      simp only [ofDocument?, Json.get?] at h
      cases hroots : Json.lookup members "roots" with
      | none =>
        rw [hroots] at h
        rcases bind_eq_error_iff.1 h with h | ⟨t, -, h⟩
        · exact .element hroots (ofJson?_eq_noItems_iff.1 h)
        · cases h
      | some value =>
        rw [hroots] at h
        cases value with
        | arr items => exact .roots hroots (itemsOfJson?_eq_noItems_iff.1 h)
        | _ => cases h
    | _ => cases h
  · intro h
    cases h with
    | element hroots h =>
      simp only [ofDocument?, Json.get?, hroots]
      rw [ofJson?_eq_noItems_iff.2 h]
      rfl
    | roots hroots h =>
      simp only [ofDocument?, Json.get?, hroots]
      exact itemsOfJson?_eq_noItems_iff.2 h
    | list h => exact itemsOfJson?_eq_noItems_iff.2 h

end Tree

namespace Loading

theorem value_fail {α : Type} (f : LoadFailure) :
    (fail f : Logged (Except LoadFailure α)).value = .error f := by
  unfold fail
  cases f.report? <;> rfl

/-- A document gives its trees, or it is refused with its fault, or a value without items ends the
loading. -/
theorem value_ofDocument (source : Text) (document : Json) :
    (∃ trees, Tree.ofDocument? document = .ok trees ∧
      (ofDocument source document).value = .ok trees) ∨
    (∃ fault, Tree.ofDocument? document = .error fault ∧ (∀ kind, fault ≠ .noItems kind) ∧
      (ofDocument source document).value = .error (.badDocument source fault)) ∨
    ∃ kind, Tree.ofDocument? document = .error (.noItems kind) ∧
      (ofDocument source document).value = .error (.noItems kind) := by
  unfold ofDocument
  cases Tree.ofDocument? document with
  | ok trees => exact .inl ⟨trees, rfl, rfl⟩
  | error fault =>
    cases fault with
    | noItems kind => exact .inr (.inr ⟨kind, rfl, value_fail _⟩)
    | _ => exact .inr (.inl ⟨_, rfl, nofun, value_fail _⟩)

/-- **A document has trees or is refused, unless reading it gets stuck.**  Then the loading ends
with a failure that does not name the source. -/
theorem refusals (source : Text) (document : Json) :
    (((∃ trees, (ofDocument source document).value = .ok trees) ∨
      ∃ fault, (ofDocument source document).value = .error (.badDocument source fault)) ↔
        ∀ kind, ¬ Tree.StuckDocument document kind) ∧
    ∀ kind, (ofDocument source document).value = .error (.noItems kind) ↔
      Tree.StuckDocument document kind := by
  simp only [← Tree.ofDocument?_eq_noItems_iff]
  rcases value_ofDocument source document with
    ⟨trees, hread, hvalue⟩ | ⟨fault, hread, hfault, hvalue⟩ | ⟨kind, hread, hvalue⟩
  · simp [hread, hvalue]
  · simp [hread, hvalue, hfault]
  · simp [hread, hvalue]

/-- **A number for the attributes of an element gets stuck**, and its document is not refused. -/
theorem refusals_number :
    ¬ ∀ (source : Text) (document : Json),
      (∃ trees, (ofDocument source document).value = .ok trees) ∨
        ∃ fault, (ofDocument source document).value = .error (.badDocument source fault) := by
  intro h
  rcases h "orders" (.obj [Json.entry "name" (.str "order"), Json.entry "attribs" (.int 5)]) with
    ⟨trees, h⟩ | ⟨fault, h⟩ <;> cases h

end Loading

end SchemaStructs
