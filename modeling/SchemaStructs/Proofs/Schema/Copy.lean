import Mathlib.Data.Fintype.Card
import Mathlib.Data.List.Forall2
import SchemaStructs.Proofs.Schema.Forest
import SchemaStructs.Proofs.Schema.RoundTrip
import SchemaStructs.Proofs.Schema.Shape

/-!
# Copies of a schema

An element *depicts* a tree when it has the parts that the tree tells, and its children depict the
trees below (`Graph.Depicts`).  Shared elements do not matter: two elements of different graphs that
depict one tree are copies of each other, and so are their children (`Graph.Copies`).

* `Graph.depicts_tree`: an element that nothing below contains again depicts its unfolding.  The
  unfolding is cut at the size of the graph, and no chain of elements is longer than that;
* `Graph.depicts_ofTrees`: the roots of a graph that is made from trees depict these trees.
-/

namespace SchemaStructs

/-- The element without its children. -/
def Element.bare (e : Element) : Element := { e with children := [] }

namespace Graph

open Relation

/-! ### Descent -/

/-- The element `j` is a child of `i`, primitive or not. -/
def Descends (g : Graph) (i j : ElementId) : Prop := j ∈ g.children i

/-- The element is a root or below one. -/
def Below (g : Graph) (roots : List ElementId) (i : ElementId) : Prop :=
  ∃ r ∈ roots, ReflTransGen g.Descends r i

/-- No element below the roots is below itself. -/
def Loopless (g : Graph) (roots : List ElementId) : Prop :=
  ∀ i, g.Below roots i → ¬ TransGen g.Descends i i

variable {g h : Graph} {roots : List ElementId} {i j c : ElementId} {e : Element} {t : Tree}
variable {trees : List Tree} {is js : List ElementId}

theorem Below.root (hi : i ∈ roots) : g.Below roots i := ⟨i, hi, .refl⟩

theorem Below.child (hi : g.Below roots i) (hc : c ∈ g.children i) : g.Below roots c := by
  obtain ⟨r, hr, hri⟩ := hi
  exact ⟨r, hr, hri.tail hc⟩

theorem Layered.loopless (hg : g.Layered) : g.Loopless roots := by
  have hlt : ∀ {i j}, TransGen g.Descends i j → j < i := fun hij => by
    induction hij with
    | single hc => exact hg _ _ hc
    | tail _ hc ih => exact Nat.lt_trans (hg _ _ hc) ih
  exact fun i _ hii => Nat.lt_irrefl i (hlt hii)

/-! ### Trees and elements -/

mutual

/-- The element of the graph has the parts that the tree tells, and so have those below it. -/
def Depicts (g : Graph) : Tree → ElementId → Prop
  | .node name type attributes children repeated characterData, i =>
    i < g.size ∧
      (g.get i).bare = { name, type, attributes, children := [], repeated, characterData } ∧
      DepictsAll g children (g.children i)

/-- The elements depict the trees, one by one. -/
def DepictsAll (g : Graph) : List Tree → List ElementId → Prop
  | [], is => is = []
  | _ :: _, [] => False
  | tree :: rest, i :: is => Depicts g tree i ∧ DepictsAll g rest is

end

/-- The graph has the elements of another one, and perhaps more. -/
structure Extends (g h : Graph) : Prop where
  /-- There are no fewer elements. -/
  size_le : g.size ≤ h.size
  /-- The elements that were there are the same. -/
  get_eq : ∀ i < g.size, h.get i = g.get i

theorem Extends.trans {k : Graph} (hgh : Extends g h) (hhk : Extends h k) : Extends g k :=
  ⟨Nat.le_trans hgh.size_le hhk.size_le, fun i hi => by
    rw [hhk.get_eq i (Nat.lt_of_lt_of_le hi hgh.size_le), hgh.get_eq i hi]⟩

theorem get_add (g : Graph) (e : Element) (i : ElementId) :
    (g.add e).1.get i = if i = g.size then e else g.get i := by
  have hpush : (g.elements.push e)[i]? =
      if i = g.elements.size then some e else g.elements[i]? := Array.getElem?_push
  simp only [get, add, size, Array.getD_eq_getD_getElem?, hpush]
  split <;> rfl

theorem extends_add (g : Graph) (e : Element) : Extends g (g.add e).1 :=
  ⟨by rw [size_add]; exact Nat.le_succ _, fun i hi => by
    rw [get_add, if_neg (Nat.ne_of_lt hi)]⟩

mutual

/-- More elements do not change what an element depicts. -/
theorem Depicts.mono (hgh : Extends g h) {t : Tree} {i : ElementId} (ht : g.Depicts t i) :
    h.Depicts t i := by
  match t, ht with
  | .node name type attributes children repeated characterData, ⟨hi, hbare, hchildren⟩ =>
    have hget := hgh.get_eq i hi
    refine ⟨Nat.lt_of_lt_of_le hi hgh.size_le, by rw [hget, hbare], ?_⟩
    rw [Graph.children, hget]
    exact DepictsAll.mono hgh hchildren

/-- More elements do not change what elements depict. -/
theorem DepictsAll.mono (hgh : Extends g h) {trees : List Tree} {is : List ElementId}
    (ht : g.DepictsAll trees is) : h.DepictsAll trees is := by
  match trees, is, ht with
  | [], is, ht => exact ht
  | t :: rest, i :: is, ht => exact ⟨Depicts.mono hgh ht.1, DepictsAll.mono hgh ht.2⟩

end

/-- An element that is added for a tree depicts it, if its children do so. -/
theorem depicts_add {name type : Json} {attributes : List Attribute} {repeated characterData : Json}
    (hchildren : g.DepictsAll trees is) :
    (g.add { name, type, attributes, children := is, repeated, characterData }).1.Depicts
      (.node name type attributes trees repeated characterData) g.size := by
  refine ⟨?_, ?_, ?_⟩
  · rw [size_add]
    exact Nat.lt_succ_self _
  · rw [get_add, if_pos rfl]
    rfl
  · rw [children_add, if_pos rfl]
    exact hchildren.mono (extends_add g _)

mutual

/-- A tree is depicted by the element that is added for it. -/
theorem depicts_addTree (g : Graph) (t : Tree) :
    Extends g (g.addTree t).1 ∧ (g.addTree t).1.Depicts t (g.addTree t).2 := by
  obtain ⟨name, type, attributes, children, repeated, characterData⟩ := t
  obtain ⟨hextends, hchildren⟩ := depicts_addTrees g children
  rw [addTree]
  exact ⟨hextends.trans (extends_add _ _), depicts_add hchildren⟩

/-- Trees are depicted by the elements that are added for them. -/
theorem depicts_addTrees (g : Graph) (trees : List Tree) :
    Extends g (g.addTrees trees).1 ∧
      (g.addTrees trees).1.DepictsAll trees (g.addTrees trees).2 := by
  match trees with
  | [] => exact ⟨⟨Nat.le_refl _, fun _ _ => rfl⟩, rfl⟩
  | t :: rest =>
    obtain ⟨hfirst, ht⟩ := depicts_addTree g t
    obtain ⟨hrest, hts⟩ := depicts_addTrees (g.addTree t).1 rest
    simp only [addTrees]
    exact ⟨hfirst.trans hrest, ht.mono hrest, hts⟩

end

/-- **The roots of a graph that is made from trees depict these trees.** -/
theorem depicts_ofTrees (trees : List Tree) :
    (ofTrees trees).1.DepictsAll trees (ofTrees trees).2 :=
  (depicts_addTrees {} trees).2

theorem DepictsAll.exists_of_mem (ht : g.DepictsAll trees is) (hi : i ∈ is) :
    ∃ t ∈ trees, g.Depicts t i := by
  induction trees generalizing is with
  | nil =>
    obtain rfl : is = [] := ht
    cases hi
  | cons t rest ih =>
    match is, ht with
    | j :: js, ht =>
      rcases List.mem_cons.1 hi with rfl | hi
      · exact ⟨t, List.mem_cons_self, ht.1⟩
      · obtain ⟨t', ht', hdepicts⟩ := ih ht.2 hi
        exact ⟨t', List.mem_cons_of_mem t ht', hdepicts⟩

/-- What occurs below trees that can be read depicts such a tree. -/
theorem exists_readable_of_occurs (htrees : Tree.AllReadable trees) (hroots : g.DepictsAll trees is)
    (hi : g.Occurs is i) : ∃ t, t.Readable ∧ g.Depicts t i := by
  refine hi.of_closed (P := fun i => ∃ t, t.Readable ∧ g.Depicts t i) (fun r hr => ?_)
    fun p hp c hc => ?_
  · obtain ⟨t, ht, hdepicts⟩ := hroots.exists_of_mem hr
    exact ⟨t, Tree.allReadable_iff.1 htrees t ht, hdepicts⟩
  · obtain ⟨⟨name, type, attributes, children, repeated, characterData⟩, hread, hp⟩ := hp
    obtain ⟨t, ht, hdepicts⟩ := hp.2.2.exists_of_mem hc
    exact ⟨t, Tree.allReadable_iff.1 hread.2.2.2.2.2 t ht, hdepicts⟩

/-! ### Unfolding -/

theorem depictsAll_map {f : ElementId → Tree} (hf : ∀ i ∈ is, g.Depicts (f i) i) :
    g.DepictsAll (is.map f) is := by
  induction is with
  | nil => rfl
  | cons i is ih =>
    obtain ⟨hi, his⟩ := List.forall_mem_cons.1 hf
    exact ⟨hi, ih his⟩

/-- Pairwise distinct elements of a graph are no more than the graph has. -/
theorem length_le_size {path : List ElementId} (hnodup : path.Nodup)
    (hlt : ∀ p ∈ path, p < g.size) :
    path.length ≤ g.size := by
  have hsubset : path ⊆ List.range g.size := fun p hp => List.mem_range.2 (hlt p hp)
  have hle := (List.subperm_of_subset hnodup hsubset).length_le
  rwa [List.length_range] at hle

/-- An unfolding that is cut at a depth is complete if the elements above and the depth make up the
size of the graph. -/
theorem depicts_treeTo (hg : g.Loopless roots) (hsize : ∀ i, g.Below roots i → i < g.size)
    {path : List ElementId} (hnodup : path.Nodup) (hi : g.Below roots i)
    (hpath : ∀ p ∈ path, g.Below roots p ∧ TransGen g.Descends p i) {depth : Nat}
    (hdepth : g.size ≤ depth + path.length) : g.Depicts (g.treeTo depth i) i := by
  induction depth generalizing path i with
  | zero =>
    -- with the element itself there would be more elements than the graph has
    have hmem : i ∉ path := fun hmem => hg i hi (hpath i hmem).2
    have hlength := length_le_size (g := g) (List.nodup_cons.2 ⟨hmem, hnodup⟩)
      (List.forall_mem_cons.2 ⟨hsize i hi, fun p hp => hsize p (hpath p hp).1⟩)
    rw [List.length_cons] at hlength
    omega
  | succ depth ih =>
    refine ⟨hsize i hi, rfl, depictsAll_map fun c hc => ?_⟩
    have hmem : i ∉ path := fun hmem => hg i hi (hpath i hmem).2
    have hpath' : ∀ p ∈ i :: path, g.Below roots p ∧ TransGen g.Descends p c := by
      refine List.forall_mem_cons.2 ⟨⟨hi, .single hc⟩, fun p hp => ?_⟩
      exact ⟨(hpath p hp).1, (hpath p hp).2.tail hc⟩
    refine ih (List.nodup_cons.2 ⟨hmem, hnodup⟩) (hi.child hc) hpath' ?_
    rw [List.length_cons]
    omega

/-- **An element depicts its unfolding**, if no element below the roots is below itself. -/
theorem depicts_tree (hg : g.Loopless roots) (hsize : ∀ i, g.Below roots i → i < g.size)
    (hi : g.Below roots i) : g.Depicts (g.tree i) i :=
  depicts_treeTo hg hsize List.nodup_nil hi (by simp) (Nat.le_refl _)

/-! ### Copies -/

/-- The elements of the two graphs depict one tree. -/
def Copies (g h : Graph) (i j : ElementId) : Prop := ∃ t, g.Depicts t i ∧ h.Depicts t j

/-- Elements that depict the same trees are copies of each other, one by one. -/
theorem DepictsAll.copies (hg : g.DepictsAll trees is) (hh : h.DepictsAll trees js) :
    List.Forall₂ (g.Copies h) is js := by
  induction trees generalizing is js with
  | nil =>
    obtain rfl : is = [] := hg
    obtain rfl : js = [] := hh
    exact .nil
  | cons t rest ih =>
    match is, js, hg, hh with
    | i :: is, j :: js, hg, hh => exact .cons ⟨t, hg.1, hh.1⟩ (ih hg.2 hh.2)

/-- A copy has the same parts. -/
theorem Copies.bare_eq (hc : g.Copies h i j) : (g.get i).bare = (h.get j).bare := by
  obtain ⟨⟨name, type, attributes, children, repeated, characterData⟩, hi, hj⟩ := hc
  exact hi.2.1.trans hj.2.1.symm

/-- The children of a copy are copies. -/
theorem Copies.children (hc : g.Copies h i j) :
    List.Forall₂ (g.Copies h) (g.children i) (h.children j) := by
  obtain ⟨⟨name, type, attributes, children, repeated, characterData⟩, hi, hj⟩ := hc
  exact hi.2.2.copies hj.2.2

theorem Copies.textual (hc : g.Copies h i j) (hi : (g.get i).Textual) : (h.get j).Textual := by
  have hbare : (g.get i).bare.Textual := ⟨hi.name, hi.type, hi.attributes⟩
  rw [hc.bare_eq] at hbare
  exact ⟨hbare.name, hbare.type, hbare.attributes⟩

/-- A copy has the same shape. -/
theorem Copies.shape_eq (hc : g.Copies h i j) : g.shape i = h.shape j := by
  let entry : Element → Json × Json × Json × Json := fun e =>
    (e.name, e.type, e.repeated, e.characterData)
  have hchildren : (g.children i).map (fun c => entry (g.get c).bare) =
      (h.children j).map (fun c => entry (h.get c).bare) := by
    rw [← List.forall₂_eq_eq_eq, List.forall₂_map_left_iff, List.forall₂_map_right_iff]
    exact hc.children.imp fun a b hab => by rw [hab.bare_eq]
  -- the rest of a shape does not depend on the children
  have hshape : ∀ (g : Graph) (i : ElementId), g.shape i =
      { type := (g.get i).bare.type, characterData := (g.get i).bare.characterData
        attributes := (g.get i).bare.attributes.map fun a => (a.name, a.type)
        children := (g.children i).map fun c => entry (g.get c).bare } := fun _ _ => rfl
  rw [hshape, hshape, hc.bare_eq, hchildren]

/-! ### Serializable schemas -/

end Graph

/-- The element can be written: its names and types, and those of its attributes, are texts that are
not empty, and its flags are truth values. -/
structure Element.Serializable (e : Element) : Prop where
  /-- The name is a text that is not empty. -/
  name : e.name.isNamed = true
  /-- The type is a text that is not empty. -/
  type : e.type.isNamed = true
  /-- The names and types of the attributes are texts that are not empty. -/
  attributes : ∀ a ∈ e.attributes, a.name.isNamed = true ∧ a.type.isNamed = true
  /-- The element occurs several times, or it does not. -/
  repeated : e.repeated.isFlag = true
  /-- The element carries character data, or it does not. -/
  characterData : e.characterData.isFlag = true

instance (e : Element) : Decidable e.Serializable :=
  decidable_of_iff (e.name.isNamed = true ∧ e.type.isNamed = true ∧
      (∀ a ∈ e.attributes, a.name.isNamed = true ∧ a.type.isNamed = true) ∧
      e.repeated.isFlag = true ∧ e.characterData.isFlag = true)
    ⟨fun ⟨hname, htype, hattributes, hrepeated, hdata⟩ =>
      ⟨hname, htype, hattributes, hrepeated, hdata⟩,
      fun h => ⟨h.name, h.type, h.attributes, h.repeated, h.characterData⟩⟩

theorem Json.of_isNamed {j : Json} (h : j.isNamed = true) : j.isText = true ∧ j.truthy = true := by
  obtain ⟨c, rest, rfl⟩ := Tree.exists_of_isNamed h
  exact ⟨rfl, rfl⟩

theorem Element.Serializable.textual {e : Element} (h : e.Serializable) : e.Textual where
  name := (Json.of_isNamed h.name).1
  type := (Json.of_isNamed h.type).1
  attributes a ha := ⟨(Json.of_isNamed (h.attributes a ha).1).1,
    (Json.of_isNamed (h.attributes a ha).2).1⟩

namespace Graph

/-- The names and types of the elements of a document are texts. -/
theorem named_of_occurs {document : Json} {trees : List Tree}
    (hread : Tree.ofDocument? document = .ok trees) {i : ElementId}
    (hi : (ofTrees trees).1.Occurs (ofTrees trees).2 i) : ((ofTrees trees).1.get i).Named := by
  obtain ⟨⟨name, type, attributes, children, repeated, characterData⟩, ht, hdepicts⟩ :=
    exists_readable_of_occurs (Tree.allReadable_of_ofDocument? hread) (depicts_ofTrees trees) hi
  have hbare := hdepicts.2.1
  simp only [Element.bare, Element.mk.injEq] at hbare
  obtain ⟨hname, htype, -⟩ := hbare
  exact ⟨by rw [hname]; exact (Json.of_isNamed ht.1).1,
    by rw [htype]; exact (Json.of_isNamed ht.2.1).1⟩

/-- The schema can be written: nothing below the roots is below itself, and the elements below them
can be written. -/
structure Serializable (g : Graph) (roots : List ElementId) : Prop where
  /-- No element is below itself. -/
  loopless : g.Loopless roots
  /-- The elements can be written. -/
  elements : ∀ i, g.Below roots i → (g.get i).Serializable

variable {g : Graph} {roots : List ElementId} {i : ElementId}

/-- A graph that puts children first can be written if its elements can. -/
theorem Layered.serializable (hg : g.Layered) (hroots : ∀ r ∈ roots, r < g.size)
    (helements : ∀ i < g.size, (g.get i).Serializable) : g.Serializable roots := by
  refine ⟨hg.loopless, fun i hi => helements i ?_⟩
  obtain ⟨r, hr, hri⟩ := hi
  induction hri with
  | refl => exact hroots r hr
  | tail _ hc ih => exact Nat.lt_trans (hg _ _ hc) ih

/-- A number beyond the graph stands for a nameless element, which cannot be written. -/
theorem Serializable.lt_size (hg : g.Serializable roots) (hi : g.Below roots i) : i < g.size := by
  by_contra hge
  have hnone : g.elements[i]? = none := Array.getElem?_eq_none (Nat.le_of_not_lt hge)
  have hname := (hg.elements i hi).name
  rw [get, Array.getD_eq_getD_getElem?, hnone] at hname
  cases hname

theorem Serializable.readable_treeTo (hg : g.Serializable roots) (hi : g.Below roots i)
    (depth : Nat) : (g.treeTo depth i).Readable := by
  have hparts : ∀ i, g.Below roots i → ∀ trees : List Tree, Tree.AllReadable trees →
      (Tree.node (g.get i).name (g.get i).type (g.get i).attributes trees (g.get i).repeated
        (g.get i).characterData).Readable := by
    intro i hi trees htrees
    obtain ⟨hname, htype, hattributes, hrepeated, hdata⟩ := hg.elements i hi
    refine ⟨hname, htype, fun a ha => ?_, hrepeated, hdata, htrees⟩
    exact ⟨(Json.of_isNamed (hattributes a ha).1).2, (Json.of_isNamed (hattributes a ha).2).2⟩
  induction depth generalizing i with
  | zero => exact hparts i hi [] trivial
  | succ depth ih =>
    refine hparts i hi _ (Tree.allReadable_iff.2 fun t ht => ?_)
    obtain ⟨c, hc, rfl⟩ := List.mem_map.1 ht
    exact ih (hi.child hc)

/-- **The document of a schema is read as its unfolding.** -/
theorem Serializable.ofDocument?_eq (hg : g.Serializable roots) :
    Tree.ofDocument? (.arr (Tree.listToJson (roots.map g.tree))) = .ok (roots.map g.tree) := by
  refine Tree.ofDocument?_listToJson fun t ht => ?_
  obtain ⟨r, hr, rfl⟩ := List.mem_map.1 ht
  exact hg.readable_treeTo (.root hr) g.size

/-- The roots of a schema depict its unfolding. -/
theorem Serializable.depictsAll (hg : g.Serializable roots) :
    g.DepictsAll (roots.map g.tree) roots :=
  depictsAll_map fun _ hr => depicts_tree hg.loopless (fun _ => hg.lt_size) (.root hr)

end Graph

end SchemaStructs
