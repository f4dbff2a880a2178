import Mathlib.Data.Set.Card
import SchemaStructs.Proofs.Schema.Grammar
import SchemaStructs.Proofs.Schema.Search

/-!
# Counting elements

The number of elements of a schema is that of the elements below its roots, whatever leads to them:
primitive or not, shared or on a cycle, each counts once.  For a schema that was read from a
document it is the number of objects that stand for elements (`Json.elements`).

* `Graph.count_eq_ncard`: the number of a schema is that of a set;
* `Graph.exists_iterate_passLast`: a loop that takes the last of its stack first visits the elements
  in another order, and as many of them;
* `Graph.count_addTrees`: trees are counted element by element;
* `Graph.count_elements`: all this together.
-/

namespace SchemaStructs

open Json (given itemsOf)

/-- The objects of a value that stand for elements: itself, and those of the items of its list of
children. -/
def Json.elements (j : Json) : List Json :=
  match j with
  | .obj members =>
    .obj members :: (itemsOf (given members "children")).attach.flatMap fun item => elements item.1
  | _ => []
termination_by sizeOf j
decreasing_by exact sizeOf_lt_of_mem_itemsOf item.2

theorem Json.elements_obj (members : List (Text × Json)) : (Json.obj members).elements =
    .obj members :: (itemsOf (given members "children")).flatMap Json.elements := by
  rw [Json.elements]
  simp

/-! ### Reading -/

namespace Tree

variable {j : Json} {t : Tree} {items : List Json} {trees : List Tree}

/-- Trees that are read one by one have as many elements as there are objects. -/
theorem sizes_of_mapM
    (h : ∀ item ∈ items, ∀ t, ofJson? item = .ok t → t.size = item.elements.length)
    (hread : items.mapM ofJson? = .ok trees) :
    Tree.sizes trees = (items.flatMap Json.elements).length := by
  have hitems := mapM_eq_ok_iff.1 hread
  clear hread
  induction hitems with
  | nil => rfl
  | @cons item t items trees ht hitems ih =>
    obtain ⟨hitem, hrest⟩ := List.forall_mem_cons.1 h
    rw [Tree.sizes, hitem t ht, ih hrest, List.flatMap_cons, List.length_append]

/-- **A tree that was read has an element for each object.** -/
theorem size_of_ofJson? (h : ofJson? j = .ok t) : t.size = j.elements.length := by
  induction j using Json.children_induction generalizing t with
  | step j ih =>
    cases j with
    | obj members =>
      obtain ⟨name, type, attributes, trees, -, -, -, hchildren, rfl⟩ := ofJson?_obj_eq_ok_iff.1 h
      have hsizes := sizes_of_mapM (fun item hitem t ht => ih members rfl item hitem ht)
        (childrenOfJson?_eq_ok_iff.1 hchildren).2
      rw [Tree.size, hsizes, Json.elements_obj, List.length_cons]
    | _ => cases h

end Tree

namespace Graph

variable {g : Graph} {roots : List ElementId} {i : ElementId}

/-! ### The elements below the roots -/

/-- The preorder of all elements consists of those below the roots. -/
theorem mem_preorder_all_iff : i ∈ g.preorder (fun _ => true) roots ↔ g.Below roots i := by
  have hdescends : g.Admits (fun _ => true) = g.Descends := by
    funext i j
    simp [Admits, Descends]
  simp [mem_preorder_iff, hdescends, Below]

/-- **The number of elements is that of the elements below the roots**, of which there are finitely
many. -/
theorem count_eq_ncard (g : Graph) (roots : List ElementId) :
    {i | g.Below roots i}.Finite ∧ g.count roots = {i | g.Below roots i}.ncard := by
  have hset : {i | g.Below roots i} =
      ((g.preorder (fun _ => true) roots).toFinset : Set ElementId) := by
    ext i
    simp [mem_preorder_all_iff]
  rw [hset, Set.ncard_coe_finset, List.toFinset_card_of_nodup nodup_preorder]
  exact ⟨Finset.finite_toSet _, rfl⟩

/-! ### The other end of the stack -/

/-- One pass of the loop that counts: the last number is taken off the stack, and unless it was seen
its element is, and its children are put at the end. -/
def passLast (g : Graph) : List ElementId × List ElementId → List ElementId × List ElementId
  | (seen, stack) =>
    match stack.getLast? with
    | none => (seen, [])
    | some i =>
      if i ∈ seen then (seen, stack.dropLast)
      else (seen ++ [i], stack.dropLast ++ g.children i)

/-- The graph with all children in the opposite order. -/
def mirror (g : Graph) : Graph :=
  ⟨g.elements.map fun e => { e with children := e.children.reverse }⟩

@[simp] theorem children_mirror (g : Graph) (i : ElementId) :
    g.mirror.children i = (g.children i).reverse := by
  simp only [children, get, mirror, Array.getD_eq_getD_getElem?, Array.getElem?_map]
  cases g.elements[i]? <;> rfl

/-- The same elements are below the roots of the mirrored graph. -/
theorem below_mirror_iff : g.mirror.Below roots.reverse i ↔ g.Below roots i := by
  have hdescends : g.mirror.Descends = g.Descends := by
    funext i j
    simp [Descends]
  simp [Below, hdescends]

/-- Taking the last of a stack is taking the first of the opposite one, in the mirrored graph. -/
theorem passLast_reverse (g : Graph) (p : List ElementId × List ElementId) :
    g.passLast (p.1, p.2.reverse) =
      ((g.mirror.pass (fun _ => true) p).1, (g.mirror.pass (fun _ => true) p).2.reverse) := by
  obtain ⟨seen, stack⟩ := p
  cases stack with
  | nil => rfl
  | cons i rest =>
    by_cases hi : i ∈ seen
    · simp [passLast, pass, hi]
    · simp [passLast, pass, hi]

/-- **The loop that takes the last first comes to its end**, with as many elements. -/
theorem exists_iterate_passLast (g : Graph) (roots : List ElementId) :
    ∃ n seen, g.passLast^[n] ([], roots) = (seen, []) ∧ seen.length = g.count roots := by
  let turned : List ElementId × List ElementId → List ElementId × List ElementId :=
    fun p => (p.1, p.2.reverse)
  have hturned : Function.Semiconj turned (g.mirror.pass fun _ => true) g.passLast := fun p =>
    (passLast_reverse g p).symm
  obtain ⟨n, hloop⟩ := (g.mirror.depthFirst_preorder (fun _ => true) roots.reverse).loop
  refine ⟨n, g.mirror.preorder (fun _ => true) roots.reverse, ?_, ?_⟩
  · have h := hturned.iterate_right n ([], roots.reverse)
    rw [hloop] at h
    simpa [turned] using h.symm
  · have hmem : ∀ i, i ∈ g.mirror.preorder (fun _ => true) roots.reverse ↔
        i ∈ g.preorder (fun _ => true) roots := fun i => by
      rw [mem_preorder_all_iff, mem_preorder_all_iff, below_mirror_iff]
    exact ((List.perm_ext_iff_of_nodup nodup_preorder nodup_preorder).2 hmem).length_eq

/-! ### Documents -/

/-- Trees are counted element by element, whatever was in the graph before. -/
theorem count_addTrees (before : Graph) (trees : List Tree) :
    (before.addTrees trees).1.count (before.addTrees trees).2 = Tree.sizes trees :=
  (visitsBlock_addTrees before trees [] ⟨Nat.le_refl _, fun _ _ => rfl⟩ (by simp)).count_eq

/-- **The number of elements is that of the elements below the roots.**  In every graph these are
finitely many; the loop that counts them comes to its end and has seen as many.  If the roots were
read from a document, there is one for each object that stands for an element. -/
theorem count_elements (g : Graph) (roots : List ElementId) :
    {i | g.Below roots i}.Finite ∧ g.count roots = {i | g.Below roots i}.ncard ∧
    (∃ n seen, g.passLast^[n] ([], roots) = (seen, []) ∧ seen.length = g.count roots) ∧
    ∀ document trees, Tree.ofDocument? document = .ok trees →
      ∃ items, document.Roots items ∧ (g.addTrees trees).1.count (g.addTrees trees).2 =
        (items.flatMap Json.elements).length := by
  obtain ⟨hfinite, hcount⟩ := count_eq_ncard g roots
  refine ⟨hfinite, hcount, exists_iterate_passLast g roots, fun document trees hread => ?_⟩
  obtain ⟨items, hroots, htrees⟩ := Tree.ofDocument?_eq_ok_iff.1 hread
  refine ⟨items, hroots, ?_⟩
  rw [count_addTrees, Tree.sizes_of_mapM (fun _ _ _ => Tree.size_of_ofJson?) htrees]

/-- A buyer and a seller who know each other and share an address, which is primitive. -/
def partners : Graph :=
  ⟨#[{ name := .str "buyer", type := .str "party", children := [1, 2] },
    { name := .str "seller", type := .str "party", children := [2, 0, 2] },
    { name := .str "address", type := .str "string" }]⟩

theorem searches_partners : partners.Searches (fun _ => true) [] [1, 0, 1] [1, 2, 0] := by
  refine .visit (by decide) rfl ?seller (.pass (by decide) (.pass (by decide) .nil))
  refine .visit (by decide) rfl .nil (.visit (by decide) rfl ?buyer (.pass (by decide) .nil))
  exact .pass (by decide) (.pass (by decide) .nil)

/-- The three of them count once each, and so do the two elements of a document that is read after
them. -/
theorem count_elements_partners :
    {i | partners.Below [1, 0, 1] i}.ncard = 3 ∧
    Tree.ofDocument? orderDocument = .ok [orderTree] ∧
    (partners.addTrees [orderTree]).1.count (partners.addTrees [orderTree]).2 = 2 := by
  obtain ⟨-, hcount, -, hread⟩ := count_elements partners [1, 0, 1]
  have hdocument : Tree.ofDocument? orderDocument = .ok [orderTree] := rfl
  refine ⟨?_, hdocument, ?_⟩
  · rw [← hcount, count, ← searches_iff.1 searches_partners]
    rfl
  · obtain ⟨items, hroots, h⟩ := hread orderDocument [orderTree] hdocument
    cases hroots with
    | object hnone => cases hnone
    | roots hsome =>
      cases hsome
      rw [h]
      simp [orderObject, Json.elements_obj, given, itemsOf, Json.lookup, Json.entry, Option.filter,
        Json.truthy]

end Graph

end SchemaStructs
