import SchemaStructs.Proofs.Schema.Copy

/-!
# The canonical document of an element

The document that is written for an element that was read need not be the one it was read from:
defaults are filled in and false values are left out.  Reading it again gives an element that
nothing tells from the first (`Graph.Twins`), so it is the canonical form of all documents that are
read as this element.

* `Graph.AddedFor.tree_eq`: an element that was added for a tree unfolds to this tree;
* `Graph.AddedFor.count_eq`: and there are as many elements at and below it as the tree has.  The
  elements of a tree have consecutive numbers, and a traversal visits each of them once
  (`Graph.VisitsBlock`);
* `Tree.reread`: the canonical document is read as a twin, whose canonical document is the same.
-/

namespace SchemaStructs

namespace Graph

variable {g h before : Graph} {t : Tree} {trees : List Tree} {i j : ElementId}
variable {is js seen : List Nat} {lo m n : Nat}

/-! ### Numbers of elements -/

mutual

/-- A graph grows by the elements of a tree. -/
@[simp] theorem size_addTree (g : Graph) (t : Tree) : (g.addTree t).1.size = g.size + t.size := by
  obtain ⟨name, type, attributes, children, repeated, characterData⟩ := t
  rw [addTree, size_add, size_addTrees g children, Tree.size, Nat.add_assoc]

/-- A graph grows by the elements of trees. -/
@[simp] theorem size_addTrees (g : Graph) (trees : List Tree) :
    (g.addTrees trees).1.size = g.size + Tree.sizes trees := by
  match trees with
  | [] => rfl
  | t :: rest =>
    simp only [addTrees]
    rw [size_addTrees _ rest, size_addTree g t, Tree.sizes, Nat.add_assoc]

end

/-- The element was added to some graph for the tree, and nothing has changed since but for
elements that were added later. -/
def AddedFor (g : Graph) (t : Tree) (i : ElementId) : Prop :=
  ∃ before : Graph, (before.addTree t).2 = i ∧ Extends (before.addTree t).1 g

theorem addedFor_addTree (g : Graph) (t : Tree) : (g.addTree t).1.AddedFor t (g.addTree t).2 :=
  ⟨g, rfl, Nat.le_refl _, fun _ _ => rfl⟩

theorem AddedFor.depicts (hi : g.AddedFor t i) : g.Depicts t i := by
  obtain ⟨before, rfl, hg⟩ := hi
  exact (depicts_addTree before t).2.mono hg

theorem AddedFor.size_le (hi : g.AddedFor t i) : t.size ≤ g.size := by
  obtain ⟨before, -, hg⟩ := hi
  have hsize := hg.size_le
  rw [size_addTree] at hsize
  omega

/-- The elements of trees that were added together were each added for its tree. -/
theorem forall₂_addedFor (hg : Extends (before.addTrees trees).1 g) :
    List.Forall₂ g.AddedFor trees (before.addTrees trees).2 := by
  induction trees generalizing before with
  | nil => exact .nil
  | cons t rest ih =>
    simp only [addTrees] at hg ⊢
    exact .cons ⟨before, rfl, (depicts_addTrees _ rest).1.trans hg⟩ (ih hg)

/-- The children of an element that was added are the elements that were added for the trees
below. -/
theorem children_of_extends {name type : Json} {attributes : List Attribute}
    {repeated characterData : Json}
    (hg : Extends
      (before.addTree (.node name type attributes trees repeated characterData)).1 g) :
    g.children (before.addTree (.node name type attributes trees repeated characterData)).2 =
      (before.addTrees trees).2 := by
  have hlt : (before.addTree (.node name type attributes trees repeated characterData)).2 <
      (before.addTree (.node name type attributes trees repeated characterData)).1.size := by
    rw [addTree, size_add]
    exact Nat.lt_succ_self _
  rw [Graph.children, hg.get_eq _ hlt, addTree, get_add]
  simp only [add, if_pos]

theorem AddedFor.children {name type : Json} {attributes : List Attribute}
    {repeated characterData : Json}
    (hi : g.AddedFor (.node name type attributes trees repeated characterData) i) :
    List.Forall₂ g.AddedFor trees (g.children i) := by
  obtain ⟨before, rfl, hg⟩ := hi
  rw [children_of_extends hg]
  rw [addTree] at hg
  exact forall₂_addedFor ((extends_add _ _).trans hg)

/-! ### Unfolding -/

mutual

/-- An unfolding that is cut below the depth of the tree is the tree. -/
theorem Depicts.treeTo_eq {t : Tree} {i : ElementId} {depth : Nat} (ht : g.Depicts t i)
    (hdepth : t.size ≤ depth + 1) : g.treeTo depth i = t := by
  match t, ht with
  | .node name type attributes children repeated characterData, ⟨_, hbare, hchildren⟩ =>
    simp only [Element.bare, Element.mk.injEq] at hbare
    obtain ⟨rfl, rfl, rfl, -, rfl, rfl⟩ := hbare
    rw [Tree.size] at hdepth
    cases depth with
    | zero =>
      match children, hdepth with
      | [], _ => rw [treeTo]
      | .node .. :: rest, hdepth =>
        rw [Tree.sizes, Tree.size] at hdepth
        omega
    | succ depth =>
      rw [treeTo, ← Graph.children, hchildren.map_treeTo_eq (Nat.le_of_succ_le_succ hdepth)]

/-- Unfoldings that are cut below the depth of the trees are the trees. -/
theorem DepictsAll.map_treeTo_eq {trees : List Tree} {is : List ElementId} {depth : Nat}
    (ht : g.DepictsAll trees is) (hdepth : Tree.sizes trees ≤ depth + 1) :
    is.map (g.treeTo depth) = trees := by
  match trees, is, ht with
  | [], is, ht =>
    obtain rfl : is = [] := ht
    rfl
  | t :: rest, i :: is, ht =>
    rw [Tree.sizes] at hdepth
    rw [List.map_cons, ht.1.treeTo_eq (by omega), ht.2.map_treeTo_eq (by omega)]

end

/-- **An element that was added for a tree unfolds to it.** -/
theorem AddedFor.tree_eq (hi : g.AddedFor t i) : g.tree i = t :=
  hi.depicts.treeTo_eq (Nat.le_succ_of_le hi.size_le)

/-! ### Counting -/

/-- For the elements on top of a stack, a traversal visits `n` elements with numbers from `lo` on,
whatever comes below them. -/
def VisitsBlock (g : Graph) (lo n : Nat) (seen is : List Nat) : Prop :=
  ∃ out : List Nat, out.length = n ∧ (∀ i ∈ out, lo ≤ i ∧ i < lo + n) ∧
    ∀ rest, g.preorderFrom (fun _ => true) seen (is ++ rest) =
      out ++ g.preorderFrom (fun _ => true) (out.reverse ++ seen) rest

theorem visitsBlock_nil : g.VisitsBlock lo 0 seen [] :=
  ⟨[], rfl, by simp, fun _ => rfl⟩

/-- One block is visited after another. -/
theorem VisitsBlock.append (hfirst : g.VisitsBlock lo m seen is)
    (hrest : ∀ out : List Nat, (∀ i ∈ out, i < lo + m) →
      g.VisitsBlock (lo + m) n (out ++ seen) js) :
    g.VisitsBlock lo (m + n) seen (is ++ js) := by
  obtain ⟨out, hlength, hout, hvisits⟩ := hfirst
  obtain ⟨out', hlength', hout', hvisits'⟩ :=
    hrest out.reverse fun i hi => (hout i (List.mem_reverse.1 hi)).2
  refine ⟨out ++ out', by rw [List.length_append, hlength, hlength'], ?_, fun rest => ?_⟩
  · intro i hi
    rcases List.mem_append.1 hi with hi | hi
    · have := hout i hi
      omega
    · have := hout' i hi
      omega
  · rw [List.append_assoc, hvisits, hvisits', List.append_assoc, List.reverse_append,
      List.append_assoc]

/-- An element is visited before its children, which have the numbers right below its own. -/
theorem VisitsBlock.visit (hi : lo + n ∉ seen)
    (hchildren : g.VisitsBlock lo n ((lo + n) :: seen) (g.children (lo + n))) :
    g.VisitsBlock lo (n + 1) seen [lo + n] := by
  obtain ⟨out, hlength, hout, hvisits⟩ := hchildren
  refine ⟨(lo + n) :: out, by rw [List.length_cons, hlength], ?_, fun rest => ?_⟩
  · refine List.forall_mem_cons.2 ⟨⟨Nat.le_add_right _ _, Nat.lt_succ_self _⟩, fun i hi => ?_⟩
    exact ⟨(hout i hi).1, Nat.lt_succ_of_lt (hout i hi).2⟩
  · rw [List.singleton_append, preorderFrom, dif_neg hi, if_pos rfl, hvisits, List.cons_append,
      List.reverse_cons, List.append_assoc, List.singleton_append]

mutual

/-- The elements of a tree are visited as a block, if none of them was seen. -/
theorem visitsBlock_addTree (before : Graph) (t : Tree) (seen : List Nat)
    (hg : Extends (before.addTree t).1 g)
    (hseen : ∀ i ∈ seen, i < before.size ∨ before.size + t.size ≤ i) :
    g.VisitsBlock before.size t.size seen [(before.addTree t).2] := by
  obtain ⟨name, type, attributes, children, repeated, characterData⟩ := t
  have hroot : (before.addTree (.node name type attributes children repeated characterData)).2 =
      before.size + Tree.sizes children := by
    rw [addTree]
    exact size_addTrees before children
  rw [Tree.size] at hseen ⊢
  rw [hroot]
  refine .visit (fun hmem => ?_) ?_
  · have := hseen _ hmem
    omega
  · rw [← hroot, children_of_extends hg, hroot]
    rw [addTree] at hg
    refine visitsBlock_addTrees before children _ ((extends_add _ _).trans hg) ?_
    refine List.forall_mem_cons.2 ⟨.inr (Nat.le_refl _), fun i hi => ?_⟩
    have := hseen i hi
    omega

/-- The elements of trees are visited as a block, if none of them was seen. -/
theorem visitsBlock_addTrees (before : Graph) (trees : List Tree) (seen : List Nat)
    (hg : Extends (before.addTrees trees).1 g)
    (hseen : ∀ i ∈ seen, i < before.size ∨ before.size + Tree.sizes trees ≤ i) :
    g.VisitsBlock before.size (Tree.sizes trees) seen (before.addTrees trees).2 := by
  match trees with
  | [] => exact visitsBlock_nil
  | t :: rest =>
    simp only [addTrees] at hg ⊢
    rw [Tree.sizes] at hseen ⊢
    refine (visitsBlock_addTree before t seen ((depicts_addTrees _ rest).1.trans hg) ?_).append ?_
    · intro i hi
      have := hseen i hi
      omega
    · intro out hout
      have hblock := visitsBlock_addTrees (before.addTree t).1 rest (out ++ seen) hg ?_
      · rwa [size_addTree] at hblock
      · intro i hi
        rw [size_addTree]
        rcases List.mem_append.1 hi with hi | hi
        · exact .inl (hout i hi)
        · have := hseen i hi
          omega

end

/-- A block of which nothing was seen is counted whole. -/
theorem VisitsBlock.count_eq (h : g.VisitsBlock lo n [] is) : g.count is = n := by
  obtain ⟨out, hlength, -, hvisits⟩ := h
  have hout := hvisits []
  rw [List.append_nil] at hout
  rw [count, preorder, hout, preorderFrom, List.append_nil, hlength]

/-- **There are as many elements at and below an element that was added for a tree** as the tree
has. -/
theorem AddedFor.count_eq (hi : g.AddedFor t i) : g.count [i] = t.size := by
  obtain ⟨before, rfl, hg⟩ := hi
  exact (visitsBlock_addTree before t [] hg (by simp)).count_eq

/-! ### Twins -/

/-- Nothing tells the element `j` of the graph `h` from the element `i` of `g`: their own parts are
the same and their children are twins one by one, so are their shapes and the numbers of elements
below them, and both are primitive or neither is. -/
inductive Twins (g h : Graph) : ElementId → ElementId → Prop
  | intro {i j : ElementId} (bare : (g.get i).bare = (h.get j).bare)
      (children : List.Forall₂ (Twins g h) (g.children i) (h.children j))
      (shape : g.shape i = h.shape j) (isPrimitive : g.isPrimitive i = h.isPrimitive j)
      (count : g.count [i] = h.count [j]) : Twins g h i j

mutual

/-- **Two elements that were added for one tree are twins.** -/
theorem AddedFor.twins {t : Tree} {i j : ElementId} (hi : g.AddedFor t i) (hj : h.AddedFor t j) :
    g.Twins h i j := by
  match t with
  | .node name type attributes children repeated characterData =>
    have hcopies : g.Copies h i j := ⟨_, hi.depicts, hj.depicts⟩
    have hprimitive : (g.get i).bare.isPrimitive = (h.get j).bare.isPrimitive := by
      rw [hcopies.bare_eq]
    exact .intro hcopies.bare_eq (forall₂_twins hi.children hj.children) hcopies.shape_eq
      hprimitive (hi.count_eq.trans hj.count_eq.symm)

/-- Elements that were added for the same trees are twins one by one. -/
theorem forall₂_twins {trees : List Tree} {is js : List ElementId}
    (his : List.Forall₂ g.AddedFor trees is) (hjs : List.Forall₂ h.AddedFor trees js) :
    List.Forall₂ (g.Twins h) is js := by
  match trees, his, hjs with
  | [], .nil, .nil => exact .nil
  | _ :: _, .cons hi his, .cons hj hjs => exact .cons (hi.twins hj) (forall₂_twins his hjs)

end

end Graph

namespace Tree

/-- **The document of an element that was read is its canonical form**: it is read, wherever the
result is put, as a twin of the element, and that twin has the same document. -/
theorem reread (g h : Graph) {document : Json} {t : Tree} (hread : ofJson? document = .ok t) :
    ∃ t', ofJson? ((g.addTree t).1.tree (g.addTree t).2).toJson = .ok t' ∧
      (g.addTree t).1.Twins (h.addTree t').1 (g.addTree t).2 (h.addTree t').2 ∧
      ((h.addTree t').1.tree (h.addTree t').2).toJson =
        ((g.addTree t).1.tree (g.addTree t).2).toJson := by
  have hg := Graph.addedFor_addTree g t
  have hh := Graph.addedFor_addTree h t
  rw [hg.tree_eq]
  refine ⟨t, ofJson?_toJson t (readable_of_ofJson? hread), hg.twins hh, ?_⟩
  rw [hh.tree_eq]

section Sparse

open Json (entry)

/-- A document with a type that is left out and one that is empty, an attribute without a type,
flags that are no truth values, and two children of one name. -/
def sparse : Json :=
  .obj [entry "name" (.str "order"), entry "list" (.int 1),
    entry "attribs" (.arr [.obj [entry "name" (.str "id")]]),
    entry "children" (.arr
      [.obj [entry "name" (.str "line"), entry "type" (.str ""), entry "cdata" (.str "yes")],
        .obj [entry "children" .null, entry "name" (.str "line"), entry "type" (.str "int")]])]

/-- What is read from that document. -/
def filled : Tree :=
  .node (.str "order") (.str "order") [⟨.str "id", .str "string"⟩]
    [.node (.str "line") (.str "line") [] [] (.bool false) (.bool true),
      .node (.str "line") (.str "int") [] [] (.bool false) (.bool false)]
    (.bool true) (.bool false)

theorem ofJson?_sparse : ofJson? sparse = .ok filled := by
  rfl

/-- The sparse document is not the canonical one. -/
theorem reread_sparse :
    ofJson? sparse = .ok filled ∧ filled.toJson ≠ sparse ∧
      ∃ t', ofJson? ((({} : Graph).addTree filled).1.tree (({} : Graph).addTree filled).2).toJson =
          .ok t' ∧
        (({} : Graph).addTree filled).1.Twins (({} : Graph).addTree t').1
          (({} : Graph).addTree filled).2 (({} : Graph).addTree t').2 ∧
        ((({} : Graph).addTree t').1.tree (({} : Graph).addTree t').2).toJson =
          ((({} : Graph).addTree filled).1.tree (({} : Graph).addTree filled).2).toJson := by
  refine ⟨ofJson?_sparse, fun h => ?_, reread {} {} ofJson?_sparse⟩
  simp [filled, sparse, toJson, flagMember, entry] at h

end Sparse

end Tree

end SchemaStructs
