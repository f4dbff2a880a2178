import SchemaStructs.Proofs.Generator.Clean
import SchemaStructs.Proofs.Schema.Forest
import SchemaStructs.Proofs.Walk.Conflict
import SchemaStructs.Schema.Document

/-!
# Structs that contain themselves

A struct *embeds* another one when it has a field that holds one value of the other
(`Walk.Embeds`).  A document has no cycles of elements, yet the structs of a clean run can embed
themselves, in three ways (`Walk.embedded_in_itself`): a field can be of the type of an element that
it does not belong to, two raw names can have one Go name, and an element that is not descended into
can hide another shape of its name.

* `Walk.not_embedded_in_itself`: these ways are all.  There is no cycle of fields that have the type
  of their own element (`Walk.Unambiguous.own`), which no other declaration has
  (`Walk.Unambiguous.alone`), where the elements of the raw name have one shape
  (`Walk.Unambiguous.settled`).

The proof follows a cycle of structs through the document.  An element *stands* for a struct when it
has the raw name that the struct is declared for (`Walk.Stands`).  As the elements of this name have
one shape, each of them contains an element that stands for the embedded struct, and so on without
end.
-/

namespace SchemaStructs

namespace Walk

open Relation

variable {gen : Generator} {g : Graph} {roots : List ElementId} {events : List Event}
variable {S T : Text} {c i : ElementId} {d : Declaration}

/-- The struct of the type `S` has a field for its child `c`, and the field holds one value of the
declared type `T`. -/
structure Embeds (gen : Generator) (g : Graph) (events : List Event) (S T : Text) (c : ElementId) :
    Prop where
  /-- The child is one of the element that is declared as `S`. -/
  owner : ∃ d ∈ declarations events, d.typeName = S ∧ c ∈ g.children d.element
  /-- The field is no list. -/
  single : (g.get c).repeated.truthy = false
  /-- The field refers to a struct. -/
  inner : g.isPrimitive c = false
  /-- The field is of the type `T`. -/
  type : gen.typeName? (g.get c).fieldType = .ok T
  /-- The type is declared. -/
  declared : T ∈ declaredTypes events

/-- What the field for the child `c` refers to, a struct of the type `T`, is the child itself. -/
structure Unambiguous (gen : Generator) (g : Graph) (roots : List ElementId) (events : List Event)
    (T : Text) (c : ElementId) : Prop where
  /-- The type is the one of the raw name of the child. -/
  own : gen.typeName? (g.rawName c) = .ok T
  /-- The type is declared once. -/
  alone : ∀ d ∈ declarations events, ∀ d' ∈ declarations events,
    d.typeName = T → d'.typeName = T → d.name = d'.name
  /-- The elements of the raw name have one shape. -/
  settled : ∀ i j, g.Reachable roots i → g.Reachable roots j → g.rawName i = g.rawName c →
    g.rawName j = g.rawName c → (g.shape i).alike (g.shape j) = true

/-- The element has the raw name of every declaration of the type, and the shape of their
elements. -/
structure Stands (g : Graph) (roots : List ElementId) (events : List Event) (T : Text)
    (i : ElementId) : Prop where
  /-- The element is reachable. -/
  reachable : g.Reachable roots i
  /-- What is declared as `T` has the same name and shape. -/
  alike : ∀ d ∈ declarations events, d.typeName = T →
    (g.shape i).alike (g.shape d.element) = true

/-- An element of the raw name of an unambiguous field stands for the type of the field. -/
theorem Unambiguous.stands (h : Unambiguous gen g roots (gen.walk g roots).events T c)
    (hvis : isVisited (gen.walk g roots).events (g.rawName c) = true) (hi : g.Reachable roots i)
    (hname : g.rawName i = g.rawName c) : Stands g roots (gen.walk g roots).events T i := by
  have hv := valid_walk gen g roots
  refine ⟨hi, fun d hd htype => ?_⟩
  obtain ⟨e, he, hec⟩ := hv.exists_declaration hvis
  have hetype := (declare_eq_ok (declaration?_eq_ok (hv.genuine e he)).1).2
  rw [hec, h.own] at hetype
  -- the name of `c` is declared by `e`, and only one name is declared as `T`
  have hde : d.name = e.name := h.alone d hd e he htype (Except.ok.inj hetype).symm
  refine h.settled i d.element hi (hv.reachable d hd) hname ?_
  rw [hv.rawName_element hd, hde, ← hv.rawName_element he, hec]

/-- The child of an embedding is reachable, and its name is declared. -/
theorem Embeds.child (h : Embeds gen g (gen.walk g roots).events S T c)
    (ho : (gen.walk g roots).failure = none) :
    g.Reachable roots c ∧ isVisited (gen.walk g roots).events (g.rawName c) = true := by
  obtain ⟨d, hd, -, hc⟩ := h.owner
  exact ⟨((valid_walk gen g roots).reachable d hd).child hc h.inner,
    isVisited_of_mem_occurrences ho
      (mem_occurrences_iff.2 ⟨.inr ⟨d.element, mem_elements_iff.2 ⟨d, hd, rfl⟩, hc⟩, h.inner⟩)⟩

/-- **An element that stands for a struct contains one for each struct that is embedded
unambiguously.** -/
theorem Stands.step (hi : Stands g roots (gen.walk g roots).events S i)
    (htextual : ∀ i, g.Occurs roots i → (g.get i).Textual)
    (ho : (gen.walk g roots).failure = none) (h : Embeds gen g (gen.walk g roots).events S T c)
    (hc : Unambiguous gen g roots (gen.walk g roots).events T c) :
    ∃ j, g.Contains i j ∧ Stands g roots (gen.walk g roots).events T j := by
  obtain ⟨d, hd, htype, hchild⟩ := h.owner
  have hreach := (valid_walk gen g roots).reachable d hd
  have hshape : (g.shape d.element).Textual :=
    Graph.shape_textual (htextual _ hreach.occurs) fun k hk =>
      htextual k (hreach.occurs_child k hk)
  -- `i` has the shape of the declared element, so it has a child of the raw name of `c`, too
  have hnames := Graph.map_rawName_inner_eq (hi.alike d hd htype) hshape
  have hmem : g.rawName c ∈ (g.inner (g.children i)).map g.rawName :=
    hnames ▸ List.mem_map_of_mem (List.mem_filter.2 ⟨hchild, by rw [h.inner]; rfl⟩)
  obtain ⟨j, hj, hname⟩ := List.mem_map.1 hmem
  obtain ⟨hj, hp⟩ := List.mem_filter.1 hj
  have hij : g.Contains i j := ⟨hj, hi.reachable.isPrimitive_eq, by simpa using hp⟩
  exact ⟨j, hij, hc.stands (h.child ho).2 (hi.reachable.contained hij) hname⟩

/-- The struct of the type `S` embeds the one of the type `T` by an unambiguous field. -/
def EmbedsOwn (gen : Generator) (g : Graph) (roots : List ElementId) (S T : Text) : Prop :=
  ∃ c, Embeds gen g (gen.walk g roots).events S T c ∧
    Unambiguous gen g roots (gen.walk g roots).events T c

/-- What unambiguous fields lead to is contained in the elements that stand for a struct. -/
theorem Stands.run (hi : Stands g roots (gen.walk g roots).events S i)
    (htextual : ∀ i, g.Occurs roots i → (g.get i).Textual)
    (ho : (gen.walk g roots).failure = none) (h : TransGen (EmbedsOwn gen g roots) S T) :
    ∃ j, TransGen g.Contains i j ∧ Stands g roots (gen.walk g roots).events T j := by
  induction h with
  | single h =>
    obtain ⟨c, hembeds, hc⟩ := h
    obtain ⟨j, hij, hj⟩ := hi.step htextual ho hembeds hc
    exact ⟨j, .single hij, hj⟩
  | tail _ h ih =>
    obtain ⟨c, hembeds, hc⟩ := h
    obtain ⟨k, hik, hk⟩ := ih
    obtain ⟨j, hkj, hj⟩ := hk.step htextual ho hembeds hc
    exact ⟨j, hik.tail hkj, hj⟩

/-- **Unambiguous fields have no cycles** in a clean run of a schema without cycles. -/
theorem not_transGen_embedsOwn (hg : g.Acyclic roots)
    (htextual : ∀ i, g.Occurs roots i → (g.get i).Textual)
    (ho : (gen.walk g roots).failure = none) (T : Text) :
    ¬ TransGen (EmbedsOwn gen g roots) T T := by
  intro hcycle
  -- no element stands for the struct, as each such element would contain another one
  have hnone : ∀ i, Acc (fun j i => g.Contains i j) i →
      ¬ Stands g roots (gen.walk g roots).events T i := by
    intro i hacc
    have hbelow := hacc.transGen
    clear hacc
    induction hbelow with
    | intro i _ ih =>
      intro hi
      obtain ⟨j, hij, hj⟩ := hi.run htextual ho hcycle
      exact ih j (transGen_swap.2 hij) hj
  obtain ⟨_, -, c, hembeds, hc⟩ := TransGen.tail'_iff.1 hcycle
  obtain ⟨hreach, hvis⟩ := hembeds.child ho
  exact hnone c (hg.acc hreach) (hc.stands hvis hreach rfl)

/-- **No struct of a document embeds itself by unambiguous fields.** -/
theorem not_embedded_in_itself (gen : Generator) (document : Json) (trees : List Tree) :
    Tree.ofDocument? document = .ok trees →
    (∀ i, (Graph.ofTrees trees).1.Occurs (Graph.ofTrees trees).2 i →
      ((Graph.ofTrees trees).1.get i).Textual) →
    gen.Clean (Graph.ofTrees trees).1 (Graph.ofTrees trees).2 →
    ∀ T, ¬ TransGen (EmbedsOwn gen (Graph.ofTrees trees).1 (Graph.ofTrees trees).2) T T :=
  fun _ htextual hclean =>
    not_transGen_embedsOwn (Graph.acyclic_ofTrees trees) htextual hclean.failure_eq

/-! ### Documents with structs that embed themselves -/

/-- The texts of a document are told by the elements of its graph. -/
theorem textual_of_elements (trees : List Tree)
    (h : ∀ e ∈ (Graph.ofTrees trees).1.elements.toList, e.Textual)
    (hi : (Graph.ofTrees trees).1.Occurs (Graph.ofTrees trees).2 i) :
    ((Graph.ofTrees trees).1.get i).Textual := by
  have hlt : i < (Graph.ofTrees trees).1.elements.size := Graph.lt_size_of_occurs trees hi
  rw [Graph.get, Array.getD_eq_getD_getElem?, Array.getElem?_eq_getElem hlt, Option.getD_some]
  exact h _ (Array.mem_toList_iff.2 (Array.getElem_mem hlt))

/-- A declared element has a child that is a field of the type of the element itself. -/
def hasOwnField (gen : Generator) (g : Graph) (events : List Event) : Bool :=
  (declarations events).any fun d => (g.children d.element).any fun c =>
    !(g.get c).repeated.truthy && !g.isPrimitive c &&
      (gen.typeName? (g.get c).fieldType).toOption == some d.typeName

theorem exists_embeds_of_hasOwnField (h : hasOwnField gen g events = true) :
    ∃ T c, Embeds gen g events T T c := by
  obtain ⟨d, hd, hfield⟩ := List.any_eq_true.1 h
  obtain ⟨c, hc, hfield⟩ := List.any_eq_true.1 hfield
  simp only [Bool.and_eq_true, Bool.not_eq_true', beq_iff_eq] at hfield
  obtain ⟨⟨hsingle, hinner⟩, htype⟩ := hfield
  refine ⟨d.typeName, c, ⟨d, hd, rfl, hc⟩, hsingle, hinner, ?_, List.mem_map_of_mem hd⟩
  cases ht : gen.typeName? (g.get c).fieldType with
  | error failure => rw [ht] at htype; cases htype
  | ok t => rw [ht] at htype; exact congrArg _ (Option.some.inj htype)

/-- What can be computed of a document whose run is clean and whose walk has a property. -/
def shownBy (gen : Generator) (p : Graph → Outcome → Bool) (trees : List Tree) : Bool :=
  let (g, roots) := Graph.ofTrees trees
  let o? := outcome? g gen.strategy (gen.printed g) 20 [] [] [roots]
  g.elements.toList.all (decide ·.Textual) && (gen.validate g roots).toOption == some [] &&
    o?.any (fun o => o.failure.isNone && (redefinitions o.events).isEmpty &&
      (gen.formatted (Text.joinWith "\n\n" (Generator.declarationTexts o.events)
        ++ ['\n'])).isOk) && o?.any (p g)

theorem of_shownBy (hgen : gen.Standard) (hpackage : gen.settings.packageName.truthy = false)
    {p : Graph → Outcome → Bool} {document : Json}
    (h : (Tree.ofDocument? document).toOption.any (shownBy gen p) = true) :
    ∃ trees, Tree.ofDocument? document = .ok trees ∧
      (∀ i, (Graph.ofTrees trees).1.Occurs (Graph.ofTrees trees).2 i →
        ((Graph.ofTrees trees).1.get i).Textual) ∧
      gen.Clean (Graph.ofTrees trees).1 (Graph.ofTrees trees).2 ∧
      p (Graph.ofTrees trees).1
        (gen.walk (Graph.ofTrees trees).1 (Graph.ofTrees trees).2) = true := by
  cases hd : Tree.ofDocument? document with
  | error fault => rw [hd] at h; cases h
  | ok trees =>
    rw [hd] at h
    have hshown : shownBy gen p trees = true := h
    simp only [shownBy, Bool.and_assoc, Bool.and_eq_true, beq_iff_eq, List.all_eq_true,
      decide_eq_true_eq] at hshown
    obtain ⟨htexts, hvalid, hclean, hp⟩ := hshown
    refine ⟨trees, rfl, fun i hi => textual_of_elements trees htexts hi,
      Generator.clean_of_outcome? hgen hpackage 20 hvalid ?_, walk_of_outcome? hgen 20 hp⟩
    simpa only [Bool.and_assoc] using hclean

open Json (entry)

/-- An element with a child of its own type. -/
def typedDocument : Json :=
  .obj [entry "name" (.str "tree"), entry "children" (.arr
    [.obj [entry "name" (.str "left"), entry "type" (.str "tree")]])]

/-- An element with a child of another raw name and the same Go name. -/
def dashedDocument : Json :=
  .obj [entry "name" (.str "foo-bar"), entry "children" (.arr
    [.obj [entry "name" (.str "fooBar")]])]

/-- An element with two more of its name inside, of which the inner one has another shape. -/
def nestedDocument : Json :=
  .obj [entry "name" (.str "folder"), entry "children" (.arr
    [.obj [entry "name" (.str "folder"), entry "children" (.arr
      [.obj [entry "name" (.str "folder")]])]])]

/-- The document is accepted, its names and types are texts, and its clean run has a struct that
embeds itself. -/
def EmbedsItself (document : Json) : Prop :=
  ∃ trees, Tree.ofDocument? document = .ok trees ∧
    (∀ i, (Graph.ofTrees trees).1.Occurs (Graph.ofTrees trees).2 i →
      ((Graph.ofTrees trees).1.get i).Textual) ∧
    (plainGenerator .first).Clean (Graph.ofTrees trees).1 (Graph.ofTrees trees).2 ∧
    ∃ T, TransGen (fun S T => ∃ c, Embeds (plainGenerator .first) (Graph.ofTrees trees).1
      ((plainGenerator .first).walk (Graph.ofTrees trees).1 (Graph.ofTrees trees).2).events S T c)
      T T

theorem embedsItself_of_shownBy {document : Json}
    (h : (Tree.ofDocument? document).toOption.any (shownBy (plainGenerator .first) fun g o =>
      hasOwnField (plainGenerator .first) g o.events) = true) : EmbedsItself document := by
  obtain ⟨trees, hd, htextual, hclean, hown⟩ :=
    of_shownBy (standard_plainGenerator .first) rfl h
  obtain ⟨T, c, h⟩ := exists_embeds_of_hasOwnField hown
  exact ⟨trees, hd, htextual, hclean, T, .single ⟨c, h⟩⟩

/-- **Structs of clean runs can embed themselves**, in three ways. -/
theorem embedded_in_itself :
    EmbedsItself typedDocument ∧ EmbedsItself dashedDocument ∧ EmbedsItself nestedDocument :=
  ⟨embedsItself_of_shownBy (by decide +kernel), embedsItself_of_shownBy (by decide +kernel),
    embedsItself_of_shownBy (by decide +kernel)⟩

/-! ### A document whose structs do not -/

/-- An order with an item that has a note. -/
def itemDocument : Json :=
  .obj [entry "name" (.str "order"), entry "children" (.arr
    [.obj [entry "name" (.str "item"), entry "children" (.arr
      [.obj [entry "name" (.str "note")]])]])]

/-- The order as a tree. -/
def itemTrees : List Tree :=
  [.node (.str "order") (.str "order") []
    [.node (.str "item") (.str "item") []
      [.node (.str "note") (.str "note") [] [] (.bool false) (.bool false)]
      (.bool false) (.bool false)]
    (.bool false) (.bool false)]

/-- The graph of the order: the note comes first. -/
abbrev itemGraph : Graph := (Graph.ofTrees itemTrees).1

theorem clean_itemGraph : (plainGenerator .first).Clean itemGraph [2] :=
  Generator.clean_of_outcome? (standard_plainGenerator .first) rfl 20 (by decide +kernel)
    (by decide +kernel)

theorem textual_itemGraph (h : itemGraph.Occurs [2] i) : (itemGraph.get i).Textual :=
  textual_of_elements itemTrees (by decide) h

/-- The element, the raw name and the Go name of a declaration. -/
def row (d : Declaration) : ElementId × Text × Text := (d.element, d.name, d.typeName)

/-- What the walk of the order declares: every element under its raw name. -/
def itemRows : List (ElementId × Text × Text) :=
  [(2, "order", "order"), (1, "item", "item"), (0, "note", "note")]

theorem declarations_itemGraph :
    (declarations ((plainGenerator .first).walk itemGraph [2]).events).map row = itemRows :=
  beq_iff_eq.1 (walk_of_outcome? (p := fun o => (declarations o.events).map row == itemRows)
    (standard_plainGenerator .first) 20 (by decide +kernel))

/-- The struct of the order embeds that of the item unambiguously. -/
theorem embedsOwn_itemGraph : EmbedsOwn (plainGenerator .first) itemGraph [2] "order" "item" := by
  have hdeclared : ∀ r ∈ itemRows,
      ∃ d ∈ declarations ((plainGenerator .first).walk itemGraph [2]).events, row d = r :=
    fun r hr => List.mem_map.1 (declarations_itemGraph ▸ hr)
  have hsame : ∀ d ∈ declarations ((plainGenerator .first).walk itemGraph [2]).events,
      d.name = d.typeName := by
    have hrows : ∀ r ∈ itemRows, r.2.1 = r.2.2 := by decide
    exact fun d hd => hrows (row d) (declarations_itemGraph ▸ List.mem_map_of_mem hd)
  obtain ⟨order, horder, hrow⟩ := hdeclared (2, "order", "order") (by decide)
  obtain ⟨item, hitem, hrow'⟩ := hdeclared (1, "item", "item") (by decide)
  simp only [row, Prod.mk.injEq] at hrow hrow'
  refine ⟨1, ⟨⟨order, horder, hrow.2.2, by rw [hrow.1]; decide⟩, rfl, rfl, rfl,
    List.mem_map.2 ⟨item, hitem, hrow'.2.2⟩⟩, rfl, fun d hd d' hd' ht ht' => ?_,
    fun i j hi hj hni hnj => ?_⟩
  · rw [hsame d hd, hsame d' hd', ht, ht']
  · have hone : ∀ i, itemGraph.Reachable [2] i → itemGraph.rawName i = itemGraph.rawName 1 →
        i = 1 := by
      have hnames : ∀ i < 3, itemGraph.rawName i = itemGraph.rawName 1 → i = 1 := by
        intro i hi hname
        match i, hi with
        | 0, _ => cases hname
        | 1, _ => rfl
        | 2, _ => cases hname
      exact fun i hi => hnames i (Graph.lt_size_of_occurs itemTrees hi.occurs)
    rw [hone i hi hni, hone j hj hnj]
    exact Shape.alike_refl _

theorem not_embedded_in_itself_itemGraph :
    Tree.ofDocument? itemDocument = .ok itemTrees ∧
    (∀ i, itemGraph.Occurs [2] i → (itemGraph.get i).Textual) ∧
    (plainGenerator .first).Clean itemGraph [2] ∧
    EmbedsOwn (plainGenerator .first) itemGraph [2] "order" "item" ∧
    ∀ T, ¬ TransGen (EmbedsOwn (plainGenerator .first) itemGraph [2]) T T :=
  ⟨rfl, fun _ => textual_itemGraph, clean_itemGraph, embedsOwn_itemGraph,
    not_embedded_in_itself (plainGenerator .first) itemDocument itemTrees rfl
      (fun _ => textual_itemGraph) clean_itemGraph⟩

end Walk

end SchemaStructs
