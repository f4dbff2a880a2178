import SchemaStructs.Schema.Element

/-!
# Schema trees

A tree of elements, as a document holds it: no element is shared.  `Graph.addTree` puts a tree into
a graph with a fresh element for every node, and `Graph.tree` unfolds a graph from an element, with
a copy of a shared element at every place where it occurs.
-/

namespace SchemaStructs

/-- An element with all that is below it. -/
inductive Tree where
  /-- The parts of the element, with the trees of its children. -/
  | node (name type : Json) (attributes : List Attribute) (children : List Tree)
      (repeated characterData : Json)
  deriving Inhabited

namespace Graph

mutual

/-- The graph with the elements of a tree, and the number of its root.  Children come first. -/
def addTree (g : Graph) : Tree → Graph × ElementId
  | .node name type attributes children repeated characterData =>
    let (g, ids) := addTrees g children
    g.add { name, type, attributes, children := ids, repeated, characterData }

/-- The graph with the elements of several trees, and the numbers of their roots. -/
def addTrees (g : Graph) : List Tree → Graph × List ElementId
  | [] => (g, [])
  | tree :: rest =>
    let (g, id) := addTree g tree
    let (g, ids) := addTrees g rest
    (g, id :: ids)

end

/-- The graph of some trees, and the numbers of their roots. -/
def ofTrees (trees : List Tree) : Graph × List ElementId := addTrees {} trees

/-- The tree below an element, cut at the given depth. -/
def treeTo (g : Graph) : Nat → ElementId → Tree
  | 0, i =>
    let e := g.get i
    .node e.name e.type e.attributes [] e.repeated e.characterData
  | depth + 1, i =>
    let e := g.get i
    .node e.name e.type e.attributes (e.children.map (g.treeTo depth)) e.repeated e.characterData

/-- The tree below an element.  No chain of an acyclic graph has more elements than the graph, so
nothing is cut. -/
def tree (g : Graph) (i : ElementId) : Tree := g.treeTo g.size i

end Graph

namespace Tree

mutual

/-- The number of elements of a tree. -/
def size : Tree → Nat
  | .node _ _ _ children _ _ => sizes children + 1

/-- The number of elements of several trees. -/
def sizes : List Tree → Nat
  | [] => 0
  | tree :: rest => size tree + sizes rest

end

end Tree

end SchemaStructs
