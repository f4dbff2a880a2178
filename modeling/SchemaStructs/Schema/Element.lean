import SchemaStructs.Json.Display
import SchemaStructs.Naming.TypeName

/-!
# Elements of a schema

A schema is a finite graph of elements.  An element has attributes, child elements, and two flags:
it may occur several times in its parent, and it may carry character data.  Elements are told apart
by their number in the graph, so two elements may share a name, a child or all of their parts, and
an element may contain itself.

An element is *primitive* when it is written as a scalar field of its parent, that is when it has a
primitive type and no character data.  Its *shape* sums up its own declaration; children count with
their name, type and flags only.

Names and types are texts and flags are truth values, as a rule.  Nothing keeps those who build a
graph by hand from putting any other value in their place; a flag is then set if its value counts as
true.
-/

namespace SchemaStructs

/-- An attribute of an element. -/
structure Attribute where
  /-- The name of the attribute. -/
  name : Json
  /-- The name of its type. -/
  type : Json
  deriving Inhabited

/-- The number of an element in a graph. -/
abbrev ElementId := Nat

/-- An element of a schema. -/
structure Element where
  /-- The name of the element. -/
  name : Json
  /-- The name of its type. -/
  type : Json
  /-- Its attributes, in order. -/
  attributes : List Attribute := []
  /-- Its child elements, in order. -/
  children : List ElementId := []
  /-- It may occur several times. -/
  repeated : Json := .bool false
  /-- It carries character data. -/
  characterData : Json := .bool false
  deriving Inhabited

/-- The value names a type that Go provides. -/
def isPrimitiveType (type : Json) : Bool := type.text?.any Naming.isPrimitive

namespace Element

/-- The element is written as a scalar field of its parent. -/
def isPrimitive (e : Element) : Bool := !e.characterData.truthy && isPrimitiveType e.type

/-- It can be told whether the element is primitive: its type can be looked up, or does not matter
because of character data. -/
def isFit (e : Element) : Bool := e.characterData.truthy || !e.type.isContainer

/-- The raw name of the type of a field for the element: one with character data always refers to
a struct of its own. -/
def fieldType (e : Element) : Json := if e.characterData.truthy then e.name else e.type

end Element

/-! ### Graphs -/

/-- A finite graph of elements. -/
structure Graph where
  /-- The elements, each at its number. -/
  elements : Array Element := #[]
  deriving Inhabited

namespace Graph

/-- The number of elements. -/
def size (g : Graph) : Nat := g.elements.size

/-- The element of a number; a number beyond the graph stands for a nameless empty element. -/
def get (g : Graph) (i : ElementId) : Element := g.elements.getD i default

/-- The raw name of an element, as text. -/
def name (g : Graph) (i : ElementId) : Text := (g.get i).name.display

/-- The children of an element. -/
def children (g : Graph) (i : ElementId) : List ElementId := (g.get i).children

/-- The element is written as a scalar field of its parent. -/
def isPrimitive (g : Graph) (i : ElementId) : Bool := (g.get i).isPrimitive

/-- The graph with one more element, and the number of that element. -/
def add (g : Graph) (e : Element) : Graph × ElementId := (⟨g.elements.push e⟩, g.size)

/-- The graph with one element changed. -/
def modify (g : Graph) (i : ElementId) (f : Element → Element) : Graph := ⟨g.elements.modify i f⟩

end Graph

/-! ### Shapes -/

/-- What the declaration of an element depends on besides its name. -/
structure Shape where
  /-- The name of the type. -/
  type : Json
  /-- The element carries character data. -/
  characterData : Json
  /-- Name and type of each attribute. -/
  attributes : List (Json × Json)
  /-- Name, type, repetition and character data of each child. -/
  children : List (Json × Json × Json × Json)
  deriving Inhabited

namespace Shape

/-- The shape with all values in canonical spelling. -/
def key (s : Shape) : Text × Text × List (Text × Text) × List (Text × Text × Text × Text) :=
  (s.type.spelling, s.characterData.spelling,
    s.attributes.map fun (n, t) => (n.spelling, t.spelling),
    s.children.map fun (n, t, r, c) => (n.spelling, t.spelling, r.spelling, c.spelling))

/-- Two shapes that a comparison does not tell apart. -/
def alike (a b : Shape) : Bool := a.key == b.key

end Shape

/-- The shape of an element. -/
def Graph.shape (g : Graph) (i : ElementId) : Shape :=
  let e := g.get i
  { type := e.type
    characterData := e.characterData
    attributes := e.attributes.map fun a => (a.name, a.type)
    children := e.children.map fun c =>
      let child := g.get c
      (child.name, child.type, child.repeated, child.characterData) }

end SchemaStructs
