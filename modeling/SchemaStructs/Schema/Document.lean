import SchemaStructs.Json.Display
import SchemaStructs.Schema.Tree

/-!
# Schema documents

The JSON form of a schema: an object per element, with its name and, where they are not the
default, its type, attributes, children and flags.  `Tree.ofJson?` reads such an object or says
what is wrong with it, `Tree.toJson` writes one, and `Tree.ofDocument?` reads a whole document.
-/

namespace SchemaStructs

/-- What is wrong with a schema document. -/
inductive DocumentFault where
  /-- The document is neither an object nor a list. -/
  | notDocument (kind : Text)
  /-- An element is no object. -/
  | notObject (kind : Text)
  /-- An element has no name. -/
  | nameless (value : Json)
  /-- The type of an element is no text. -/
  | typeNotText (name : Text)
  /-- An attribute of an element is no object with a name. -/
  | badAttribute (owner : Text) (value : Json)
  /-- The attributes or children of an element are a value without items. -/
  | noItems (kind : Text)

namespace DocumentFault

/-- The fault in words. -/
def message : DocumentFault → Text
  | notDocument kind => "Schema document must be an object or a list, got " ++ kind
  | notObject kind => "Schema node must be an object, got " ++ kind
  | nameless value => "Schema node is missing a name: " ++ value.shown
  | typeNotText name => "Type of '" ++ name ++ "' must be a string"
  | badAttribute owner value => "Invalid attribute on '" ++ owner ++ "': " ++ value.shown
  | noItems kind => "'" ++ kind ++ "' object is not iterable"

end DocumentFault

/-! ### Reading -/

namespace Attribute

/-- The default type of an attribute. -/
def defaultType : Json := .str "string"

/-- Reads an attribute of the element `owner`. -/
def ofJson? (owner : Text) (j : Json) : Except DocumentFault Attribute :=
  let name := (j.get? "name").getD .null
  let type := (j.get? "type").getD .null
  if name.truthy then .ok { name, type := if type.truthy then type else defaultType }
  else .error (.badAttribute owner j)

/-- Reads the attributes of the element `owner`.  A false value stands for none, and a text or an
object has its characters or keys for items, none of which is an attribute. -/
def listOfJson? (owner : Text) (j : Json) : Except DocumentFault (List Attribute) :=
  if !j.truthy then .ok []
  else match j with
    | .arr items => items.mapM (ofJson? owner)
    | .str t => (t.map fun c => Json.str [c]).mapM (ofJson? owner)
    | .obj members => (members.map fun m => Json.str m.1).mapM (ofJson? owner)
    | j => .error (.noItems j.kind)

end Attribute

namespace Tree

open Json (entry)

/-- The name of an element. -/
def nameOfJson? (members : List (Text × Json)) : Except DocumentFault Text :=
  match Json.lookup members "name" with
  | some (.str (c :: rest)) => .ok (c :: rest)
  | _ => .error (.nameless (.obj members))

/-- The type of an element, which is its name when none is given. -/
def typeOfJson? (name : Text) (members : List (Text × Json)) : Except DocumentFault Text :=
  match Json.lookup members "type" with
  | none => .ok name
  | some j =>
    if !j.truthy then .ok name
    else match j with
      | .str t => .ok t
      | _ => .error (.typeNotText name)

/-- A flag of an element. -/
def flagOfJson (members : List (Text × Json)) (key : Text) : Bool :=
  ((Json.lookup members key).getD .null).truthy

mutual

/-- Reads an element and all that is below it. -/
def ofJson? : Json → Except DocumentFault Tree
  | .obj members => do
    let name ← nameOfJson? members
    let type ← typeOfJson? name members
    let attributes ← Attribute.listOfJson? name ((Json.lookup members "attribs").getD .null)
    let children ← childrenOfJson? members
    return .node (.str name) (.str type) attributes children (.bool (flagOfJson members "list"))
      (.bool (flagOfJson members "cdata"))
  | j => .error (.notObject j.kind)

/-- Reads the children among the members of an element. -/
def childrenOfJson? : List (Text × Json) → Except DocumentFault (List Tree)
  | [] => .ok []
  | (key, value) :: rest => if key = "children" then itemsOfJson? value else childrenOfJson? rest

/-- Reads the items of the member that holds the children.  A false value stands for none; the
characters or keys of another value are no elements. -/
def itemsOfJson? : Json → Except DocumentFault (List Tree)
  | .arr items => listOfJson? items
  | .str t => if t.isEmpty then .ok [] else .error (.notObject "str")
  | .obj members => if members.isEmpty then .ok [] else .error (.notObject "str")
  | j => if j.truthy then .error (.noItems j.kind) else .ok []

/-- Reads elements in order. -/
def listOfJson? : List Json → Except DocumentFault (List Tree)
  | [] => .ok []
  | item :: rest => do
    let tree ← ofJson? item
    let trees ← listOfJson? rest
    return tree :: trees

end

/-- Reads a document: one element, a list of elements, or an object whose `roots` are a list. -/
def ofDocument? (j : Json) : Except DocumentFault (List Tree) :=
  match j.get? "roots", j with
  | some (.arr items), _ | none, .arr items => listOfJson? items
  | some j, _ => .error (.notDocument j.kind)
  | none, .obj members => return [← ofJson? (.obj members)]
  | none, j => .error (.notDocument j.kind)

/-! ### Writing -/

/-- The member for a flag, if it is set. -/
def flagMember (key : Text) (flag : Json) : List (Text × Json) :=
  if flag.truthy then [entry key (.bool true)] else []

/-- An attribute as an object. -/
def attributeToJson (a : Attribute) : Json :=
  .obj [entry "name" a.name, entry "type" a.type]

mutual

/-- The element as an object, without the parts that are empty. -/
def toJson : Tree → Json
  | .node name type attributes children repeated characterData =>
    .obj ([entry "name" name, entry "type" type]
      ++ (if attributes.isEmpty then []
        else [entry "attribs" (.arr (attributes.map attributeToJson))])
      ++ (if children.isEmpty then [] else [entry "children" (.arr (listToJson children))])
      ++ flagMember "list" repeated ++ flagMember "cdata" characterData)

/-- The elements as objects. -/
def listToJson : List Tree → List Json
  | [] => []
  | tree :: rest => toJson tree :: listToJson rest

end

end Tree

end SchemaStructs
