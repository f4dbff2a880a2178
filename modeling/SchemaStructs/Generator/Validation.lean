import SchemaStructs.Generator.Walk
import SchemaStructs.Naming.Reserved

/-!
# Validation of a schema

What is wrong with the Go code of a schema although it can be generated: names that Go refuses or
hides, fields of one name, and fields whose type no element declares (`Generator.validate`).  Every
element that is declared or could be is checked once, in preorder.
-/

namespace SchemaStructs

namespace Validation

/-- The warnings about the name of a type. -/
def typeNameWarnings (typeName element : Text) : List Warning :=
  (if Naming.isKeyword typeName then [.keyword typeName element]
    else if Naming.isPredeclared typeName then [.predeclared typeName element]
    else [])
  ++ (if Text.isIdentifier typeName then [] else [.badTypeName typeName element])

/-- The warnings about the fields for some members of a struct.  `seen` holds the field names
before them, each with the first member that got it. -/
def fieldWarnings (struct : Text) (seen : List (Text × Text)) : List Text → List Warning
  | [] => []
  | member :: rest =>
    let field := Naming.normalizeTitle member
    (if Text.isIdentifier field then [] else [.badFieldName field member struct])
    ++ match seen.find? (·.1 == field) with
      | some (_, first) => .sameField first member struct field :: fieldWarnings struct seen rest
      | none => fieldWarnings struct ((field, member) :: seen) rest

/-- A raw name, which has to be a text. -/
def nameText? (name : Json) : Except GenerationFailure Text :=
  match name with
  | .str t => .ok t
  | j => .error (.misuse (.notText j.kind))

/-- The raw names behind the fields of the struct for an element: its attributes, its children and,
if it carries character data, itself. -/
def members? (g : Graph) (i : ElementId) : Except GenerationFailure (List Text) := do
  let e := g.get i
  let children := e.children.map g.get
  let own := if e.characterData.truthy then [e.name] else []
  (e.attributes.map (·.name) ++ children.map (·.name) ++ own).mapM nameText?

end Validation

namespace Generator

open Validation

/-- The warning about the field for a child element whose type is not among those declared. -/
def danglingWarning? (gen : Generator) (declared : List Text) (struct : Text) (child : Element) :
    Except GenerationFailure (List Warning) :=
  if child.isPrimitive then .ok []
  else do
    let referenced ← gen.typeName? child.fieldType
    if declared.contains referenced then return []
    else
      let own ← gen.typeName? child.name
      let name := child.name.display
      return [.dangling (Naming.normalizeTitle name) struct referenced name own]

/-- The warnings about one element, given the names of the types that all elements declare. -/
def elementWarnings? (gen : Generator) (g : Graph) (declared : List Text) (i : ElementId) :
    Except GenerationFailure (List Warning) := do
  let e := g.get i
  let struct ← gen.typeName? e.name
  let members ← members? g i
  let dangling ← (e.children.map g.get).mapM (gen.danglingWarning? declared struct)
  return typeNameWarnings struct (g.name i) ++ fieldWarnings struct [] members
    ++ dangling.flatten

/-- The elements that are checked: those that can be reached from the roots through elements that
are not primitive. -/
def checked (g : Graph) (roots : List ElementId) : List ElementId :=
  g.preorder (fun i => !g.isPrimitive i) roots

/-- The warnings about a schema. -/
def validate (gen : Generator) (g : Graph) (roots : List ElementId) :
    Except GenerationFailure (List Warning) := do
  let elements := checked g roots
  if let some e := (elements.map g.get).find? (!·.isFit) then
    .error (.misuse (.unhashable e.type.kind))
  let declared ← elements.mapM fun i => gen.typeName? (g.get i).name
  let warnings ← elements.mapM (gen.elementWarnings? g declared)
  return (if roots.isEmpty then [.noRoots] else []) ++ warnings.flatten

end Generator

end SchemaStructs
