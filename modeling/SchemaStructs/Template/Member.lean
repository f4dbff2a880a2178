import SchemaStructs.Template.Value

/-!
# Members and items of values

What stands after a point or in square brackets.  A member is first sought among those that all
values of the kind have and then among the keys of an object; an item first among the items and
then, for a text as index, among the members.  What is not found is a missing value.
-/

namespace SchemaStructs

namespace Template

namespace Value

/-! ### Members of elements and attributes -/

/-- A function of a schema element as a value. -/
def bound (name owner : Text) : Value :=
  .foreign ("<bound method SchemaNode." ++ name ++ " of " ++ owner ++ ">") "method"

/-- The function of an element or attribute, whose text is given, that has the name. -/
def function? (shown field : Text) : Option Value :=
  if field = ("shape" : Text) ∨ field = ("to_dict" : Text) then some (bound field shown)
  else if field = ("from_dict" : Text) then
    some (bound field "<class 'xsdgen.codegen.core.schema.SchemaNode'>")
  else none

/-- The member that says whether an element or attribute is primitive. -/
def primitiveField : Text := "is_primitive"

/-- A member of an element. -/
def elementMember? (e : Element) (field : Text) : Option Value :=
  if field = ("name" : Text) then some (.json e.name)
  else if field = ("type" : Text) then some (.json e.type)
  else if field = ("attribs" : Text) then some (.list (e.attributes.map .attr))
  else if field = ("children" : Text) then some (.list (e.children.map .element))
  else if field = ("list" : Text) then some (.json e.repeated)
  else if field = ("cdata" : Text) then some (.json e.characterData)
  else if field = primitiveField then some (.json (.bool e.isPrimitive))
  else none

/-- A member of an attribute, which has no parts and no flags. -/
def attributeMember? (a : Attribute) (field : Text) : Option Value :=
  if field = ("name" : Text) then some (.json a.name)
  else if field = ("type" : Text) then some (.json a.type)
  else if field = ("attribs" : Text) ∨ field = ("children" : Text) then some (.list [])
  else if field = ("list" : Text) ∨ field = ("cdata" : Text) then some (.json (.bool false))
  else if field = primitiveField then some (.json (.bool (isPrimitiveType a.type)))
  else none

/-! ### Members that all values of a kind have -/

/-- The functions of a text. -/
def textFunctions : List Text := Text.words <|
  "capitalize casefold center count encode endswith expandtabs find format format_map index "
  ++ "isalnum isalpha isascii isdecimal isdigit isidentifier islower isnumeric isprintable "
  ++ "isspace istitle isupper join ljust lower lstrip maketrans partition removeprefix "
  ++ "removesuffix replace rfind rindex rjust rpartition rsplit rstrip split splitlines "
  ++ "startswith strip swapcase title translate upper zfill"

/-- The functions of a list. -/
def listFunctions : List Text :=
  Text.words "append clear copy count extend index insert pop remove reverse sort"

/-- The functions of an object. -/
def objectFunctions : List Text :=
  Text.words "clear copy fromkeys get items keys pop popitem setdefault update values"

/-- The functions of an integer. -/
def integerFunctions : List Text :=
  Text.words "as_integer_ratio bit_count bit_length conjugate from_bytes to_bytes"

/-- The functions of a floating-point number. -/
def floatFunctions : List Text :=
  Text.words "as_integer_ratio conjugate fromhex hex is_integer"

/-- The functions of a value of a document. -/
def functions : Json → List Text
  | .null => []
  | .bool _ | .int _ => integerFunctions
  | .float _ => floatFunctions
  | .str _ => textFunctions
  | .arr _ => listFunctions
  | .obj _ => objectFunctions

/-- A part of an integer seen as a fraction and as a complex number. -/
def integerPart? (n : Int) (field : Text) : Option Json :=
  if field = ("real" : Text) ∨ field = ("numerator" : Text) then some (.int n)
  else if field = ("imag" : Text) then some (.int 0)
  else if field = ("denominator" : Text) then some (.int 1)
  else none

/-- A part of a number. -/
def part? (field : Text) : Json → Option Json
  | .bool b => integerPart? b.toNat field
  | .int n => integerPart? n field
  | .float x =>
    if field = ("real" : Text) then some (.float x)
    else if field = ("imag" : Text) then some (.float (.finite false 0 Binary.minExponent))
    else none
  | _ => none

/-- A member of a value of a document. -/
def jsonMember? (j : Json) (field : Text) : Option Value :=
  if (functions j).contains field then
    some (.foreign ("<built-in method " ++ field ++ " of " ++ j.kind ++ " object>")
      "builtin_function_or_method")
  else ((part? field j).or (j.get? field)).map .json

/-! ### Look-up -/

/-- The kind of a value as a member of it. -/
def ownKind (v : Value) : Value := .foreign ("<class '" ++ v.fullKind ++ "'>") "type"

/-- A member of a value, if there is one. -/
def member? (g : Graph) (v : Value) (field : Text) : Option Value :=
  if field = ("__class__" : Text) then some v.ownKind
  else match v with
    | element i =>
      (elementMember? (g.get i) field).or (function? (v.shown g) field)
    | attr a => (attributeMember? a field).or (function? (v.shown g) field)
    | template _ _ names => (names.find? (·.1 == field)).map (·.2)
    | json j => jsonMember? j field
    | list _ => jsonMember? (.arr []) field
    | table entries =>
      (jsonMember? (.obj []) field).or
        ((entries.find? fun e => (e.1.toJson?.bind Json.text?) == some field).map (·.2))
    | _ => none

/-- Why a member of a value cannot be looked for: the value is missing, or a type that is no name
would have to be looked up. -/
def memberFault? (g : Graph) (v : Value) (field : Text) : Option Failure :=
  match v with
  | missing what => if field = ("__class__" : Text) then none else some (.missing what)
  | element i =>
    if field = primitiveField && !(g.get i).isFit then some (.unhashable (g.get i).type.kind)
    else none
  | attr a =>
    if field = primitiveField && a.type.isContainer then some (.unhashable a.type.kind) else none
  | _ => none

/-- A member of a value. -/
def member (g : Graph) (v : Value) (field : Text) : Except Failure Value :=
  match memberFault? g v field with
  | some fault => .error fault
  | none => .ok ((member? g v field).getD (.missing (.member v.describe field)))

/-- The item of a list at an index, which counts from the end if it is negative. -/
def itemAt? {α : Type} (items : List α) (index : Int) : Option α :=
  if 0 ≤ index then items[index.toNat]?
  else if index + items.length < 0 then none
  else items[(index + items.length).toNat]?

/-- The item of a value at an index, if there is one. -/
def item? (v index : Value) : Option Value :=
  let position : Option Int := match index with
    | json (.int n) => some n
    | json (.bool b) => some b.toNat
    | _ => none
  match v with
  | json (.arr items) => (position.bind (itemAt? items)).map .json
  | json (.str t) => (position.bind (itemAt? t)).map fun c => ofText [c]
  | list items | tuple items => position.bind (itemAt? items)
  | json (.obj members) => (index.toJson?.bind Json.text?).bind fun key =>
      (Json.lookup members key).map .json
  | table entries => index.toJson?.bind fun key =>
      (entries.find? fun e => e.1.toJson?.any key.alike).map (·.2)
  | _ => none

/-- The item of a value at an index. -/
def item (g : Graph) (v index : Value) : Except Failure Value :=
  match v, item? v index, index with
  | missing what, _, _ => .error (.missing what)
  | _, some found, _ => .ok found
  | v, none, json (.str field) => v.member g field
  | v, none, index => .ok (.missing (.item v.describe (index.shown g)))

end Value

end Template

end SchemaStructs
