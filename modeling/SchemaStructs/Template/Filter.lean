import SchemaStructs.Naming.TypeName
import SchemaStructs.Template.Value
import SchemaStructs.Text.Decomposition

/-!
# Filters

The functions that a template applies to values: the naming passes, comment marks, the names of
types and capitals.  A filter may take further arguments, in order or by the names of its
parameters; arguments are checked before anything is done with the value.
-/

namespace SchemaStructs

namespace Template

/-- A function that a template can apply to a value. -/
inductive Filter where
  /-- The identifier of a name. -/
  | normalize
  /-- The identifier of a name, starting with a capital. -/
  | normalizeTitle
  /-- A comment mark before every line that is not blank. -/
  | comment
  /-- The Go name of a type, with `lead` in front: a text, or a value that cannot stand there. -/
  | typeName (lead : Json) (exported : Bool)
  /-- The raw name of the type of a field for a child element. -/
  | fieldType
  /-- The text in capitals. -/
  | upper
  /-- The text with a capital at the start of every word. -/
  | title
  /-- The text without spaces. -/
  | squish

/-- A text with a comment mark before every line that is not blank. -/
def commented (mark t : Text) : Text :=
  Text.unlines ((Text.lines t).map fun line =>
    if line.all Text.isBlank then line else mark ++ ' ' :: line)

/-- An argument, perhaps with the name of its parameter. -/
abbrev Argument := Option Text × Value

namespace Filter

/-! ### Arguments -/

/-- The name of a filter in messages. -/
def name : Filter → Text
  | normalize => "normalize"
  | normalizeTitle => "normalize_title"
  | comment => "TemplateEngine._comment_filter"
  | typeName _ _ => "type_name"
  | fieldType => "field_type"
  | upper => "str.upper"
  | title => "title"
  | squish => "squish"

/-- The names of the parameters, that of the value among them. -/
def params : Filter → List Text
  | normalize | normalizeTitle => [("raw" : Text)]
  | comment => Text.ofStrings ["self", "value", "style"]
  | typeName _ _ => Text.ofStrings ["name", "prefix", "exported"]
  | fieldType => [("node" : Text)]
  | upper => []
  | title | squish => [("s" : Text)]

/-- How many parameters must have a value, and how many have one before the further arguments. -/
def arity : Filter → Nat × Nat
  | comment => (2, 2)
  | upper => (0, 0)
  | _ => (1, 1)

/-- The parameters that have a value from the filter itself. -/
def preset : Filter → List Text
  | typeName _ _ => Text.ofStrings ["prefix", "exported"]
  | _ => []

/-- Why the filter does not take the arguments with names, if it does not; `filled` parameters have
a value from the arguments in order. -/
def namedFault? (filter : Filter) (filled : List Text) : List Text → Option Misapplied
  | [] => none
  | n :: rest =>
    if !filter.params.contains n then some (.unexpected n)
    else if filled.contains n then some (.repeated n)
    else filter.namedFault? filled rest

/-- Why the filter does not take the arguments, if it does not. -/
def fault? (filter : Filter) (args : List Argument) : Option Misapplied :=
  let ordered := args.filter (·.1.isNone)
  let named := args.filterMap (·.1)
  match filter with
  | upper =>
    if !named.isEmpty then some .takesNoNames
    else if !ordered.isEmpty then some (.takesNone ordered.length)
    else none
  | filter =>
    let given := filter.arity.2 + ordered.length
    let most := filter.params.length
    let others := named.filter fun n => !filter.preset.contains n
    (filter.namedFault? (filter.params.take given) (filter.preset ++ others)).or
      (if most < given then some (.tooMany filter.arity.1 most given) else none)

/-- The argument for the first parameter after the value, or for the one of the given name. -/
def argument? (param : Text) (args : List Argument) : Option Value :=
  ((args.find? (·.1.isNone)).or (args.find? (·.1 == some param))).map (·.2)

/-- The argument for the parameter of the given name. -/
def namedArgument? (param : Text) (args : List Argument) : Option Value :=
  (args.find? (·.1 == some param)).map (·.2)

/-! ### Values -/

/-- A function on names, applied to a value. -/
def onText (f : Text → Text) (v : Value) : Except Failure Value :=
  match v with
  | .json (.str t) => .ok (.ofText (f t))
  | v => .error (.notText v.kind)

/-- The Go name of a type with a prefix that may be no text. -/
def typeName? (lead : Json) (exported : Bool) (name : Text) : Except Failure Text :=
  match lead with
  | .str lead => .ok (Naming.TypeStyle.typeName { lead, exported } name)
  | .arr (_ :: _) =>
    if Naming.isPrimitive name then .ok name else .error (.cannotExtend "list" "str")
  | lead =>
    if lead.truthy && !Naming.isPrimitive name then
      .error (.noOperation .add lead.kind "str")
    else .ok (Naming.TypeStyle.typeName { lead := [], exported } name)

/-- The Go name of a type whose name and prefix may be no texts. -/
def typeNameOf? (lead : Json) (exported : Bool) (name : Json) : Except Failure Text :=
  match name with
  | .str name => typeName? lead exported name
  | name => .error (if name.isContainer then .unhashable name.kind else .notText name.kind)

/-- The Go name of a type whose prefix and form may be given as arguments. -/
def typeNameWith? (lead : Json) (exported : Bool) (args : List Argument) (name : Text) :
    Except Failure Text := do
  if Naming.isPrimitive name then return name
  let lead ← match namedArgument? "prefix" args with
    | none => .ok lead
    | some (.missing what) => .error (.missing what)
    | some v => match v.toJson? with
      | some j => .ok j
      | none => .error (.noOperation .add v.kind "str")
  let exported ← match namedArgument? "exported" args with
    | none => .ok exported
    | some v => v.truthy
  typeName? lead exported name

/-- A text as a comment.  The mark is needed only if some line is not blank. -/
def commentedWith (g : Graph) (mark : Value) (t : Text) : Except Failure Text :=
  if t.all Text.isBlank then .ok t else (mark.display? g).map fun mark => commented mark t

/-- The value of a filter that takes its arguments. -/
def run (g : Graph) (filter : Filter) (v : Value) (args : List Argument) : Except Failure Value :=
  match filter with
  | normalize => onText Naming.normalize v
  | normalizeTitle => onText Naming.normalizeTitle v
  | title => onText Naming.title v
  | comment => do
    let t ← v.display? g
    return .ofText (← commentedWith g ((argument? "style" args).getD (.ofText "//")) t)
  | typeName lead exported =>
    match v with
    | .json (.str t) => (typeNameWith? lead exported args t).map .ofText
    | .json (.arr _) | .json (.obj _) | .list _ | .table _ => .error (.unhashable v.kind)
    | .missing what => .error (.missing what)
    | v => .error (.notText v.kind)
  | fieldType =>
    match v with
    | .element i => .ok (.json (g.get i).fieldType)
    | .attr a => .ok (.json a.type)
    | .missing what => .error (.missing what)
    | v => .error (.noMember v.kind "cdata")
  | upper =>
    match v with
    | .json (.str t) => .ok (.ofText (Text.upper t))
    | v => .error (.noCapitals v.kind)
  | squish =>
    match v with
    | .json (.str t) => .ok (.ofText (Naming.squish t))
    | .missing what => .error (.missing what)
    | v => .error (.noMember v.kind "replace")

/-- The parameter that an argument is named for: one of an equivalent name, if there is one. -/
def paramOf (filter : Filter) (name : Text) : Text :=
  (filter.params.find? (Text.equivalent name)).getD name

/-- The value of a filter.  Whether a value has capitals matters before its arguments do. -/
def apply (g : Graph) (filter : Filter) (v : Value) (args : List Argument) : Except Failure Value :=
  let args := args.map fun (name, v) => (name.map filter.paramOf, v)
  match filter.fault? args with
  | none => filter.run g v args
  | some fault =>
    match filter, v with
    | upper, .json (.str _) => .error (.misapplied filter.name fault)
    | upper, v => .error (.noCapitals v.kind)
    | filter, _ => .error (.misapplied filter.name fault)

end Filter

end Template

end SchemaStructs
