import SchemaStructs.Schema.Tree
import SchemaStructs.Template.Program

/-!
# Values of a template

What the names of a template stand for: values of a document, elements and attributes of a schema,
lists and tables, routines, other templates, values that are missing, and a few things that are part
of no document.
`Value.display?` gives the text that is printed for a value.
-/

namespace SchemaStructs

namespace Template

/-- A value of a template. -/
inductive Value where
  /-- A value of a document. -/
  | json (j : Json)
  /-- An element of the schema. -/
  | element (i : ElementId)
  /-- An attribute of an element. -/
  | attr (a : Attribute)
  /-- A list. -/
  | list (items : List Value)
  /-- A list in round brackets. -/
  | tuple (items : List Value)
  /-- Keys with their values. -/
  | table (entries : List (Value × Value))
  /-- A routine. -/
  | routine (r : Routine)
  /-- A template that was run by itself: what it printed, and the names that it bound. -/
  | template (name printed : Text) (names : List (Text × Value))
  /-- Something that can only be printed: its text, and the word for its kind. -/
  | foreign (text kind : Text)
  /-- A value that is not there. -/
  | missing (what : Missing)
  deriving Inhabited

namespace Value

/-- A text as a value. -/
def ofText (t : Text) : Value := .json (.str t)

/-- The word for the kind of a value. -/
def kind : Value → Text
  | json j => j.kind
  | element _ | attr _ => "SchemaNode"
  | list _ => "list"
  | tuple _ => "tuple"
  | table _ => "dict"
  | routine _ => "Macro"
  | template _ _ _ => "TemplateModule"
  | foreign _ kind => kind
  | missing _ => "StrictUndefined"

/-- The word for the kind of a template as it is known to itself. -/
def referenceKind : Text := "TemplateReference"

/-- The kind of a value with the module that defines it, unless that is the language itself. -/
def fullKind : Value → Text
  | element _ | attr _ => "xsdgen.codegen.core.schema.SchemaNode"
  | routine _ => "jinja2.runtime.Macro"
  | template _ _ _ => "jinja2.environment.TemplateModule"
  | foreign _ kind => if kind = referenceKind then "jinja2.runtime." ++ kind else kind
  | missing _ => "jinja2.runtime.StrictUndefined"
  | v => v.kind

/-- The description of a value whose member is missing. -/
def describe : Value → Text
  | json .null => "None"
  | v => v.fullKind ++ " object"

/-- Whether a condition with the value holds. -/
def truthy : Value → Except Failure Bool
  | json j => .ok j.truthy
  | list items | tuple items => .ok (!items.isEmpty)
  | table entries => .ok (!entries.isEmpty)
  | missing what => .error (.missing what)
  | _ => .ok true

/-! ### Printing -/

/-- An attribute as it is printed. -/
def shownAttribute (a : Attribute) : Text :=
  "SchemaNode(name=" ++ a.name.shown ++ ", type=" ++ a.type.shown
    ++ ", attribs=[], children=[], list=False, cdata=False)"

/-- An element as it is printed, with dots for an element inside itself.  `fuel` bounds the depth,
which is never greater than the number of elements. -/
def shownElement (g : Graph) (fuel : Nat) (path : List ElementId) (i : ElementId) : Text :=
  match fuel with
  | 0 => "..."
  | fuel + 1 =>
    if i ∈ path then "..."
    else
      let e := g.get i
      "SchemaNode(name=" ++ e.name.shown ++ ", type=" ++ e.type.shown
        ++ ", attribs=[" ++ Text.joinWith ", " (e.attributes.map shownAttribute)
        ++ "], children=[" ++ Text.joinWith ", " (e.children.map (shownElement g fuel (i :: path)))
        ++ "], list=" ++ e.repeated.shown ++ ", cdata=" ++ e.characterData.shown ++ ")"

mutual

/-- A value inside a list. -/
def shown (g : Graph) : Value → Text
  | json j => j.shown
  | element i => shownElement g (g.size + 1) [] i
  | attr a => shownAttribute a
  | list items => '[' :: (Text.joinWith ", " (shownAll g items) ++ [']'])
  | tuple [item] => '(' :: (shown g item ++ ",)")
  | tuple items => '(' :: (Text.joinWith ", " (shownAll g items) ++ [')'])
  | table entries => '\x7b' :: (Text.joinWith ", " (shownEntries g entries) ++ ['\x7d'])
  | routine r => "<Macro " ++ Json.quoted r.name ++ ['>']
  | template name _ _ => "<TemplateModule " ++ Json.quoted name ++ ['>']
  | foreign text _ => text
  | missing _ => "Undefined"

/-- The values inside a list. -/
def shownAll (g : Graph) : List Value → List Text
  | [] => []
  | v :: rest => shown g v :: shownAll g rest

/-- The entries of a table. -/
def shownEntries (g : Graph) : List (Value × Value) → List Text
  | [] => []
  | (key, value) :: rest => (shown g key ++ ": " ++ shown g value) :: shownEntries g rest

end

/-- The text that is printed for a value; a missing value cannot be printed. -/
def display? (g : Graph) : Value → Except Failure Text
  | json j => .ok j.display
  | template _ printed _ => .ok printed
  | missing what => .error (.missing what)
  | v => .ok (v.shown g)

/-! ### Comparing -/

mutual

/-- The value as a value of a document, if it is one. -/
def toJson? : Value → Option Json
  | json j => some j
  | list items => (toJsons? items).map .arr
  | table entries => (toMembers? entries).map .obj
  | _ => none

/-- The values as values of a document. -/
def toJsons? : List Value → Option (List Json)
  | [] => some []
  | v :: rest =>
    match toJson? v, toJsons? rest with
    | some j, some js => some (j :: js)
    | _, _ => none

/-- The entries as members of an object. -/
def toMembers? : List (Value × Value) → Option (List (Text × Json))
  | [] => some []
  | (key, value) :: rest =>
    match toJson? key, toJson? value, toMembers? rest with
    | some (.str k), some j, some ms => some ((k, j) :: ms)
    | _, _, _ => none

end

/-- Whether two values are equal; to ask it of a missing value is an error. -/
def equal (a b : Value) : Except Failure Bool :=
  match a, b with
  | missing what, _ | _, missing what => .error (.missing what)
  | element i, element j => .ok (i == j)
  | a, b =>
    match a.toJson?, b.toJson? with
    | some a, some b => .ok (a.alike b)
    | _, _ => .ok false

end Value

end Template

end SchemaStructs
