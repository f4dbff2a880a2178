import SchemaStructs.Template.Constant
import SchemaStructs.Template.Parser

/-!
# Libraries of templates

A library holds templates by name and the filters that they may use.  Templates kept in memory
shadow those on the shelf, which is where the files of a folder stand: on the shelf a name is a path
that leads downwards only.  A template is read and its filters are checked when it is used, or once
and for all when it is prepared (`Library.prepare`): its constant parts then keep their values,
whichever filters are added later, until a template is added.
-/

namespace SchemaStructs

namespace Template

/-- Templates and filters. -/
structure Library where
  /-- The templates kept in memory, the latest first. -/
  memory : List (Text × Text) := []
  /-- The templates on the shelf, by the parts of their paths. -/
  shelf : List Text → Option (Except Failure Text) := fun _ => none
  /-- The filters, the latest first. -/
  filters : List (Text × Filter)
  /-- The programs of the templates that are prepared. -/
  prepared : List (Text × List Statement) := []

/-- The filters that every library has. -/
def basicFilters : List (Text × Filter) :=
  [("lint", .normalize), ("lint_title", .normalizeTitle), ("comment", .comment)].map
    fun (name, f) => (String.toList name, f)

namespace Library

/-- The library with one more template in memory.  No template is prepared any more. -/
def addTemplate (lib : Library) (name text : Text) : Library :=
  { lib with memory := (name, text) :: lib.memory, prepared := [] }

/-- The library with one more filter. -/
def addFilter (lib : Library) (name : Text) (f : Filter) : Library :=
  { lib with filters := (name, f) :: lib.filters }

/-- The parts of the path that a name spells, unless one of them leads upwards. -/
def shelfPath? (name : Text) : Option (List Text) :=
  let parts := Text.splitOn '/' name
  if parts.contains ['.', '.'] then none
  else some (parts.filter fun part => !part.isEmpty && part != ['.'])

/-- The text of a template. -/
def text? (lib : Library) (name : Text) : Except Failure Text :=
  match lib.memory.find? (·.1 == name) with
  | some (_, text) => .ok text
  | none => ((shelfPath? name).bind lib.shelf).getD (.error (.notFound name))

/-- The program of a template text. -/
def compile (lib : Library) (text : Text) : Except Failure (List Statement) := do
  let program ← read text
  match unknownFilterInAll? (fun name => lib.filters.any (·.1 == name)) program with
  | some name => .error (.unknownFilter name)
  | none => return program

/-- The program of a template. -/
def program? (lib : Library) (name : Text) : Except Failure (List Statement) :=
  match lib.prepared.find? (·.1 == name) with
  | some (_, program) => .ok program
  | none => lib.text? name >>= lib.compile

/-- The library with a template prepared, unless it is prepared already, there is no such template,
or it cannot be read. -/
def prepare (lib : Library) (name : Text) : Library :=
  match lib.prepared.any (·.1 == name), lib.program? name with
  | false, .ok program =>
    { lib with prepared := (name, settledAll lib.filters program) :: lib.prepared }
  | _, _ => lib

/-- The context in which the templates of the library run. -/
def context (lib : Library) (g : Graph) : Context :=
  { graph := g, filters := lib.filters, program? := lib.program? }

/-- Runs a program with the given names and the one by which a template of the given title knows
itself, which no other value can have. -/
def perform (lib : Library) (g : Graph) (title : Text) (given : Given) (program : List Statement) :
    Except Failure Text :=
  if given.any (·.1 == selfName) then
    .error (.misapplied "Template.render" (.repeated selfName))
  else run (lib.context g) (selfNamed title ++ given) program

/-- What a template prints. -/
def render (lib : Library) (g : Graph) (name : Text) (given : Given) : Except Failure Text := do
  let program ← lib.program? name
  lib.perform g (Json.quoted name) given program

/-- What a template text prints. -/
def renderText (lib : Library) (g : Graph) (text : Text) (given : Given) : Except Failure Text := do
  let program ← lib.compile text
  lib.perform g "None" given program

/-- Whether there is a template of the name; one that cannot be read is an error. -/
def contains (lib : Library) (name : Text) : Except Failure Bool :=
  match lib.program? name with
  | .ok _ => .ok true
  | .error (.notFound _) => .ok false
  | .error e => .error e

end Library

end Template

end SchemaStructs
