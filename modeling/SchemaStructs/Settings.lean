import SchemaStructs.Json.Display
import SchemaStructs.Json.Showable
import SchemaStructs.Naming.TypeName

/-!
# Settings of a run

The seven settings of a run, as the values that a file or a caller gives for them, and the rules
that values have to obey (`Settings.check?`): no other option, truth values and texts where they
are due, and a known strategy for conflicts.  Settings that were not checked can be used as well;
then a value counts as true or false by its truthiness.
-/

namespace SchemaStructs

/-- What to do with elements that share a name but differ in structure. -/
inductive ConflictStrategy where
  /-- Keep the first one and warn about the others. -/
  | first
  /-- Fail the run. -/
  | error
  deriving DecidableEq, Repr, Inhabited

namespace ConflictStrategy

/-- The name of the strategy. -/
def name : ConflictStrategy → Text
  | first => "first"
  | error => "error"

/-- The strategy of a name. -/
def ofJson? (j : Json) : Option ConflictStrategy :=
  match j with
  | .str t => [first, error].find? (·.name == t)
  | _ => none

end ConflictStrategy

/-- The settings of a run. -/
structure Settings where
  /-- The file for the generated code, or a false value for standard output. -/
  outputFile : Json := .null
  /-- The name of the package; without one the code is a fragment. -/
  packageName : Json := .str []
  /-- What every generated type name starts with. -/
  lead : Json := .str []
  /-- Every generated type name starts with a capital. -/
  exported : Json := .bool false
  /-- The strategy for conflicts. -/
  onConflict : Json := .str "first"
  /-- A comment stands before every declaration. -/
  comments : Json := .bool true
  /-- The code is formatted. -/
  format : Json := .bool true
  deriving Inhabited

/-- What is wrong with the values of settings. -/
inductive SettingsFault where
  /-- There are no such options. -/
  | unknown (names : List Text)
  /-- The value of an option is no truth value. -/
  | notBoolean (option : Text) (value : Json)
  /-- The value of an option is no text. -/
  | notText (option : Text) (value : Json)
  /-- There is no such strategy for conflicts. -/
  | badStrategy (value : Json)

namespace SettingsFault

/-- The fault in words. -/
def message : SettingsFault → Text
  | unknown names => "Unknown configuration option(s): " ++ Text.joinWith ", " names
  | notBoolean option value =>
    "Option '" ++ option ++ "' must be a boolean, got " ++ value.shown
  | notText option value => "Option '" ++ option ++ "' must be a string, got " ++ value.shown
  | badStrategy value =>
    "Invalid conflict_strategy: " ++ value.shown ++ " (expected one of error, first)"

/-- The value that the fault is about, which its words show. -/
def value? : SettingsFault → Option Json
  | unknown _ => none
  | notBoolean _ value | notText _ value | badStrategy value => some value

/-- Why the fault cannot be put in words, if it cannot. -/
def obstacle? (fault : SettingsFault) : Option Json.ShowError := fault.value?.bind Json.obstacle?

end SettingsFault

namespace Settings

open Json (entry)

/-- The settings as the members of an object. -/
def toMembers (s : Settings) : List (Text × Json) :=
  [entry "output_file" s.outputFile, entry "package_name" s.packageName, entry "prefix" s.lead,
    entry "exported" s.exported, entry "conflict_strategy" s.onConflict,
    entry "add_comments" s.comments, entry "format_output" s.format]

/-- The settings as an object. -/
def toJson (s : Settings) : Json := .obj s.toMembers

/-- The names of the options. -/
def options : List Text := (({} : Settings).toMembers).map (·.1)

/-- The options that take a truth value. -/
def booleanOptions : List Text := Text.ofStrings ["exported", "add_comments", "format_output"]

/-- The options that take a text. -/
def textOptions : List Text := Text.ofStrings ["package_name", "prefix", "conflict_strategy"]

/-- The settings that the members of an object give, the defaults where they give none. -/
def ofMembers (members : List (Text × Json)) : Settings :=
  let value (option : Text) (default : Json) : Json := (Json.lookup members option).getD default
  let d : Settings := {}
  { outputFile := value "output_file" d.outputFile
    packageName := value "package_name" d.packageName
    lead := value "prefix" d.lead
    exported := value "exported" d.exported
    onConflict := value "conflict_strategy" d.onConflict
    comments := value "add_comments" d.comments
    format := value "format_output" d.format }

/-- The members of an object that name no option, in order of their names. -/
def unknownOptions (members : List (Text × Json)) : List Text :=
  ((members.map (·.1)).filter (!options.contains ·)).mergeSort (fun a b => !decide (b < a))

/-- What is wrong with the value of an option. -/
def valueFault? (option : Text) (value : Json) : Option SettingsFault :=
  if booleanOptions.contains option then
    match value with
    | .bool _ => none
    | value => some (.notBoolean option value)
  else if textOptions.contains option then
    if value.isText then none else some (.notText option value)
  else none

/-- Checks settings given as the members of an object, which has a value for every option. -/
def check? (members : List (Text × Json)) : Except SettingsFault Settings :=
  match unknownOptions members with
  | name :: names => .error (.unknown (name :: names))
  | [] =>
    match members.findSome? fun (option, value) => valueFault? option value with
    | some fault => .error fault
    | none =>
      let s := ofMembers members
      match ConflictStrategy.ofJson? s.onConflict with
      | some _ => .ok s
      | none => .error (.badStrategy s.onConflict)

/-- The settings with the defaults updated by those of a file and then by overrides. -/
def merge? (file overrides : List (Text × Json)) : Except SettingsFault Settings :=
  check? (Json.update (Json.update ({} : Settings).toMembers file) overrides)

end Settings

end SchemaStructs
