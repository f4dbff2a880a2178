import SchemaStructs.Files.Tree
import SchemaStructs.Json.Reader
import SchemaStructs.Json.Writer
import SchemaStructs.Log.Record
import SchemaStructs.Naming.Reserved
import SchemaStructs.Settings

/-!
# Settings in files

Settings are kept in JSON files.  `Settings.load` merges the defaults, a file and overrides, in this
order of growing weight; `Settings.save` writes all seven settings; `Settings.warnings` says which
values are allowed but suspicious.
-/

namespace SchemaStructs

/-- Why settings cannot be loaded or saved. -/
inductive SettingsFailure where
  /-- There is no such file. -/
  | notFound (path : Path)
  /-- The file is not named as a JSON document. -/
  | notJson (path : Path)
  /-- The file holds no JSON document. -/
  | invalid (path : Path) (doc : Text) (cause : Json.ReadError)
  /-- The file cannot be read. -/
  | unreadable (path : Path) (cause : FileFault)
  /-- The file holds no object. -/
  | notObject (path : Path)
  /-- The values are wrong. -/
  | values (fault : SettingsFault)
  /-- A value is wrong, and it cannot be shown. -/
  | unshowable (cause : Json.ShowError)
  /-- The file cannot be written. -/
  | unwritable (path : Path) (cause : FileFault)
  /-- The file holds no text. -/
  | undecodable (fault : Utf8Fault)
  /-- The path cannot be used at all. -/
  | unusable (cause : FileFault)
  /-- A number in the file is too long, or its parts lie too deep inside each other. -/
  | excessive (cause : Json.ReadError)
  /-- The file has an escape of half of a surrogate pair. -/
  | halfPair

namespace SettingsFailure

/-- The failure in words. -/
def message : SettingsFailure → Text
  | notFound path => "Configuration file not found: " ++ path.toText
  | notJson path => "Configuration file must be JSON: " ++ path.toText
  | invalid path doc cause =>
    "Invalid JSON in configuration file " ++ path.toText ++ ": " ++ cause.message doc
  | unreadable path cause =>
    "Failed to load configuration file " ++ path.toText ++ ": " ++ cause.message
  | notObject path => "Configuration file must contain a JSON object: " ++ path.toText
  | values fault => fault.message
  | unshowable cause => cause.message
  | unwritable path cause =>
    "Failed to save configuration to " ++ path.toText ++ ": " ++ cause.message
  | undecodable fault => fault.message
  | unusable cause => cause.message
  | excessive cause => cause.message []
  | halfPair => "half of a surrogate pair stands for no character"

/-- The failure for wrong values.  It tells the fault, unless a value that this shows cannot be
shown. -/
def ofFault (fault : SettingsFault) : SettingsFailure :=
  match fault.obstacle? with
  | some cause => unshowable cause
  | none => values fault

end SettingsFailure

/-- A value of a setting that is allowed but suspicious. -/
inductive SettingsWarning where
  /-- The name of the package. -/
  | package (fault : PackageFault)
  /-- The prefix of type names. -/
  | lead (value : Text)
  deriving DecidableEq

/-- The warning in words. -/
def SettingsWarning.message : SettingsWarning → Text
  | package fault => fault.message
  | lead value => "Prefix '" ++ value ++ "' will not form a valid Go identifier"

namespace Settings

/-- The members of the object in a file. -/
def readFile? (files : FileTree) (path : Path) : Except SettingsFailure (List (Text × Json)) :=
  match files.contains? path with
  | .error cause => .error (.unusable cause)
  | .ok false => .error (.notFound path)
  | .ok true =>
    if !path.namesJson then .error (.notJson path)
    else
      match files.bytes? path with
      | .error cause => .error (.unreadable path cause)
      | .ok bytes =>
        match FileTree.readText? bytes with
        | .error fault => .error (.undecodable fault)
        | .ok doc =>
          match Json.read doc with
          | .error (.invalid .halfPair _) => .error .halfPair
          | .error (.invalid fault offset) =>
            .error (.invalid path doc (.invalid fault offset))
          | .error cause => .error (.excessive cause)
          | .ok (.obj members) => .ok members
          | .ok _ => .error (.notObject path)

/-- The settings that a file, if there is one, and overrides give. -/
def load (files : FileTree) (file : Option Path) (overrides : List (Text × Json)) :
    Except SettingsFailure Settings := do
  let members ← match file with
    | none => .ok []
    | some path => readFile? files path
  (merge? members overrides).mapError .ofFault

/-- The records of reading the members of a file. -/
def loadRecords (files : FileTree) (file : Option Path) : List LogRecord :=
  match file with
  | none => []
  | some path =>
    if (readFile? files path).isOk then
      [{ level := .debug, logger := "xsdgen.codegen.core.config"
         message := "Loaded configuration from " ++ path.toText }]
    else []

/-- The document that settings are saved as. -/
def document (s : Settings) : Text := s.toJson.pretty

/-- The files after settings are saved at a path. -/
def save (s : Settings) (files : FileTree) (path : Path) : Except SettingsFailure FileTree :=
  (files.write? path s.document).mapError fun
    | .nullCharacter => .unusable .nullCharacter
    | cause => .unwritable path cause

/-- The prefix starts with a letter and goes on with letters, digits, underscores, hyphens and
spaces, all of them ASCII. -/
def isPlainLead : Text → Bool
  | [] => false
  | c :: rest => c.isAlpha && rest.all fun c => c.isAlphanum || c == '_' || c == '-' || c == ' '

/-- The warnings about a package name. -/
def packageWarnings (name : Text) : List SettingsWarning :=
  if name.isEmpty then [] else (PackageFault.of name).map .package

/-- The warnings about a prefix. -/
def leadWarnings (lead : Text) : List SettingsWarning :=
  if lead.isEmpty || isPlainLead lead then [] else [.lead lead]

/-- The values that are suspicious; there is no answer if a name is no text. -/
def warnings? (s : Settings) : Option (List SettingsWarning) :=
  let checkText (value : Json) (check : Text → List SettingsWarning) :=
    match value with
    | .str t => some (check t)
    | value => if value.truthy then none else some []
  match checkText s.packageName packageWarnings, checkText s.lead leadWarnings with
  | some a, some b => some (a ++ b)
  | _, _ => none

end Settings

end SchemaStructs
