import SchemaStructs.Json.Display
import SchemaStructs.Text.Digit

/-!
# Command line arguments

The options of the program and how arguments are read.  An option is named in full or by a start
that no other option shares; its value is the next argument or follows an equals sign, or the letter
of a short option.  An argument that starts with a hyphen is no value unless it looks like a
negative number.  Two hyphens end the options; as the value of one they are a text or a list without
items, and which of the two depends on the release of the reader (`Cli.Dashes`).  The last value of
an option counts.
-/

namespace SchemaStructs

namespace Cli

/-- What an option stands for. -/
inductive OptionKey where
  | help | version | logLevel | logFile | url | stdin | output | config | package | lead | exported
  | onConflict | noComments | noFormat | verbose
  deriving DecidableEq, Repr

/-- An option of the program. -/
structure OptionSpec where
  /-- What it stands for. -/
  key : OptionKey
  /-- Its names. -/
  names : List Text
  /-- It takes a value. -/
  takesValue : Bool
  /-- The values it takes, if not all. -/
  choices : List Text

/-- An option with the given names. -/
def option (key : OptionKey) (names : List String) (takesValue : Bool)
    (choices : List String) : OptionSpec :=
  { key, names := Text.ofStrings names, takesValue, choices := Text.ofStrings choices }

/-- The options of the program. -/
def options : List OptionSpec :=
  [ option .help ["-h", "--help"] false [],
    option .version ["--version"] false [],
    option .logLevel ["--log-level"] true ["DEBUG", "INFO", "WARNING", "ERROR"],
    option .logFile ["--log-file"] true [],
    option .url ["--url"] true [],
    option .stdin ["--stdin"] false [],
    option .output ["--output", "-o"] true [],
    option .config ["--config"] true [],
    option .package ["--package", "-p"] true [],
    option .lead ["--prefix"] true [],
    option .exported ["--exported"] false [],
    option .onConflict ["--on-conflict"] true ["first", "error"],
    option .noComments ["--no-comments"] false [],
    option .noFormat ["--no-format"] false [],
    option .verbose ["--verbose"] false [] ]

/-- The value of an option. -/
inductive OptionValue where
  /-- The option is not given. -/
  | absent
  /-- A text. -/
  | text (t : Text)
  /-- A list without items, which two hyphens may stand for. -/
  | noItems
  deriving DecidableEq, Inhabited

/-- What the reader of arguments makes of two hyphens that are given as the value of an option. -/
inductive Dashes where
  /-- Older releases drop them, and a list without items is left. -/
  | dropped
  /-- Newer releases keep them as a text. -/
  | kept
  deriving DecidableEq, Repr

namespace OptionValue

/-- The value that a text gives. -/
def ofText : Dashes → Text → OptionValue
  | .dropped, ['-', '-'] => noItems
  | _, t => text t

/-- The text, unless it is empty or there is none. -/
def text? : OptionValue → Option Text
  | text (c :: rest) => some (c :: rest)
  | _ => none

/-- The value as JSON. -/
def toJson : OptionValue → Json
  | absent => .null
  | text t => .str t
  | noItems => .arr []

end OptionValue

/-- The arguments of a run. -/
structure Arguments where
  /-- The threshold of the log. -/
  logLevel : OptionValue := .text "WARNING"
  /-- The file for the log. -/
  logFile : OptionValue := .absent
  /-- The file with the schema. -/
  file : Option Text := none
  /-- The address of the schema. -/
  url : OptionValue := .absent
  /-- The schema is read from standard input. -/
  stdin : Bool := false
  /-- The file for the code. -/
  output : OptionValue := .absent
  /-- The file with settings. -/
  config : OptionValue := .absent
  /-- The name of the package. -/
  package : OptionValue := .absent
  /-- What every type name starts with. -/
  lead : OptionValue := .absent
  /-- Every type name starts with a capital. -/
  exported : Bool := false
  /-- What to do with conflicts. -/
  onConflict : OptionValue := .absent
  /-- No comments before declarations. -/
  noComments : Bool := false
  /-- The code is not formatted. -/
  noFormat : Bool := false
  /-- A summary is shown. -/
  verbose : Bool := false

/-- A place that the schema can come from. -/
inductive Source where
  | file | url | stdin
  deriving DecidableEq, Repr

/-- The name of a source in messages. -/
def Source.name : Source → Text
  | file => "file"
  | url => "--url"
  | stdin => "--stdin"

/-- What is wrong with the arguments. -/
inductive UsageError where
  /-- Several options start like this. -/
  | ambiguous (argument : Text) (names : List Text)
  /-- An option without its value. -/
  | expectedValue (spec : OptionSpec)
  /-- A value for an option that takes none. -/
  | ignoredValue (spec : OptionSpec) (value : Text)
  /-- A value that the option does not take. -/
  | invalidChoice (spec : OptionSpec) (value : Text)
  /-- Two sources. -/
  | notAllowed (second first : Source)
  /-- No source. -/
  | noSource
  /-- Arguments that mean nothing. -/
  | unrecognized (arguments : List Text)

/-- The name of an option in messages. -/
def OptionSpec.title (spec : OptionSpec) : Text := Text.joinWith ['/'] spec.names

/-- An option as a line of help. -/
def OptionSpec.helpLine (spec : OptionSpec) : Text :=
  let value : Text := if spec.takesValue then " VALUE" else ""
  [' ', ' '] ++ Text.joinWith ", " spec.names ++ value

/-- How the program is used. -/
def helpText : Text :=
  Text.unlines ("usage: xsdgen [options] [file]" :: [] :: options.map OptionSpec.helpLine) ++ ['\n']

/-- What is wrong with the arguments in words. -/
def UsageError.message : UsageError → Text
  | ambiguous argument names =>
    "ambiguous option: " ++ argument ++ " could match " ++ Text.joinWith ", " names
  | expectedValue spec => "argument " ++ spec.title ++ ": expected one argument"
  | ignoredValue spec value =>
    "argument " ++ spec.title ++ ": ignored explicit argument " ++ Json.quoted value
  | invalidChoice spec value =>
    "argument " ++ spec.title ++ ": invalid choice: " ++ Json.quoted value ++ " (choose from "
      ++ Text.joinWith ", " (spec.choices.map Json.quoted) ++ ")"
  | notAllowed second first =>
    "argument " ++ second.name ++ ": not allowed with argument " ++ first.name
  | noSource => "one of the arguments file --url --stdin is required"
  | unrecognized arguments => "unrecognized arguments: " ++ Text.joinWith [' '] arguments

/-- What the arguments ask for. -/
inductive Request where
  /-- A run. -/
  | run (a : Arguments)
  /-- The version of the program. -/
  | version
  /-- How the program is used. -/
  | help
  /-- Nothing, for they are wrong. -/
  | wrong (e : UsageError)

/-! ### Single arguments -/

/-- What an argument is taken for. -/
inductive Mark where
  /-- A value or the name of a file. -/
  | plain
  /-- The end of the options. -/
  | dashes
  /-- An option, perhaps with a value. -/
  | option (spec : OptionSpec) (value : Option Text)
  /-- An option that there is not. -/
  | unknown

/-- The options by name, in order. -/
def optionNames : List (Text × OptionSpec) :=
  options.flatMap fun spec => spec.names.map fun name => (name, spec)

/-- The option of exactly this name. -/
def named? (name : Text) : Option OptionSpec := (optionNames.find? (·.1 == name)).map (·.2)

/-- The text before an equals sign and the text after it. -/
def splitEquals (t : Text) : Text × Option Text :=
  let before := t.takeWhile (· != '=')
  match t.drop before.length with
  | '=' :: after => (before, some after)
  | _ => (before, none)

/-- The text without a line break at its end. -/
def withoutLineBreak (t : Text) : Text := if t.getLast? = some '\n' then t.dropLast else t

/-- The text looks like a negative number.  A line break at its end does not count. -/
def isNegativeNumber (t : Text) : Bool :=
  match withoutLineBreak t with
  | '-' :: rest =>
    let whole := rest.takeWhile Text.isDecimalDigit
    match rest.drop whole.length with
    | [] => !whole.isEmpty
    | '.' :: fraction => !fraction.isEmpty && fraction.all Text.isDecimalDigit
    | _ => false
  | _ => false

/-- The options that an argument may mean, each with the value given along with it. -/
def candidates (argument : Text) : List (Text × OptionSpec × Option Text) :=
  match argument with
  | '-' :: '-' :: _ =>
    let (start, value) := splitEquals argument
    (optionNames.filter fun o => start.isPrefixOf o.1).map fun (name, spec) => (name, spec, value)
  | _ =>
    (optionNames.filter fun o => o.1 == argument.take 2).map fun (name, spec) =>
      (name, spec, some (argument.drop 2))

/-- What one argument is taken for. -/
def markOf (argument : Text) : Except UsageError Mark :=
  match argument with
  | '-' :: _ :: _ =>
    match named? argument with
    | some spec => .ok (.option spec none)
    | none =>
      let (name, value) := splitEquals argument
      match value.bind fun _ => named? name with
      | some spec => .ok (.option spec value)
      | none =>
        match candidates argument with
        | [(_, spec, value)] => .ok (.option spec value)
        | c :: cs => .error (.ambiguous argument ((c :: cs).map (·.1)))
        | [] =>
          if isNegativeNumber argument || argument.contains ' ' then .ok .plain
          else .ok .unknown
  | _ => .ok .plain

/-- What the arguments are taken for. -/
def marks : List Text → Except UsageError (List (Text × Mark))
  | [] => .ok []
  | argument :: rest =>
    if argument = ['-', '-'] then
      .ok ((argument, .dashes) :: rest.map fun a => (a, .plain))
    else do
      let mark ← markOf argument
      let others ← marks rest
      return (argument, mark) :: others

/-! ### All arguments -/

/-- What was read so far. -/
structure Reading where
  /-- What two hyphens are as a value. -/
  dashes : Dashes
  /-- The arguments of the run. -/
  arguments : Arguments := {}
  /-- The place for the name of a file is taken. -/
  fileDone : Bool := false
  /-- The sources that were given. -/
  sources : List Source := []
  /-- What means nothing. -/
  extras : List Text := []

/-- What ends the reading. -/
inductive Stop where
  | wrong (e : UsageError)
  | version
  | help

/-- Takes note of a source, which must be the only one. -/
def Reading.source (r : Reading) (s : Source) : Except Stop Reading :=
  match ([Source.file, .url, .stdin].filter (· != s)).find? r.sources.contains with
  | some first => .error (.wrong (.notAllowed s first))
  | none => .ok { r with sources := s :: r.sources }

/-- Takes the name of the file with the schema. -/
def Reading.takeFile (r : Reading) (name : Text) : Except Stop Reading := do
  let r ← r.source .file
  return { r with fileDone := true, arguments := { r.arguments with file := some name } }

/-- The option takes this value. -/
def OptionSpec.admits (spec : OptionSpec) : OptionValue → Bool
  | .text t => spec.choices.isEmpty || spec.choices.contains t
  | _ => true

/-- Takes an option with its value. -/
def Reading.takeValue (r : Reading) (spec : OptionSpec) (t : Text) : Except Stop Reading :=
  let value := OptionValue.ofText r.dashes t
  if !spec.admits value then .error (.wrong (.invalidChoice spec t))
  else
    let a := r.arguments
    match spec.key with
    | .logLevel => .ok { r with arguments := { a with logLevel := value } }
    | .logFile => .ok { r with arguments := { a with logFile := value } }
    | .url => do
      let r ← r.source .url
      return { r with arguments := { a with url := value } }
    | .output => .ok { r with arguments := { a with output := value } }
    | .config => .ok { r with arguments := { a with config := value } }
    | .package => .ok { r with arguments := { a with package := value } }
    | .lead => .ok { r with arguments := { a with lead := value } }
    | .onConflict => .ok { r with arguments := { a with onConflict := value } }
    | _ => .ok r

/-- Takes an option without a value. -/
def Reading.takeFlag (r : Reading) (spec : OptionSpec) : Except Stop Reading :=
  let a := r.arguments
  match spec.key with
  | .help => .error .help
  | .version => .error .version
  | .stdin => do
    let r ← r.source .stdin
    return { r with arguments := { a with stdin := true } }
  | .exported => .ok { r with arguments := { a with exported := true } }
  | .noComments => .ok { r with arguments := { a with noComments := true } }
  | .noFormat => .ok { r with arguments := { a with noFormat := true } }
  | .verbose => .ok { r with arguments := { a with verbose := true } }
  | _ => .ok r

/-- Checks the letters that follow a short option without a value.  Each is a short option itself,
up to one that takes a value, and has it in the rest of the letters or, if `valueFollows`, in the
next argument. -/
def checkLetters (spec : OptionSpec) (valueFollows : Bool) : Text → Except UsageError Unit
  | [] => .ok ()
  | c :: rest =>
    match named? ['-', c] with
    | none => .error (.ignoredValue spec (c :: rest))
    | some next =>
      if !next.takesValue then checkLetters next valueFollows rest
      else if rest.isEmpty && !valueFollows then .error (.expectedValue next)
      else .ok ()

/-- Checks the value that is given along with an option that takes none: only after a short option
is it no value but more options. -/
def checkJoined (spec : OptionSpec) (argument : Text) (valueFollows : Bool) (value : Text) :
    Except UsageError Unit :=
  if value.isEmpty || ("--" : Text).isPrefixOf argument then .error (.ignoredValue spec value)
  else checkLetters spec valueFollows value

/-- The next argument can be a value. -/
def valueFollows : List (Text × Mark) → Bool
  | (_, .plain) :: _ => true
  | _ => false

/-- Reads marked arguments in order. -/
def readMarked (r : Reading) : List (Text × Mark) → Except Stop Reading
  | [] => .ok r
  | (argument, .unknown) :: rest =>
    readMarked { r with extras := r.extras ++ [argument] } rest
  | (argument, .option spec (some value)) :: rest =>
    if spec.takesValue then do
      let r ← r.takeValue spec value
      readMarked r rest
    else do
      (checkJoined spec argument (valueFollows rest) value).mapError .wrong
      let r ← r.takeFlag spec
      readMarked r rest
  | (_, .option spec none) :: rest =>
    if spec.takesValue then
      match rest with
      | (value, .plain) :: rest => do
        let r ← r.takeValue spec value
        readMarked r rest
      | _ => .error (.wrong (.expectedValue spec))
    else do
      let r ← r.takeFlag spec
      readMarked r rest
  | (argument, .plain) :: (dashes, .dashes) :: rest =>
    if r.fileDone then readMarked { r with extras := r.extras ++ [argument, dashes] } rest
    else do
      let r ← r.takeFile argument
      readMarked r rest
  | (argument, .plain) :: rest =>
    if r.fileDone then readMarked { r with extras := r.extras ++ [argument] } rest
    else do
      let r ← r.takeFile argument
      readMarked r rest
  | (dashes, .dashes) :: (argument, .plain) :: rest =>
    if r.fileDone then readMarked { r with extras := r.extras ++ [dashes, argument] } rest
    else do
      let r ← r.takeFile argument
      readMarked r rest
  | (dashes, .dashes) :: rest =>
    if r.fileDone then readMarked { r with extras := r.extras ++ [dashes] } rest
    else readMarked { r with fileDone := true } rest

/-- Reads the arguments of the program. -/
def Request.ofArguments (dashes : Dashes) (argv : List Text) : Request :=
  match marks argv with
  | .error e => .wrong e
  | .ok marked =>
    match readMarked { dashes } marked with
    | .error (.wrong e) => .wrong e
    | .error .version => .version
    | .error .help => .help
    | .ok r =>
      if r.sources.isEmpty then .wrong .noSource
      else if !r.extras.isEmpty then .wrong (.unrecognized r.extras)
      else .run r.arguments

end Cli

end SchemaStructs
