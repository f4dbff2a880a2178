import SchemaStructs.Cli.Arguments
import SchemaStructs.Cli.Console
import SchemaStructs.Loading.Load
import SchemaStructs.Log.Book
import SchemaStructs.Settings.File

/-!
# A run of the program

`run` is the whole program as a function: from the arguments and the world around it (files,
standard input and the answer of a server) to the files afterwards, standard output, what the user
is told, the addresses that were asked for, and the way in which the run ended.

A run goes through four stages, each of which can end it: the log is set up, the schema is read,
the settings are read, and code is generated and delivered to a file or to standard output.
-/

namespace SchemaStructs

namespace Cli

/-- What surrounds a run. -/
structure World where
  /-- The files. -/
  files : FileTree
  /-- The text on standard input. -/
  stdin : Text
  /-- What the server answers that is asked for a schema. -/
  reply : Reply
  /-- The time, as it stands in front of a line of the log. -/
  time : Text := LogSetup.noTime
  /-- What the reader of arguments makes of two hyphens as a value. -/
  dashes : Dashes := .dropped

/-- A failure that the program does not handle. -/
inductive Crash where
  /-- The log cannot be set up. -/
  | log (fault : LogFault)
  /-- The schema is damaged. -/
  | input (failure : LoadFailure)
  /-- The settings are damaged. -/
  | settings (failure : SettingsFailure)
  /-- A value that is no text stands where code needs a name. -/
  | generation (failure : Template.Failure)
  /-- The name of the file for the code is no text. -/
  | outputName (value : Json)
  /-- The name of the file for the code is impossible. -/
  | outputFile (cause : FileFault)

/-- The crash in words. -/
def Crash.message : Crash → Text
  | log fault => fault.message
  | input failure => failure.message
  | settings failure => failure.message
  | generation failure => failure.message
  | outputName value => "The name of the output file is no text: " ++ value.shown
  | outputFile cause => cause.message

/-- How a run ends. -/
inductive Ending where
  /-- With an exit code. -/
  | code (n : Nat)
  /-- With an exit code before anything is done, and a complaint unless only the version or help was
  asked for. -/
  | usage (n : Nat) (complaint : Text)
  /-- With a failure that is not handled. -/
  | crash (c : Crash)

/-- What a run leaves behind. -/
structure Outcome where
  /-- How it ended. -/
  ending : Ending
  /-- The text on standard output. -/
  stdout : Text := []
  /-- What the user was told. -/
  notices : List Notice := []
  /-- The files. -/
  files : FileTree
  /-- The addresses that were asked for. -/
  requests : List Text := []

/-! ### Arguments as a record and as settings -/

namespace Arguments

open Json (entry)

/-- The arguments as named values. -/
def toMembers (a : Arguments) : List (Text × Json) :=
  [entry "log_level" a.logLevel.toJson, entry "log_file" a.logFile.toJson,
    entry "file" ((a.file.map .str).getD .null), entry "url" a.url.toJson,
    entry "stdin" (.bool a.stdin), entry "output" a.output.toJson,
    entry "config" a.config.toJson, entry "package_name" a.package.toJson,
    entry "prefix" a.lead.toJson, entry "exported" (if a.exported then .bool true else .null),
    entry "conflict_strategy" a.onConflict.toJson, entry "no_comments" (.bool a.noComments),
    entry "no_format" (.bool a.noFormat), entry "verbose" (.bool a.verbose)]

/-- The record of the arguments. -/
def record (a : Arguments) : LogRecord :=
  let shown := a.toMembers.map fun (name, value) => name ++ '=' :: value.shown
  { level := .debug, logger := "xsdgen.cli"
    message := "Parsed arguments: Namespace(" ++ Text.joinWith ", " shown ++ [')'] }

/-- A setting from an option, unless the option is not given. -/
def given (key : String) : OptionValue → List (Text × Json)
  | .absent => []
  | value => [entry key value.toJson]

/-- A setting from an option, unless the option is not given or has an empty value. -/
def filled (key : String) (value : OptionValue) : List (Text × Json) :=
  (value.text?.map fun t => entry key (.str t)).toList

/-- The settings that the arguments give. -/
def overrides (a : Arguments) : List (Text × Json) :=
  given "package_name" a.package ++ given "prefix" a.lead
  ++ (if a.exported then [entry "exported" (.bool true)] else [])
  ++ filled "conflict_strategy" a.onConflict
  ++ (if a.noComments then [entry "add_comments" (.bool false)] else [])
  ++ (if a.noFormat then [entry "format_output" (.bool false)] else [])
  ++ filled "output_file" a.output

/-- The file with settings, if one is named. -/
def settingsFile? (a : Arguments) : Option Path := a.config.text?.map Path.ofText

end Arguments

/-! ### The schema -/

/-- Where the schema comes from. -/
inductive Input where
  /-- From a file. -/
  | file (path : Path)
  /-- From an address. -/
  | url (url : Text)
  /-- From standard input. -/
  | stdin
  /-- From nowhere. -/
  | none

/-- Where the arguments say that the schema comes from. -/
def Arguments.input (a : Arguments) : Input :=
  match a.file, a.url.text?, a.stdin with
  | some (c :: rest), _, _ => .file (Path.ofText (c :: rest))
  | _, some address, _ => .url address
  | _, _, true => .stdin
  | _, _, false => .none

/-- Why there is no schema or there are no settings. -/
inductive Refusal where
  /-- No source is named. -/
  | noInput
  /-- The text on standard input is no JSON document. -/
  | invalidStdin (doc : Text) (cause : Json.ReadError)
  /-- The schema cannot be loaded. -/
  | input (failure : LoadFailure)
  /-- The settings cannot be loaded. -/
  | settings (failure : SettingsFailure)

/-- The refusal in words. -/
def Refusal.message : Refusal → Text
  | noInput => "No input source specified"
  | invalidStdin doc cause => "Invalid JSON input: " ++ cause.message doc
  | input failure => "Failed to load input: " ++ failure.message
  | settings failure => "Configuration error: " ++ failure.message

/-- The crash that a refusal stands for, if the program does not handle it. -/
def Refusal.crash? : Refusal → Option Crash
  | invalidStdin _ (.invalid .halfPair _) => some (.input .halfPair)
  | invalidStdin _ (.invalid _ _) => none
  | invalidStdin _ cause => some (.input (.excessive cause))
  | input .noStatus => some (.input .noStatus)
  | input (.noItems kind) => some (.input (.noItems kind))
  | input (.undecodable fault) => some (.input (.undecodable fault))
  | input (.unusable cause) => some (.input (.unusable cause))
  | input (.excessive cause) => some (.input (.excessive cause))
  | input (.badHost fault) => some (.input (.badHost fault))
  | input (.unforeseen reason) => some (.input (.unforeseen reason))
  | input .halfPair => some (.input .halfPair)
  | settings (.undecodable fault) => some (.settings (.undecodable fault))
  | settings (.unusable cause) => some (.settings (.unusable cause))
  | settings (.excessive cause) => some (.settings (.excessive cause))
  | settings .halfPair => some (.settings .halfPair)
  | settings (.unshowable cause) => some (.settings (.unshowable cause))
  | _ => none

/-- The name of standard input as a source. -/
def stdinName : Text := "<stdin>"

/-- What is recorded before the schema is read. -/
def announce (files : FileTree) : Input → List LogRecord
  | .file path => (Loading.announceFile files path).records
  | _ => []

/-- The schema. -/
def readInput (w : World) (files : FileTree) : Input → Logged (Except Refusal (List Tree))
  | .file path => return (← Loading.ofFile files path).mapError .input
  | .url url => return (← Loading.ofUrl w.reply url).mapError .input
  | .stdin =>
    match Json.read w.stdin with
    | .error cause => return .error (.invalidStdin w.stdin cause)
    | .ok document => return (← Loading.ofDocument stdinName document).mapError .input
  | .none => return .error .noInput

/-- The addresses that are asked for the schema. -/
def Input.requests : Input → List Text
  | .url address => if Loading.asks address then [address] else []
  | _ => []

/-- The settings. -/
def readSettings (a : Arguments) (files : FileTree) : Except Refusal Settings :=
  (Settings.load files a.settingsFile? a.overrides).mapError .settings

/-! ### Stages -/

/-- A run that goes on: what it has left behind so far. -/
structure Progress where
  /-- The log book, and all files. -/
  book : LogBook
  /-- The text on standard output. -/
  stdout : Text := []
  /-- What the user was told. -/
  notices : List Notice := []

namespace Progress

/-- The part of the program that talks to the user. -/
def logger : Text := "xsdgen.codegen.cli_integration"

/-- Takes records into the log book. -/
def log (p : Progress) (records : List LogRecord) : Progress :=
  { p with book := p.book.add records }

/-- Records something that the program does for its user. -/
def report (p : Progress) (level : LogLevel) (message : Text) : Progress :=
  p.log [{ level, logger, message }]

/-- Tells the user something. -/
def tell (p : Progress) (notices : List Notice) : Progress :=
  { p with notices := p.notices ++ notices }

/-- The files. -/
def files (p : Progress) : FileTree := p.book.files

/-- Ends the run. -/
def finish (p : Progress) (ending : Ending) (requests : List Text) : Outcome :=
  { ending, stdout := p.stdout, notices := p.notices, files := p.files, requests }

/-- Tells the user why there is nothing to generate code from or no way to do it. -/
def refuse (p : Progress) (r : Refusal) : Progress × Ending :=
  match r.crash? with
  | some c => (p, .crash c)
  | none => ((p.tell [.failure r.message]).report .error r.message, .code 1)

/-- Warns the user about a setting. -/
def warn (p : Progress) (w : SettingsWarning) : Progress :=
  (p.tell [.settingWarning w.message]).report .warning w.message

/-- Tells the user what is known about generated code. -/
def tellResult (p : Progress) (verbose : Bool) (warnings : List Warning) (summary : Summary) :
    Progress :=
  let p := if verbose then p.tell [.empty, .summary summary] else p
  if warnings.isEmpty then p
  else p.tell (.warningHeading :: warnings.map .warning ++ [.empty])

/-- Delivers code to the file that the settings name, or to standard output if they name none.  If
that fails, the run ends. -/
def deliver (p : Progress) (output : Json) (code : Text) : Progress × Option Ending :=
  if !output.truthy then ({ p with stdout := p.stdout ++ code }, none)
  else match output with
    | .str t =>
      let path := Path.ofText t
      match p.files.write? path code with
      | .error .nullCharacter => (p, some (.crash (.outputFile .nullCharacter)))
      | .error cause => (p.tell [.writeFailure path cause], some (.code 1))
      | .ok files =>
        let p : Progress := { p with book := { p.book with files } }
        ((p.tell [.written path]).report .info ("Wrote " ++ path.toText), none)
    | value => (p, some (.crash (.outputName value)))

/-- Generates code and delivers it. -/
def generate (p : Progress) (verbose : Bool) (settings : Settings) (trees : List Tree) :
    Progress × Ending :=
  match Generator.ofSettings? settings with
  | none => (p, .code 1)
  | some gen =>
    let (g, roots) := Graph.ofTrees trees
    let result := gen.run g roots
    let p := p.log result.records
    match result.value with
    | .error failure => (p, .crash (.generation failure))
    | .ok (.failed failure) =>
      (p.tell (.generationFailure failure :: (failure.cause?.map .details).toList), .code 1)
    | .ok (.success code warnings summary) =>
      match p.deliver settings.outputFile code with
      | (p, some ending) => (p, ending)
      | (p, none) => (p.tellResult verbose warnings summary, .code 0)

/-- Reads the settings and generates the code of a schema. -/
def configure (p : Progress) (a : Arguments) (trees : List Tree) : Progress × Ending :=
  let settings := readSettings a p.files
  let p := p.log (Settings.loadRecords p.files a.settingsFile?)
  match settings with
  | .error r => p.refuse r
  | .ok settings =>
    let p := (settings.warnings?.getD []).foldl warn p
    p.generate a.verbose settings trees

/-- Reads the schema and goes on with it. -/
def start (p : Progress) (w : World) (a : Arguments) : Progress × Ending :=
  let p := p.log [a.record]
  let announced := p.log (announce p.files a.input)
  let input := readInput w announced.files a.input
  let p := p.log input.records
  match input.value with
  | .error r => p.refuse r
  | .ok trees => p.configure a trees

end Progress

/-! ### The program -/

/-- The name of the program and its version. -/
def versionLine : Text := "xsdgen 0.1.0\n"

/-- A complaint about the arguments. -/
def complaint (e : UsageError) : Text := "xsdgen: error: " ++ e.message

/-- Runs the program with arguments that are in order. -/
def perform (w : World) (a : Arguments) : Outcome :=
  let threshold := Threshold.ofJson a.logLevel.toJson
  match ({ files := w.files, time := w.time } : LogBook).configure threshold a.logFile.text? with
  | (book, some fault) => { ending := .crash (.log fault), files := book.files }
  | (book, none) =>
    let (p, ending) := Progress.start { book } w a
    p.finish ending a.input.requests

/-- Runs the program. -/
def run (w : World) (argv : List Text) : Outcome :=
  match Request.ofArguments w.dashes argv with
  | .run a => perform w a
  | .version => { ending := .usage 0 [], stdout := versionLine, files := w.files }
  | .help => { ending := .usage 0 [], stdout := helpText, files := w.files }
  | .wrong e => { ending := .usage 2 (complaint e), files := w.files }

end Cli

end SchemaStructs
