import SchemaStructs.Files.Tree
import SchemaStructs.Log.Setup

/-!
# The log book

The log as it is kept: how records are handled, and the files that receive them.  A log book can be
set up again at any time; files are written at their end and never emptied.
-/

namespace SchemaStructs

/-- Why the log cannot be set up. -/
inductive LogFault where
  /-- There is no such threshold. -/
  | unknownLevel (name : Text)
  /-- The threshold has neither a name nor a number. -/
  | unfitLevel
  /-- The file of the log cannot be written. -/
  | unwritable (cause : FileFault)

/-- The fault in words. -/
def LogFault.message : LogFault → Text
  | unknownLevel name => "Unknown log level: " ++ name
  | unfitLevel => "A log level is a name or a number"
  | unwritable cause => cause.message

/-- How records are handled, the files that receive them, and the time they are made at. -/
structure LogBook where
  /-- The time, as it stands in front of a line. -/
  time : Text := LogSetup.noTime
  /-- How records are handled. -/
  setup : LogSetup := {}
  /-- The files, among them those of the log. -/
  files : FileTree := {}

namespace LogBook

/-- Writes a text to the end of the file of a handler; one that cannot be written stays as it is. -/
def write (files : FileTree) (t : Text) : LogHandler → FileTree
  | .console => files
  | .file path =>
    match files.append? (Path.ofText path).direct t with
    | .ok files => files
    | .error _ => files

/-- Takes records into the book. -/
def add (book : LogBook) (records : List LogRecord) : LogBook :=
  { book with
    files := book.setup.handlers.foldl
      (fun files h => write files (book.setup.fileText book.time records) h) book.files }

/-- Sets the log up with the number of a threshold and perhaps a file, which is made if there is
none.  The threshold counts even if the file cannot be written. -/
def openAt (book : LogBook) (level : LevelNumber) (file : Option Text) :
    LogBook × Option LogFault :=
  let setup := LogSetup.ofLevel level (file.getD [])
  match file with
  | none | some [] => ({ book with setup }.add [LogSetup.setupRecord level file], none)
  | some path =>
    match book.files.append? (Path.ofText path).direct [] with
    | .error cause =>
      ({ book with setup := LogSetup.ofLevel level [] }, some (.unwritable cause))
    | .ok files => ({ book with setup, files }.add [LogSetup.setupRecord level file], none)

/-- Sets the log up with a threshold and perhaps a file. -/
def configure (book : LogBook) (threshold : Threshold) (file : Option Text) :
    LogBook × Option LogFault :=
  match threshold with
  | .numbered n => book.openAt (.number n) file
  | .switched on => book.openAt (.switch on) file
  | .named name =>
    match LogSetup.number? name with
    | some n => book.openAt (.number n) file
    | none => (book, some (.unknownLevel name))
  | .unfit => (book, some .unfitLevel)

end LogBook

end SchemaStructs
