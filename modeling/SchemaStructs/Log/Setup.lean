import SchemaStructs.Json.Basic
import SchemaStructs.Log.Record
import SchemaStructs.Text.Case

/-!
# Setting up the log

Which records are kept and where they go.  The threshold is given by name or by number; zero leaves
it to the default of the whole program.  Records go to the console and, if asked for, to a file, one
line for each, which starts with the time.
-/

namespace SchemaStructs

/-- A threshold, as it is given. -/
inductive Threshold where
  /-- By name, in any case of its letters. -/
  | named (name : Text)
  /-- By number. -/
  | numbered (n : Int)
  /-- By a truth value, which counts as a number. -/
  | switched (on : Bool)
  /-- By something that is no threshold. -/
  | unfit

/-- The threshold that a value gives. -/
def Threshold.ofJson : Json → Threshold
  | .str name => named name
  | .int n => numbered n
  | .bool on => switched on
  | _ => unfit

/-- A threshold that is in force. -/
inductive LevelNumber where
  /-- A number. -/
  | number (n : Int)
  /-- A truth value, which counts as one or zero. -/
  | switch (on : Bool)
  deriving DecidableEq

namespace LevelNumber

/-- The number that counts. -/
def toInt : LevelNumber → Int
  | number n => n
  | switch on => on.toNat

/-- The threshold as it was given. -/
def toJson : LevelNumber → Json
  | number n => .int n
  | switch on => .bool on

/-- The threshold in words. -/
def toText : LevelNumber → Text
  | number n => Text.ofInt n
  | switch on => if on then "True" else "False"

end LevelNumber

/-- Where records go. -/
inductive LogHandler where
  /-- To the console. -/
  | console
  /-- To the end of a file. -/
  | file (path : Text)
  deriving DecidableEq

/-- How records are handled. -/
structure LogSetup where
  /-- The threshold, zero for the default. -/
  level : LevelNumber := .number 0
  /-- Where records go. -/
  handlers : List LogHandler := []

namespace LogSetup

/-- The names of thresholds. -/
def levels : List (Text × Int) :=
  [("NOTSET", 0), ("DEBUG", 10), ("INFO", 20), ("WARN", 30), ("WARNING", 30), ("ERROR", 40),
    ("FATAL", 50), ("CRITICAL", 50)].map fun (name, n) => (String.toList name, n)

/-- The number of a named threshold, if there is one. -/
def number? (name : Text) : Option Int := (levels.find? (·.1 == Text.upper name)).map (·.2)

/-- The threshold that counts when none is set. -/
def defaultLevel : Int := 30

/-- The threshold that counts. -/
def threshold (s : LogSetup) : Int :=
  if s.level.toInt = 0 then defaultLevel else s.level.toInt

/-- The record is kept. -/
def keeps (s : LogSetup) (r : LogRecord) : Bool := s.threshold ≤ r.level.toNat

/-- The name of the root of all loggers. -/
def rootLogger : Text := "xsdgen"

/-- The name of the logger of a part of the program, which lies below the root. -/
def loggerName (name : Text) : Text :=
  if name == rootLogger || (rootLogger ++ ['.']).isPrefixOf name then name
  else rootLogger ++ '.' :: name

/-- The setup with a threshold and perhaps a file. -/
def ofLevel (level : LevelNumber) (file : Text) : LogSetup :=
  { level, handlers := .console :: if file.isEmpty then [] else [.file file] }

/-- The record of a setup itself. -/
def setupRecord (level : LevelNumber) (file : Option Text) : LogRecord :=
  { level := .debug, logger := rootLogger
    message := "Logging configured (level=" ++ level.toText ++ ", file="
      ++ file.getD "None" ++ ")" }

/-- The time that counts if there is no clock, as it stands in front of a line. -/
def noTime : Text := "1970-01-01 00:00:00,000"

/-- A record as a line of a file, at the given time. -/
def line (time : Text) (r : LogRecord) : Text :=
  time ++ ' ' :: (Text.padRight 8 r.level.name ++ ' ' :: (r.logger ++ ": " ++ r.message ++ ['\n']))

/-- What a file gets of some records that are made at the given time. -/
def fileText (s : LogSetup) (time : Text) (records : List LogRecord) : Text :=
  (records.filter s.keeps).flatMap (line time)

end LogSetup

end SchemaStructs
