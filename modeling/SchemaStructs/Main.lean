import SchemaStructs.Cli.Run
import Std.Time.Format

/-!
# The program

Runs `Cli.run` in the world around it: reads the files that the arguments and the settings name and
standard input, and afterwards writes what the run has left behind.  There is no network; whoever
asks for an address is told so.
-/

namespace SchemaStructs

namespace Program

/-- A place on the way to a path as a file name. -/
def fileName (path : Path) (parts : List Text) : String := { path with parts }.toText.asString

/-- Adds to a tree of files what stands on the way to a path. -/
def survey (tree : FileTree) (path : Path) : IO FileTree := do
  let path := path.direct
  let folder ← IO.currentDir
  let mut tree := tree
  for n in List.range path.parts.length do
    let parts := path.parts.take (n + 1)
    let place := if path.isAbsolute then FileTree.root ++ parts else parts
    let name := folder / fileName path parts
    if ← name.isDir then tree := tree.put place .folder
    else if ← name.pathExists then tree := tree.put place (.file (← IO.FS.readBinFile name))
  return tree

/-- Adds to a tree of files what stands on the way to a path that may not be given. -/
def surveyText (tree : FileTree) (path : Option Text) : IO FileTree :=
  match path with
  | some (c :: rest) => survey tree (Path.ofText (c :: rest))
  | _ => return tree

/-- The files that a run may touch. -/
def filesOf (a : Cli.Arguments) : IO FileTree := do
  let mut tree : FileTree := {}
  for path in [a.file, a.config.text?, a.logFile.text?, a.output.text?] do
    tree ← surveyText tree path
  match Cli.readSettings a tree with
  | .ok { outputFile := .str t, .. } => surveyText tree (some t)
  | _ => return tree

/-- What is left of standard input. -/
partial def readAll (input : IO.FS.Stream) (before : Text) : IO Text := do
  let line ← input.getLine
  if line.isEmpty then return before else readAll input (before ++ line.toList)

/-- What two hyphens are as the value of an option. -/
def dashes : Cli.Dashes := .dropped

/-- The world around a run with the given arguments. -/
def worldOf (argv : List Text) : IO Cli.World := do
  let reply := Reply.trouble .connection "there is no network"
  match Cli.Request.ofArguments dashes argv with
  | .run a => do
    let files ← filesOf a
    let stdin ← if a.stdin then readAll (← IO.getStdin) [] else pure []
    let time := (← Std.Time.PlainDateTime.now).format "uuuu-MM-dd HH:mm:ss,SSS"
    return { files, stdin := FileTree.unifyLineBreaks stdin, reply, time := time.toList, dashes }
  | _ => return { files := {}, stdin := [], reply, dashes }

/-- Writes the files that a run has changed. -/
def writeChanges (before after : FileTree) : IO Unit := do
  for (place, e) in after.entries do
    match e, before.entry? place with
    | .file bytes, some (.file old) => if bytes != old then write place bytes
    | .file bytes, _ => write place bytes
    | .folder, _ => pure ()
where
  /-- Writes the bytes of one file. -/
  write (place : List Text) (bytes : ByteArray) : IO Unit :=
    let path : Path :=
      if place.head? = some ['/'] then { slashes := 1, parts := place.tail }
      else { slashes := 0, parts := place }
    IO.FS.writeBinFile path.toText.asString bytes

/-- Reports how a run ended, and gives its exit code. -/
def finish : Cli.Ending → IO UInt32
  | .code n => return n.toUInt32
  | .usage n complaint => do
    if !complaint.isEmpty then IO.eprintln complaint.asString
    return n.toUInt32
  | .crash c => do
    IO.eprintln c.message.asString
    return 1

end Program

end SchemaStructs

open SchemaStructs in
/-- Runs the program with its arguments. -/
def main (arguments : List String) : IO UInt32 := do
  let argv := arguments.map String.toList
  let world ← Program.worldOf argv
  let outcome := Cli.run world argv
  Program.writeChanges world.files outcome.files
  for notice in outcome.notices do
    IO.eprintln notice.plain.asString
  IO.print outcome.stdout.asString
  Program.finish outcome.ending
