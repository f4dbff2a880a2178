import SchemaStructs.Text.Case

/-!
# Paths

A path as the list of its parts.  Empty parts and single dots do not count; two dots are kept, since
what they mean depends on the folders.  A path starts at the working folder, or at the root of the
file system if it starts with slashes.
-/

namespace SchemaStructs

/-- A path. -/
structure Path where
  /-- The number of slashes at its start: none, one or two. -/
  slashes : Nat
  /-- The names on the way to the file. -/
  parts : List Text
  deriving DecidableEq, Inhabited

namespace Path

/-- The path that a text spells.  More than two slashes at its start count as one. -/
def ofText (t : Text) : Path :=
  let n := (t.takeWhile (· == '/')).length
  { slashes := if n ≤ 2 then n else 1
    parts := (Text.splitOn '/' t).filter fun part => !part.isEmpty && part != ['.'] }

/-- The path starts at the root of the file system. -/
def isAbsolute (p : Path) : Bool := p.slashes != 0

/-- The path as text. -/
def toText (p : Path) : Text :=
  let t := List.replicate p.slashes '/' ++ Text.joinWith ['/'] p.parts
  if t.isEmpty then ['.'] else t

/-- The parts of a way without detours: a part that is taken back at once is left out.  `back` holds
the parts so far, the latest first. -/
def straighten (back : List Text) : List Text → List Text
  | [] => back.reverse
  | part :: rest =>
    if part = ['.', '.'] then
      match back with
      | [] => straighten [part] rest
      | last :: before =>
        if last = ['.', '.'] then straighten (part :: back) rest else straighten before rest
    else straighten (part :: back) rest

/-- The path without detours, which leads to the same place if every folder on it exists.  Above the
root there is nothing. -/
def direct (p : Path) : Path :=
  let parts := straighten [] p.parts
  { p with parts := if p.isAbsolute then parts.dropWhile (· == ['.', '.']) else parts }

/-- The extension of a file name: what follows its last point, with the point.  A name that starts
or ends with its only point has none. -/
def extension (p : Path) : Text :=
  let name := p.parts.getLast?.getD []
  let afterPoint := name.reverse.takeWhile (· != '.')
  let before := (name.reverse.dropWhile (· != '.')).drop 1
  if afterPoint.isEmpty || before.isEmpty then [] else '.' :: afterPoint.reverse

/-- The file is named as a JSON document. -/
def namesJson (p : Path) : Bool := Text.lower p.extension == (".json" : Text)

end Path

end SchemaStructs
