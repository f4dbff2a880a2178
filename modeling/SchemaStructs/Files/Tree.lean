import SchemaStructs.Files.Path
import SchemaStructs.Json.Display
import SchemaStructs.Text.Utf8

/-!
# Files

A tree of files and folders below the working folder.  Files hold bytes; reading one as text
requires valid UTF-8 and turns every line break into a newline, writing one replaces what it held.
Of what lies outside of the working folder only the folders above it are known.
-/

namespace SchemaStructs

/-- What stands at a path. -/
inductive FileEntry where
  /-- A file with its bytes. -/
  | file (bytes : ByteArray)
  /-- A folder. -/
  | folder
  deriving Inhabited

/-- Why a file cannot be used. -/
inductive FileFault where
  /-- There is no such file, or no folder to put it in. -/
  | notFound (path : Path)
  /-- It is a folder. -/
  | isFolder (path : Path)
  /-- It lies below a file. -/
  | notFolder (path : Path)
  /-- The path or a name on it has more bytes than a file system takes. -/
  | nameTooLong (path : Path)
  /-- The path has a null character. -/
  | nullCharacter
  deriving DecidableEq

/-- The fault in words. -/
def FileFault.message : FileFault → Text
  | notFound path => "[Errno 2] No such file or directory: " ++ Json.quoted path.toText
  | isFolder path => "[Errno 21] Is a directory: " ++ Json.quoted path.toText
  | notFolder path => "[Errno 20] Not a directory: " ++ Json.quoted path.toText
  | nameTooLong path => "[Errno 36] File name too long: " ++ Json.quoted path.toText
  | nullCharacter => "embedded null byte"

/-- Files and folders, each at its place: its way from the working folder or, after a slash, from
the root of all folders.  Folders that only lead to others are listed too. -/
structure FileTree where
  /-- What stands where; the first entry for a place counts. -/
  entries : List (List Text × FileEntry) := []
  deriving Inhabited

namespace FileTree

/-- The place of the root of all folders. -/
def root : List Text := [['/']]

/-- The place is the working folder or a folder above it, one for every part of two dots. -/
def isAbove (place : List Text) : Bool := place.all (· == ['.', '.'])

/-- What stands at a place. -/
def entry? (tree : FileTree) (place : List Text) : Option FileEntry :=
  if isAbove place || place == root then some .folder
  else (tree.entries.find? (·.1 == place)).map (·.2)

/-- The tree with an entry at a place. -/
def put (tree : FileTree) (place : List Text) (e : FileEntry) : FileTree :=
  { entries := (place, e) :: tree.entries.filter (·.1 != place) }

/-- The tree with an entry at a place, and folders on the way to it. -/
def plant (tree : FileTree) (place : List Text) (e : FileEntry) : FileTree :=
  let folders := (List.range place.length).map fun n => place.take n
  let missing := folders.filter fun f => (tree.entry? f).isNone
  put { entries := tree.entries ++ missing.map fun f => (f, .folder) } place e

/-! ### Paths to places -/

/-- How many bytes a name may have. -/
def maxNameSize : Nat := 255

/-- How many bytes a path may have. -/
def maxPathSize : Nat := 4095

/-- The folder that contains a folder. -/
def parent (place : List Text) : List Text :=
  if place = root then root
  else if isAbove place then ['.', '.'] :: place
  else place.dropLast

/-- The place that the rest of a path leads to from a place: an existing one, or one in an existing
folder. -/
def locate (tree : FileTree) (path : Path) (place : List Text) :
    List Text → Except FileFault (List Text)
  | [] => .ok place
  | part :: rest =>
    match tree.entry? place with
    | none => .error (.notFound path)
    | some (.file _) => .error (.notFolder path)
    | some .folder =>
      if part = ['.', '.'] then tree.locate path (parent place) rest
      else if maxNameSize < part.byteSize then .error (.nameTooLong path)
      else tree.locate path (place ++ [part]) rest

/-- The place of a path. -/
def place? (tree : FileTree) (path : Path) : Except FileFault (List Text) :=
  let t := path.toText
  if t.contains '\x00' then .error .nullCharacter
  else if maxPathSize < t.byteSize then .error (.nameTooLong path)
  else tree.locate path (if path.isAbsolute then root else []) path.parts

/-- Whether something stands at the path.  Nothing does if a folder on it is missing or the path has
a null character, but a path that is too long cannot even be asked for. -/
def contains? (tree : FileTree) (path : Path) : Except FileFault Bool :=
  match tree.place? path with
  | .ok place => .ok (tree.entry? place).isSome
  | .error (.nameTooLong path) => .error (.nameTooLong path)
  | .error _ => .ok false

/-! ### Reading and writing -/

/-- The bytes of a file. -/
def bytes? (tree : FileTree) (path : Path) : Except FileFault ByteArray := do
  let place ← tree.place? path
  match tree.entry? place with
  | some (.file bytes) => .ok bytes
  | some .folder => .error (.isFolder path)
  | none => .error (.notFound path)

/-- The text with a newline for every line break. -/
def unifyLineBreaks : Text → Text
  | [] => []
  | '\r' :: '\n' :: rest => '\n' :: unifyLineBreaks rest
  | c :: rest => (if c = '\r' then '\n' else c) :: unifyLineBreaks rest

/-- The text of bytes, with a newline for every line break. -/
def readText? (bytes : ByteArray) : Except Utf8Fault Text :=
  (Text.ofBytes bytes).map unifyLineBreaks

/-- Writes a text to a file, which replaces what it held. -/
def write? (tree : FileTree) (path : Path) (t : Text) : Except FileFault FileTree := do
  let place ← tree.place? path
  match tree.entry? place with
  | some .folder => .error (.isFolder path)
  | _ => .ok (tree.put place (.file t.toBytes))

/-- Writes a text to the end of a file, which is made if there is none. -/
def append? (tree : FileTree) (path : Path) (t : Text) : Except FileFault FileTree := do
  let place ← tree.place? path
  match tree.entry? place with
  | some .folder => .error (.isFolder path)
  | some (.file bytes) => .ok (tree.put place (.file (bytes ++ t.toBytes)))
  | none => .ok (tree.put place (.file t.toBytes))

end FileTree

end SchemaStructs
