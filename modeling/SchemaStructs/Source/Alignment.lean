import SchemaStructs.Text.Basic

/-!
# Aligned struct bodies

The lines between the opening of a struct and its closing brace are indented by one tab.  In those
that are fields, names are padded to the longest name, and the types of fields with a tag to the
longest such type.  Blank lines inside a body go; lines outside of one stay as they are.
-/

namespace SchemaStructs

namespace Source

/-- A field of a struct. -/
structure Field where
  /-- The name of the field. -/
  name : Text
  /-- Its type. -/
  type : Text
  /-- Its tag, a raw string. -/
  tag : Option Text
  deriving DecidableEq, Repr

/-- The text is one raw string, from its first backtick to its last character. -/
def isTag (t : Text) : Bool :=
  match Text.splitOn '`' t with
  | [[], _, []] => true
  | _ => false

/-- Reads a line without blanks at its ends as a field: a name, a type and perhaps a tag. -/
def Field.ofLine? (line : Text) : Option Field :=
  let name := line.takeWhile (!Text.isBlank ·)
  let afterName := Text.trimLeft (line.drop name.length)
  let type := afterName.takeWhile (!Text.isBlank ·)
  let tag := Text.trimLeft (afterName.drop type.length)
  if name.isEmpty || type.isEmpty then none
  else if tag.isEmpty then some { name, type, tag := none }
  else if isTag tag then some { name, type, tag := some tag }
  else none

/-- The line opens a struct. -/
def opensStruct (line : Text) : Bool :=
  match Text.words line with
  | [keyword, _, struct] => keyword == ("type" : Text) && struct == ("struct\x7b" : Text)
  | [keyword, _, struct, brace] =>
    keyword == ("type" : Text) && struct == ("struct" : Text) && brace == ['\x7b']
  | _ => false

/-- The greatest of some lengths, zero if there is none. -/
def widest (lengths : List Nat) : Nat := lengths.foldl max 0

/-- A field with its columns padded to the given widths. -/
def Field.render (nameWidth typeWidth : Nat) (f : Field) : Text :=
  match f.tag with
  | some tag =>
    '\t' ::
      (Text.padRight nameWidth f.name ++ ' ' :: (Text.padRight typeWidth f.type ++ ' ' :: tag))
  | none => '\t' :: (Text.padRight nameWidth f.name ++ ' ' :: f.type)

/-- The lines of a struct body in aligned columns. -/
def alignBody (body : List Text) : List Text :=
  let fields := body.filterMap Field.ofLine?
  let nameWidth := widest (fields.map (·.name.length))
  let typeWidth := widest ((fields.filter (·.tag.isSome)).map (·.type.length))
  body.map fun line =>
    match Field.ofLine? line with
    | some f => f.render nameWidth typeWidth
    | none => '\t' :: line

/-- Aligns the struct bodies among the lines; `body` holds the lines of a body that is open. -/
def alignFrom (body : Option (List Text)) : List Text → List Text
  | [] => body.getD []
  | line :: rest =>
    let trimmed := Text.trim line
    match body with
    | none =>
      if opensStruct trimmed then trimmed :: alignFrom (some []) rest
      else line :: alignFrom none rest
    | some body =>
      if trimmed = ['\x7d'] then alignBody body ++ ['\x7d'] :: alignFrom none rest
      else if trimmed.isEmpty then alignFrom (some body) rest
      else alignFrom (some (body ++ [trimmed])) rest

/-- Aligns the struct bodies among the lines. -/
def align (lines : List Text) : List Text := alignFrom none lines

end Source

end SchemaStructs
