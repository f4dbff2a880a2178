import SchemaStructs.Json.Basic

/-!
# Writing JSON

The document form of a value: `Json.compact` on one line, `Json.pretty` with every item and member
on a line of its own, indented by two spaces per level.  Only quotes, backslashes and control
characters are escaped.
-/

namespace SchemaStructs

namespace Json

/-- A character inside a JSON string. -/
def escapedChar (c : Char) : Text :=
  if c = '"' ∨ c = '\\' then ['\\', c]
  else if c = '\n' then ['\\', 'n']
  else if c = '\r' then ['\\', 'r']
  else if c = '\t' then ['\\', 't']
  else if c = '\x08' then ['\\', 'b']
  else if c = '\x0c' then ['\\', 'f']
  else if c.toNat < 0x20 then "\\u" ++ Text.ofNatHex 4 c.toNat
  else [c]

/-- A text as a JSON string. -/
def written (t : Text) : Text := '"' :: (t.flatMap escapedChar ++ ['"'])

/-- A number as a JSON document spells it. -/
def writtenFloat : Binary → Text
  | .nan => "NaN"
  | .infinite negative => if negative then "-Infinity" else "Infinity"
  | x => x.render

mutual

/-- The value on one line. -/
def compact : Json → Text
  | null => "null"
  | bool true => "true"
  | bool false => "false"
  | int n => Text.ofInt n
  | float x => writtenFloat x
  | str t => written t
  | arr items => '[' :: (compactItems items ++ [']'])
  | obj members => '\x7b' :: (compactMembers members ++ ['\x7d'])

/-- The items of a list, separated by commas. -/
def compactItems : List Json → Text
  | [] => []
  | [item] => compact item
  | item :: rest => compact item ++ "," ++ compactItems rest

/-- The members of an object, separated by commas. -/
def compactMembers : List (Text × Json) → Text
  | [] => []
  | [(key, value)] => written key ++ ":" ++ compact value
  | (key, value) :: rest => written key ++ ":" ++ compact value ++ "," ++ compactMembers rest

end

/-- A new line at a level of indentation. -/
def newline (level : Nat) : Text := '\n' :: List.replicate (2 * level) ' '

mutual

/-- The value at a level of indentation. -/
def prettyAt (level : Nat) : Json → Text
  | null => "null"
  | bool true => "true"
  | bool false => "false"
  | int n => Text.ofInt n
  | float x => writtenFloat x
  | str t => written t
  | arr [] => "[]"
  | arr items => '[' :: (prettyItems (level + 1) items ++ newline level ++ [']'])
  | obj [] => ['\x7b', '\x7d']
  | obj members => '\x7b' :: (prettyMembers (level + 1) members ++ newline level ++ ['\x7d'])

/-- The items of a list, each on a line of its own. -/
def prettyItems (level : Nat) : List Json → Text
  | [] => []
  | [item] => newline level ++ prettyAt level item
  | item :: rest => newline level ++ prettyAt level item ++ "," ++ prettyItems level rest

/-- The members of an object, each on a line of its own. -/
def prettyMembers (level : Nat) : List (Text × Json) → Text
  | [] => []
  | [(key, value)] => newline level ++ written key ++ ": " ++ prettyAt level value
  | (key, value) :: rest =>
    newline level ++ written key ++ ": " ++ prettyAt level value ++ "," ++ prettyMembers level rest

end

/-- The value as an indented document. -/
def pretty (j : Json) : Text := prettyAt 0 j

end Json

end SchemaStructs
