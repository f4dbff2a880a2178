import SchemaStructs.Json.Basic
import SchemaStructs.Text.Printable

/-!
# Values in messages

How a value is shown in a message: a text in single quotes, in double quotes when that saves
escaping, other characters that do not print by their code point, and the words `None`, `True` and
`False`.
-/

namespace SchemaStructs

namespace Json

/-- A character as the number of its code point. -/
def numbered (c : Char) : Text :=
  if c.toNat < 0x100 then "\\x" ++ Text.ofNatHex 2 c.toNat
  else if c.toNat < 0x10000 then "\\u" ++ Text.ofNatHex 4 c.toNat
  else "\\U" ++ Text.ofNatHex 8 c.toNat

/-- A character inside quotes. -/
def shownChar (quote c : Char) : Text :=
  if c = quote ∨ c = '\\' then ['\\', c]
  else if c = '\n' then ['\\', 'n']
  else if c = '\r' then ['\\', 'r']
  else if c = '\t' then ['\\', 't']
  else if Text.isPrintable c then [c]
  else numbered c

/-- A text in quotes. -/
def quoted (t : Text) : Text :=
  let quote := if t.contains '\'' && !t.contains '"' then '"' else '\''
  quote :: (t.flatMap (shownChar quote) ++ [quote])

mutual

/-- A value as it is shown inside a message. -/
def shown : Json → Text
  | null => "None"
  | bool true => "True"
  | bool false => "False"
  | int n => Text.ofInt n
  | float x => x.render
  | str t => quoted t
  | arr items => '[' :: (shownItems items ++ [']'])
  | obj members => '\x7b' :: (shownMembers members ++ ['\x7d'])

/-- The items of a list, separated by commas. -/
def shownItems : List Json → Text
  | [] => []
  | [item] => shown item
  | item :: rest => shown item ++ ", " ++ shownItems rest

/-- The members of an object, separated by commas. -/
def shownMembers : List (Text × Json) → Text
  | [] => []
  | [(key, value)] => quoted key ++ ": " ++ shown value
  | (key, value) :: rest => quoted key ++ ": " ++ shown value ++ ", " ++ shownMembers rest

end

/-- A value as text: a text stands for itself, all else is as in a message. -/
def display : Json → Text
  | str t => t
  | j => j.shown

end Json

end SchemaStructs
