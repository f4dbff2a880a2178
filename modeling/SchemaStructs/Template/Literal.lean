import SchemaStructs.Template.Program
import SchemaStructs.Text.CharacterName

/-!
# Constants of a template

Numbers and texts in quotes as they are written in a template.  Each reader gives the constant at
the start of a text and what follows it.  Digits may be parted by single underscores; an integer may
be binary, octal or hexadecimal after `0b`, `0o` or `0x`.
-/

namespace SchemaStructs

namespace Template

/-! ### Digits -/

/-- The value of a digit. -/
def digitValue (c : Char) : Nat :=
  if c.isDigit then c.toNat - '0'.toNat else c.toLower.toNat - 'a'.toNat + 10

/-- A digit of a number system with the given base. -/
def isDigitOf (base : Nat) (c : Char) : Bool :=
  (c.isDigit || c.isAlpha) && digitValue c < base

/-- Digits, each perhaps after an underscore. -/
def digitRun (isDigit : Char → Bool) : Text → Text
  | [] => []
  | '_' :: c :: rest => if isDigit c then '_' :: c :: digitRun isDigit rest else []
  | c :: rest => if isDigit c then c :: digitRun isDigit rest else []

/-- Digits of which the first has no underscore before it. -/
def digits (t : Text) : Text :=
  if t.head?.any Char.isDigit then digitRun Char.isDigit t else []

/-- The value of digits; underscores do not count. -/
def valueOf (base : Nat) (ds : Text) : Nat :=
  (ds.filter (· != '_')).foldl (fun n d => base * n + digitValue d) 0

/-! ### Numbers -/

/-- The exponent at the start of a text: its digits, whether it is negative, and what follows. -/
def exponent? : Text → Option (Text × Bool × Text)
  | e :: rest =>
    if e = 'e' ∨ e = 'E' then
      let signed := rest.head? = some '-' ∨ rest.head? = some '+'
      let ds := digits (if signed then rest.drop 1 else rest)
      if ds.isEmpty then none
      else some (ds, rest.head? = some '-', rest.drop (ds.length + if signed then 1 else 0))
    else none
  | [] => none

/-- The floating-point number at the start of a text: digits with a fraction, an exponent or
both. -/
def float? (t : Text) : Option (Binary × Text) :=
  let whole := digits t
  let rest := t.drop whole.length
  let fraction := if rest.head? = some '.' then digits (rest.drop 1) else []
  let rest := if fraction.isEmpty then rest else rest.drop (fraction.length + 1)
  let number (e : Int) : Binary :=
    let places := (fraction.filter (· != '_')).length
    .ofDecimal false (valueOf 10 (whole ++ fraction)) (e - places)
  if whole.isEmpty then none
  else match exponent? rest with
    | some (ds, negative, rest) =>
      let e : Int := valueOf 10 ds
      some (number (if negative then -e else e), rest)
    | none => if fraction.isEmpty then none else some (number 0, rest)

/-- The base that a letter after a zero stands for. -/
def baseOf? (c : Char) : Option Nat :=
  if c = 'b' ∨ c = 'B' then some 2
  else if c = 'o' ∨ c = 'O' then some 8
  else if c = 'x' ∨ c = 'X' then some 16
  else none

/-- The integer at the start of a text in the number system that its first two characters name. -/
def basedInteger? : Text → Option (Nat × Text)
  | '0' :: letter :: rest => do
    let base ← baseOf? letter
    let ds := digitRun (isDigitOf base) rest
    if ds.isEmpty then none else some (valueOf base ds, rest.drop ds.length)
  | _ => none

/-- The integer at the start of a text.  After a zero only zeros follow. -/
def integer? (t : Text) : Option (Nat × Text) :=
  (basedInteger? t).or <| match t with
    | [] => none
    | c :: rest =>
      if c = '0' then some (0, rest.drop (digitRun (· == '0') rest).length)
      else if c.isDigit then
        let ds := c :: digitRun Char.isDigit rest
        some (valueOf 10 ds, t.drop ds.length)
      else none

/-! ### Texts -/

/-- What stands between quotes at the start of a text, with its escapes, and what follows the
closing quote. -/
def quotedPart? (quote : Char) : Text → Option (Text × Text)
  | [] => none
  | '\\' :: c :: rest => (quotedPart? quote rest).map fun (t, after) => ('\\' :: c :: t, after)
  | c :: rest =>
    if c = quote then some ([], rest)
    else (quotedPart? quote rest).map fun (t, after) => (c :: t, after)

/-- The characters that a backslash and one more character stand for. -/
def plainEscapes : List (Char × Char) :=
  [('\\', '\\'), ('\'', '\''), ('"', '"'), ('a', '\x07'), ('b', '\x08'), ('f', '\x0c'),
    ('n', '\n'), ('r', '\r'), ('t', '\t'), ('v', '\x0b')]

/-- The character of a code point; a surrogate, which is none, becomes the replacement character. -/
def charOf (n : Nat) : Char := if n.isValidChar then Char.ofNat n else '\ufffd'

/-- The character of a code point in exactly `width` hexadecimal digits, and the length of the
escape whose letter stands before them. -/
def numericEscape (width : Nat) (truncated : Text) (rest : Text) : Except Failure (Text × Nat) :=
  let ds := (rest.take width).takeWhile (isDigitOf 16)
  let n := valueOf 16 ds
  if ds.length < width then .error (.malformed truncated)
  else if 0x10ffff < n then .error (.malformed "illegal Unicode character")
  else .ok ([charOf n], width + 1)

/-- The character whose name stands in braces after the letter of an escape, and the length of the
escape. -/
def namedEscape (rest : Text) : Except Failure (Text × Nat) :=
  let name := (rest.drop 1).takeWhile (· != '\x7d')
  if rest.head? = some '\x7b' ∧ ¬ name.isEmpty ∧ name.length < (rest.drop 1).length then
    match Text.characterNamed? name with
    | some c => .ok ([c], name.length + 3)
    | none => .error (.malformed "unknown Unicode character name")
  else .error (.malformed "malformed \\N character escape")

/-- What the escape after a backslash stands for, and its length.  An unknown one stands for
itself. -/
def escape : Text → Except Failure (Text × Nat)
  | [] => .error (.malformed "\\ at end of string")
  | c :: rest =>
    match plainEscapes.find? (·.1 == c) with
    | some (_, d) => .ok ([d], 1)
    | none =>
      if c = '\n' then .ok ([], 1)
      else if c = 'x' then numericEscape 2 "truncated \\xXX escape" rest
      else if c = 'u' then numericEscape 4 "truncated \\uXXXX escape" rest
      else if c = 'U' then numericEscape 8 "truncated \\UXXXXXXXX escape" rest
      else if c = 'N' then namedEscape rest
      else if isDigitOf 8 c then
        let ds := ((c :: rest).take 3).takeWhile (isDigitOf 8)
        .ok ([charOf (valueOf 8 ds)], ds.length)
      else .ok (['\\', c], 1)

/-- The text with its escapes replaced; `skip` characters belong to an escape that was replaced
already. -/
def unescapeFrom (skip : Nat) : Text → Except Failure Text
  | [] => .ok []
  | c :: rest =>
    if skip ≠ 0 then unescapeFrom (skip - 1) rest
    else if c = '\\' then do
      let (t, length) ← escape rest
      let after ← unescapeFrom length rest
      return t ++ after
    else do
      let after ← unescapeFrom 0 rest
      return c :: after

/-- The text between quotes.  Characters beyond ASCII are turned into escapes first, so that a
backslash before one of them stays. -/
def unescape (t : Text) : Except Failure Text :=
  unescapeFrom 0 (t.flatMap fun c => if c.toNat < 0x80 then [c] else Json.numbered c)

end Template

end SchemaStructs
