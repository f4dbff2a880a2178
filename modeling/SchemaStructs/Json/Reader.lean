import SchemaStructs.Json.Basic
import SchemaStructs.Text.Digit

/-!
# Reading JSON

Reads a document into a value, or says what is wrong and at which offset.  The reader accepts the
words `NaN`, `Infinity` and `-Infinity`; a key that occurs twice keeps its first place and its last
value; a number is the longest run of characters that spells one.

Half of a surrogate pair is no character and has no place in a text.  A document with an escape of
one (`Json.halfPair?`) that is in order otherwise is given up at its end; what a reader would come
to that keeps the half is left open.
-/

namespace SchemaStructs

namespace Json

/-- What is wrong with a document. -/
inductive Fault where
  /-- No value starts here. -/
  | expectingValue
  /-- No key starts here. -/
  | expectingKey
  /-- A colon is missing. -/
  | expectingColon
  /-- A comma is missing. -/
  | expectingComma
  /-- Something follows the document. -/
  | extraData
  /-- A string that never ends starts here. -/
  | unterminated
  /-- A control character inside a string. -/
  | control
  /-- An unknown escape. -/
  | escape
  /-- An escape by code point without four hexadecimal digits. -/
  | codePoint
  /-- An escape of half of a surrogate pair, without the other half. -/
  | halfPair
  /-- The document starts with a byte order mark. -/
  | byteOrderMark
  deriving DecidableEq, Repr

/-- What is wrong with a document, in words. -/
def Fault.describe : Fault → Text
  | expectingValue => "Expecting value"
  | expectingKey => "Expecting property name enclosed in double quotes"
  | expectingColon => "Expecting ':' delimiter"
  | expectingComma => "Expecting ',' delimiter"
  | extraData => "Extra data"
  | unterminated => "Unterminated string starting at"
  | control => "Invalid control character at"
  | escape => "Invalid \\escape"
  | codePoint => "Invalid \\uXXXX escape"
  | halfPair => "Half of a surrogate pair at"
  | byteOrderMark => "Unexpected UTF-8 BOM (decode using utf-8-sig)"

/-- Why a document was not read. -/
inductive ReadError where
  /-- It is no JSON document: the fault and the offset of the character it lies at. -/
  | invalid (fault : Fault) (offset : Nat)
  /-- It holds an integer with more digits than are converted. -/
  | tooManyDigits (count : Nat)
  /-- Its lists and objects lie too deep inside each other. -/
  | tooDeep
  deriving DecidableEq, Repr

/-- The greatest number of digits of an integer. -/
def maxDigits : Nat := 4300

/-- How many lists and objects may lie inside each other. -/
def maxDepth : Nat := 985

/-- The message for a document that was not read. -/
def ReadError.message (doc : Text) : ReadError → Text
  | invalid fault offset =>
    let before := doc.take offset
    let line := before.count '\n' + 1
    let column := (before.reverse.takeWhile (· != '\n')).length + 1
    fault.describe ++ ": line " ++ Text.ofNat line ++ " column " ++ Text.ofNat column
      ++ " (char " ++ Text.ofNat offset ++ ")"
  | tooManyDigits count =>
    "Exceeds the limit (" ++ Text.ofNat maxDigits
      ++ " digits) for integer string conversion: value has " ++ Text.ofNat count
      ++ " digits; use sys.set_int_max_str_digits() to increase the limit"
  | tooDeep => "maximum recursion depth exceeded"

/-! ### The parts of a document

A reading function takes the offset of its text in the document and gives back the offset and the
text that follow what it read. -/

/-- What is left to read: the offset and the text from there on. -/
abbrev Rest := Nat × Text

/-- White space of a document. -/
def isSpace (c : Char) : Bool := c == ' ' || c == '\t' || c == '\n' || c == '\r'

/-- Skips white space. -/
def skipSpace (pos : Nat) : Text → Rest
  | [] => (pos, [])
  | c :: rest => if isSpace c then skipSpace (pos + 1) rest else (pos, c :: rest)

/-- Four hexadecimal digits that something follows, as a number. -/
def hexFour? : Text → Option (Nat × Text)
  | a :: b :: c :: d :: rest =>
    if rest.isEmpty then none
    else match Text.hexDigit? a, Text.hexDigit? b, Text.hexDigit? c, Text.hexDigit? d with
      | some a, some b, some c, some d => some (((a * 16 + b) * 16 + c) * 16 + d, rest)
      | _, _, _, _ => none
  | _ => none

/-- The character that a one-letter escape stands for. -/
def shortEscape? (c : Char) : Option Char :=
  match c with
  | '"' => some '"'
  | '\\' => some '\\'
  | '/' => some '/'
  | 'b' => some '\x08'
  | 'f' => some '\x0c'
  | 'n' => some '\n'
  | 'r' => some '\r'
  | 't' => some '\t'
  | _ => none

/-- A code unit that opens a surrogate pair. -/
def isHighSurrogate (n : Nat) : Bool := 0xd800 ≤ n && n ≤ 0xdbff

/-- A code unit that closes a surrogate pair. -/
def isLowSurrogate (n : Nat) : Bool := 0xdc00 ≤ n && n ≤ 0xdfff

/-- The code point that a surrogate pair stands for. -/
def joinSurrogates (high low : Nat) : Nat := 0x10000 + (high - 0xd800) * 0x400 + (low - 0xdc00)

/-- The character of an escape by number: the escape lies at `pos` and its digits start `hex`.  Two
escapes that make a surrogate pair are one character.  For half of a pair by itself a null character
stands in, until the document is given up (`halfPair?`). -/
def readCodePoint (pos : Nat) (hex : Text) : Except ReadError (Char × Rest) :=
  match hexFour? hex with
  | none => .error (.invalid .codePoint (pos + 1))
  | some (n, rest) =>
    let single : Char × Rest := (Char.ofNat n, pos + 6, rest)
    if isHighSurrogate n then
      match rest with
      | '\\' :: 'u' :: hex =>
        match hexFour? hex with
        | none => if hex.length ≤ 4 then .ok single else .error (.invalid .codePoint (pos + 7))
        | some (low, rest) =>
          if isLowSurrogate low then .ok (Char.ofNat (joinSurrogates n low), pos + 12, rest)
          else .ok single
      | _ => .ok single
    else .ok single

/-- The escape of a code unit that closes a surrogate pair starts the text. -/
def startsWithLow : Text → Bool
  | '\\' :: 'u' :: hex => (hexFour? hex).any fun (n, _) => isLowSurrogate n
  | _ => false

/-- How many characters an escape takes up after its backslash, if `t` follows that and the escape is
not half of a surrogate pair. -/
def escapeSize? (t : Text) : Option Nat :=
  match t with
  | [] => some 0
  | 'u' :: hex =>
    match hexFour? hex with
    | none => some 1
    | some (n, rest) =>
      if isHighSurrogate n then if startsWithLow rest then some 11 else none
      else if isLowSurrogate n then none
      else some 5
  | _ => some 1

/-- The offset of the first escape of half of a surrogate pair, in a document that is in order
otherwise: then backslashes stand in strings alone.  The next `skip` characters belong to an escape
that was looked at. -/
def halfPair? (pos skip : Nat) : Text → Option Nat
  | [] => none
  | c :: rest =>
    match skip with
    | skip + 1 => halfPair? (pos + 1) skip rest
    | 0 =>
      if c = '\\' then
        match escapeSize? rest with
        | some size => halfPair? (pos + 1) size rest
        | none => some pos
      else halfPair? (pos + 1) 0 rest

/-- The rest of a string whose opening quote lies at `start`.  `fuel` bounds the number of
characters. -/
def readString (start : Nat) : Nat → Nat → Text → Except ReadError (Text × Rest)
  | 0, _, _ => .error (.invalid .unterminated start)
  | _, _, [] => .error (.invalid .unterminated start)
  | fuel + 1, pos, c :: rest =>
    if c = '"' then .ok ([], pos + 1, rest)
    else if c = '\\' then
      match rest with
      | [] => .error (.invalid .unterminated start)
      | 'u' :: hex => do
        let (c, pos, rest) ← readCodePoint pos hex
        let (t, next) ← readString start fuel pos rest
        return (c :: t, next)
      | e :: rest =>
        match shortEscape? e with
        | none => .error (.invalid .escape pos)
        | some c => do
          let (t, next) ← readString start fuel (pos + 2) rest
          return (c :: t, next)
    else if c.toNat < 0x20 then .error (.invalid .control pos)
    else do
      let (t, next) ← readString start fuel (pos + 1) rest
      return (c :: t, next)

/-- The longest run of digits and what follows it. -/
def digitRun (t : Text) : Text × Text := (t.takeWhile Char.isDigit, t.dropWhile Char.isDigit)

/-- The fraction after a point, if digits follow the point. -/
def fractionPart : Text → Text × Text
  | '.' :: rest =>
    let (ds, after) := digitRun rest
    if ds.isEmpty then ([], '.' :: rest) else (ds, after)
  | t => ([], t)

/-- The exponent, if the letter is followed by digits: its sign, its digits and what follows. -/
def exponentPart (t : Text) : Option (Bool × Text × Nat × Text) :=
  match t with
  | e :: rest =>
    if e == 'e' || e == 'E' then
      let (negative, signSize, rest) := match rest with
        | '-' :: rest => (true, 1, rest)
        | '+' :: rest => (false, 1, rest)
        | rest => (false, 0, rest)
      let (ds, after) := digitRun rest
      if ds.isEmpty then none else some (negative, ds, 1 + signSize + ds.length, after)
    else none
  | [] => none

/-- The whole part of a number: a zero, or digits that start with another one. -/
def wholePart : Text → Option (Text × Text)
  | '0' :: rest => some (['0'], rest)
  | t =>
    let (ds, after) := digitRun t
    if ds.isEmpty then none else some (ds, after)

/-- A number that starts at the offset. -/
def readNumber (pos : Nat) (t : Text) : Except ReadError (Json × Rest) :=
  let (negative, signSize, unsigned) := match t with
    | '-' :: rest => (true, 1, rest)
    | t => (false, 0, t)
  match wholePart unsigned with
  | none => .error (.invalid .expectingValue pos)
  | some (whole, rest) =>
    let (fraction, rest) := fractionPart rest
    let size := signSize + whole.length + (if fraction.isEmpty then 0 else fraction.length + 1)
    match exponentPart rest with
    | some (negativeExponent, ds, exponentSize, rest) =>
      let e : Int := Text.toNat ds
      let e := (if negativeExponent then -e else e) - fraction.length
      .ok (.float (.ofDecimal negative (Text.toNat (whole ++ fraction)) e),
        pos + size + exponentSize, rest)
    | none =>
      if fraction.isEmpty then
        if maxDigits < whole.length then .error (.tooManyDigits whole.length)
        else
          let n : Int := Text.toNat whole
          .ok (.int (if negative then -n else n), pos + size, rest)
      else
        .ok (.float (.ofDecimal negative (Text.toNat (whole ++ fraction)) (-fraction.length)),
          pos + size, rest)

/-- The words that stand for values. -/
def words : List (Text × Json) :=
  [("null", .null), ("true", .bool true), ("false", .bool false), ("NaN", .float .nan),
    ("Infinity", .float (.infinite false)), ("-Infinity", .float (.infinite true))]

/-- A word or a number that starts at the offset. -/
def readPlain (pos : Nat) (t : Text) : Except ReadError (Json × Rest) :=
  match words.find? fun (word, _) => word.isPrefixOf t with
  | some (word, value) => .ok (value, pos + word.length, t.drop word.length)
  | none => readNumber pos t

mutual

/-- A value that starts at the offset.  `fuel` bounds the steps of the reading; twice the length of
the text is enough.  `room` is how many lists and objects may still be opened inside each other. -/
def readValue : (fuel room : Nat) → Nat → Text → Except ReadError (Json × Rest)
  | 0, _, pos, _ => .error (.invalid .expectingValue pos)
  | _, _, pos, [] => .error (.invalid .expectingValue pos)
  | fuel + 1, room, pos, c :: rest =>
    if c = '"' then do
      let (t, next) ← readString pos fuel (pos + 1) rest
      return (.str t, next)
    else if c = '[' then
      let (pos, rest) := skipSpace (pos + 1) rest
      match room, rest with
      | 0, _ => .error .tooDeep
      | _, ']' :: rest => .ok (.arr [], pos + 1, rest)
      | room + 1, _ => do
        let (items, next) ← readItems fuel room pos rest
        return (.arr items, next)
    else if c = '\x7b' then
      let (pos, rest) := skipSpace (pos + 1) rest
      match room, rest with
      | 0, _ => .error .tooDeep
      | _, '\x7d' :: rest => .ok (.obj [], pos + 1, rest)
      | room + 1, _ => do
        let (members, next) ← readMembers fuel room [] pos rest
        return (.obj members, next)
    else readPlain pos (c :: rest)

/-- The items of a list up to its closing bracket. -/
def readItems : (fuel room : Nat) → Nat → Text → Except ReadError (List Json × Rest)
  | 0, _, pos, _ => .error (.invalid .expectingValue pos)
  | fuel + 1, room, pos, t => do
    let (item, pos, rest) ← readValue fuel room pos t
    let (pos, rest) := skipSpace pos rest
    match rest with
    | ']' :: rest => return ([item], pos + 1, rest)
    | ',' :: rest =>
      let (pos, rest) := skipSpace (pos + 1) rest
      let (items, next) ← readItems fuel room pos rest
      return (item :: items, next)
    | _ => .error (.invalid .expectingComma pos)

/-- The members of an object up to its closing brace, after the members already read. -/
def readMembers : (fuel room : Nat) → List (Text × Json) → Nat → Text →
    Except ReadError (List (Text × Json) × Rest)
  | 0, _, _, pos, _ => .error (.invalid .expectingKey pos)
  | fuel + 1, room, members, pos, t =>
    match t with
    | '"' :: rest => do
      let (key, pos, rest) ← readString pos fuel (pos + 1) rest
      let (pos, rest) := skipSpace pos rest
      match rest with
      | ':' :: rest =>
        let (pos, rest) := skipSpace (pos + 1) rest
        let (value, pos, rest) ← readValue fuel room pos rest
        let members := insert members key value
        let (pos, rest) := skipSpace pos rest
        match rest with
        | '\x7d' :: rest => return (members, pos + 1, rest)
        | ',' :: rest =>
          let (pos, rest) := skipSpace (pos + 1) rest
          readMembers fuel room members pos rest
        | _ => .error (.invalid .expectingComma pos)
      | _ => .error (.invalid .expectingColon pos)
    | _ => .error (.invalid .expectingKey pos)

end

/-- The value of a whole document. -/
def read (doc : Text) : Except ReadError Json :=
  if doc.head? = some (Char.ofNat 0xfeff) then .error (.invalid .byteOrderMark 0)
  else do
    let (pos, rest) := skipSpace 0 doc
    let (value, pos, rest) ← readValue (2 * doc.length + 2) maxDepth pos rest
    let (pos, rest) := skipSpace pos rest
    if rest.isEmpty then
      match halfPair? 0 0 doc with
      | some offset => .error (.invalid .halfPair offset)
      | none => return value
    else .error (.invalid .extraData pos)

end Json

end SchemaStructs
