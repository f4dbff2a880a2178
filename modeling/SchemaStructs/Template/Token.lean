import SchemaStructs.Template.Literal
import SchemaStructs.Text.Identifier
import SchemaStructs.Text.Word

/-!
# Tokens of a template

A template text is cut into tokens: plain text, expressions to print between double braces, and
tags between braces and percent signs; notes between braces and number signs are left out, as is one
that the template ends with before its text starts.

* The newline at the end of a template and those after a tag or a note do not count, nor do the
  blanks before a tag or a note that starts its line.  A minus sign inside a delimiter removes all
  blanks on its outer side, a plus sign keeps them.
* A closing delimiter counts only where all brackets before it are closed.
* Where a text cannot be cut into tokens stands a token that says why (`Token.broken`): it is an
  error only for those who read up to it.
-/

namespace SchemaStructs

namespace Template

/-- A token of a template. -/
inductive Token where
  /-- Plain text. -/
  | text (t : Text)
  /-- The start of an expression to print. -/
  | openOutput
  /-- The end of an expression to print. -/
  | closeOutput
  /-- The start of a tag. -/
  | openTag
  /-- The end of a tag. -/
  | closeTag
  /-- A name. -/
  | name (t : Text)
  /-- An integer. -/
  | integer (n : Nat)
  /-- A floating-point number. -/
  | float (x : Binary)
  /-- A text in quotes. -/
  | quoted (t : Text)
  /-- An operator or a bracket. -/
  | op (t : Text)
  /-- A place where there is no token. -/
  | broken (why : Failure)

/-- The token in words. -/
def Token.describe : Token → Text
  | text _ => "template data / text"
  | openOutput => "begin of print statement"
  | closeOutput => "end of print statement"
  | openTag => "begin of statement block"
  | closeTag => "end of statement block"
  | name t => t
  | integer _ => "integer"
  | float _ => "float"
  | quoted _ => "string"
  | op t => t
  | broken why => why.message

/-! ### Plain text -/

/-- The text with a newline for every line break, and without the last one. -/
def unifyLines : Text → Text
  | [] => []
  | '\r' :: '\n' :: rest => if rest.isEmpty then [] else '\n' :: unifyLines rest
  | c :: rest =>
    if c = '\r' ∨ c = '\n' then if rest.isEmpty then [] else '\n' :: unifyLines rest
    else c :: unifyLines rest

/-- A delimiter starts with an opening brace and one of these characters. -/
def opens (c : Char) : Bool := c == '\x7b' || c == '%' || c == '#'

/-- Cuts a text before the first delimiter. -/
def untilDelimiter : Text → Text × Text
  | [] => ([], [])
  | c :: rest =>
    if c = '\x7b' ∧ rest.head?.any opens then ([], c :: rest)
    else
      let (before, after) := untilDelimiter rest
      (c :: before, after)

/-- Leaves out the blanks at the end of a text that are all there is on their line. -/
def withoutIndent (startsLine : Bool) (t : Text) : Text :=
  let line := t.reverse.takeWhile (· != '\n')
  let before := t.reverse.dropWhile (· != '\n')
  if line.all Text.isBlank && (startsLine || !before.isEmpty) then before.reverse else t

/-- The plain text before a delimiter, given the character that follows the delimiter's first two:
a sign that decides about the blanks before it. -/
def beforeDelimiter (startsLine indented : Bool) (sign : Option Char) (t : Text) : Text :=
  if sign = some '-' then Text.trimRight t
  else if sign = some '+' || !indented then t
  else withoutIndent startsLine t

/-- The text as a token, unless it is empty. -/
def textToken (t : Text) : List Token := if t.isEmpty then [] else [.text t]

/-- Drops a sign from the start of a text. -/
def dropSign : Text → Text
  | '-' :: rest => rest
  | '+' :: rest => rest
  | t => t

/-! ### Closing delimiters -/

/-- Takes the blanks from the start of a text and says whether they end with a newline. -/
def skipBlanks (t : Text) : Bool × Text :=
  ((t.takeWhile Text.isBlank).getLast? == some '\n', t.dropWhile Text.isBlank)

/-- Takes one newline from the start of a text and says whether there was one. -/
def skipNewline : Text → Bool × Text
  | '\n' :: rest => (true, rest)
  | rest => (false, rest)

/-- The end of a printed expression, if the text starts with it: whether the text after it starts a
line, and that text. -/
def closeOutput? : Text → Option (Bool × Text)
  | '-' :: '\x7d' :: '\x7d' :: rest => some (skipBlanks rest)
  | '\x7d' :: '\x7d' :: rest => some (false, rest)
  | _ => none

/-- The end of a tag, if the text starts with it. -/
def closeTag? : Text → Option (Bool × Text)
  | '-' :: '%' :: '\x7d' :: rest => some (skipBlanks rest)
  | '+' :: '%' :: '\x7d' :: rest => some (false, rest)
  | '%' :: '\x7d' :: rest => some (skipNewline rest)
  | _ => none

/-- What follows a note whose text is given. -/
def afterNote? : Text → Option (Bool × Text)
  | '-' :: '#' :: '\x7d' :: rest => some (skipBlanks rest)
  | '+' :: '#' :: '\x7d' :: rest => some (false, rest)
  | '#' :: '\x7d' :: rest => some (skipNewline rest)
  | _ :: rest => afterNote? rest
  | [] => none

/-! ### Tokens inside delimiters -/

/-- The operators and brackets, longer ones first. -/
def operators : List Text :=
  Text.ofStrings ["//", "**", "==", "!=", ">=", "<="]
    ++ "+-/*%~[]()\x7b\x7d><=.:|,;".toList.map fun c => [c]

/-- A character that names are made of: one of a word or of an identifier, but no combining mark
of Unicode 12 or later. -/
def isNameChar (c : Char) : Bool :=
  Text.isWord c || Text.isIdentifierPart c && !Text.isLaterMark c

/-- A name as a token. -/
def nameToken (t : Text) : Token :=
  if Text.isIdentifier t then .name t else .broken (.malformed "Invalid character in identifier")

/-- A text between quotes as a token. -/
def quotedToken (t : Text) : Token :=
  match unescape t with
  | .ok t => .quoted t
  | .error why => .broken why

/-- The token at the start of a text and what follows it.  After a point there is no floating-point
number. -/
def token? (afterPoint : Bool) (t : Text) : Option (Token × Text) :=
  match if afterPoint then none else float? t with
  | some (x, rest) => some (.float x, rest)
  | none =>
    match integer? t with
    | some (n, rest) => some (.integer n, rest)
    | none =>
      let name := t.takeWhile isNameChar
      if !name.isEmpty then some (nameToken name, t.drop name.length)
      else
        let quote := t.head?.filter fun c => c == '"' || c == '\''
        match quote.bind fun c => quotedPart? c (t.drop 1) with
        | some (part, rest) => some (quotedToken part, rest)
        | none =>
          (operators.find? (·.isPrefixOf t)).map fun op => (.op op, t.drop op.length)

/-- The closing bracket of an opening one. -/
def closerOf? (op : Text) : Option Text :=
  if op = ['('] then some [')']
  else if op = ['['] then some [']']
  else if op = ['\x7b'] then some ['\x7d']
  else none

/-- The closing brackets that are waited for after an operator, the next one first. -/
def balance (waiting : List Text) (op : Text) : Except Failure (List Text) :=
  match closerOf? op with
  | some closer => .ok (closer :: waiting)
  | none =>
    if op = [')'] ∨ op = [']'] ∨ op = ['\x7d'] then
      match waiting with
      | [] => .error (.malformed ("unexpected '" ++ op ++ "'"))
      | closer :: rest =>
        if closer = op then .ok rest
        else .error (.malformed ("unexpected '" ++ op ++ "', expected '" ++ closer ++ "'"))
    else .ok waiting

/-! ### All tokens -/

/-- A part of a template. -/
inductive Region where
  /-- Plain text, which may start a line. -/
  | plain (startsLine : Bool)
  /-- An expression to print. -/
  | output
  /-- A tag. -/
  | tag
  deriving DecidableEq, Repr

/-- The end of a region inside delimiters, if the text starts with it: a token, whether the text
after it starts a line, and that text. -/
def Region.close? : Region → Text → Option (Token × Bool × Text)
  | plain _, _ => none
  | output, t => (closeOutput? t).map fun r => (.closeOutput, r)
  | tag, t => (closeTag? t).map fun r => (.closeTag, r)

/-- The tokens of a text in a region.  `waiting` are the closing brackets that are waited for;
`afterPoint` says that a point stands before the text; `size` is the length of the template, and
`fuel` is enough when it exceeds that of the text. -/
def tokensFrom (size : Nat) : (fuel : Nat) → Region → (waiting : List Text) →
    (afterPoint : Bool) → Text → List Token
  | 0, _, _, _, _ => []
  | fuel + 1, .plain startsLine, _, _, t =>
    match untilDelimiter t with
    | (before, _ :: kind :: inner) =>
      let before := beforeDelimiter startsLine (kind != '\x7b') inner.head? before
      let before := textToken before
      let inner := dropSign inner
      if kind = '#' then
        match afterNote? inner with
        | none =>
          if inner.isEmpty then before
          else before ++ [.broken (.malformed "Missing end of comment tag")]
        | some (startsLine, after) =>
          before ++ tokensFrom size fuel (.plain startsLine) [] false after
      else if kind = '%' then before ++ .openTag :: tokensFrom size fuel .tag [] false inner
      else before ++ .openOutput :: tokensFrom size fuel .output [] false inner
    | (before, _) => textToken before
  | _, _, _, _, [] => []
  | fuel + 1, region, waiting, afterPoint, c :: rest =>
    match if waiting.isEmpty then region.close? (c :: rest) else none with
    | some (closer, startsLine, after) =>
      closer :: tokensFrom size fuel (.plain startsLine) [] false after
    | none =>
      if Text.isBlank c then tokensFrom size fuel region waiting false rest
      else
        match token? afterPoint (c :: rest) with
        | none =>
          [.broken (.malformed ("unexpected char " ++ Json.quoted [c] ++ " at "
            ++ Text.ofNat (size - rest.length - 1)))]
        | some (.op op, after) =>
          match balance waiting op with
          | .error why => [.broken why]
          | .ok waiting => .op op :: tokensFrom size fuel region waiting (op == ['.']) after
        | some (token, after) => token :: tokensFrom size fuel region waiting false after

/-- The tokens of a template. -/
def tokens (template : Text) : List Token :=
  let t := unifyLines template
  tokensFrom t.length (t.length + 1) (.plain true) [] false t

end Template

end SchemaStructs
