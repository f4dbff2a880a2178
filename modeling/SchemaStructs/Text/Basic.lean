/-!
# Text

A text is a list of characters, so that every operation on it is a recursion on the list and
every length counts code points.  Literals are written as strings and coerced.
-/

namespace SchemaStructs

/-- A text, as the list of its characters. -/
abbrev Text := List Char

instance : Coe String Text := ⟨String.toList⟩

namespace Text

/-- Strings as texts. -/
def ofStrings (ss : List String) : List Text := ss.map String.toList

/-- The text as a string. -/
def asString (t : Text) : String := String.ofList t

/-! ### Cutting and joining -/

/-- The pieces of a text between the characters that `sep` admits: one more than there are such
characters, so an empty text has one empty piece. -/
def splitWhere (sep : Char → Bool) : Text → List Text
  | [] => [[]]
  | c :: rest =>
    if sep c then [] :: splitWhere sep rest
    else match splitWhere sep rest with
      | piece :: pieces => (c :: piece) :: pieces
      | [] => [[c]]

/-- The pieces of a text between the occurrences of a separator. -/
def splitOn (sep : Char) (t : Text) : List Text := splitWhere (· == sep) t

/-- The lines of a text. -/
def lines (t : Text) : List Text := splitOn '\n' t

/-- The pieces, with the separator between neighbours. -/
def joinWith (sep : Text) (pieces : List Text) : Text := List.intercalate sep pieces

/-- The lines as one text. -/
def unlines (ls : List Text) : Text := joinWith ['\n'] ls

/-! ### Searching -/

/-- What follows the first occurrence of `needle`, if there is one. -/
def after? (needle : Text) : Text → Option Text
  | [] => if needle.isEmpty then some [] else none
  | c :: rest =>
    if needle.isPrefixOf (c :: rest) then some ((c :: rest).drop needle.length)
    else after? needle rest

/-- `needle` occurs in the text. -/
def occursIn (needle t : Text) : Bool := (after? needle t).isSome

/-! ### Numbers and padding -/

/-- A number in decimal digits. -/
def ofNat (n : Nat) : Text := Nat.toDigits 10 n

/-- An integer in decimal digits, with a minus sign when it is negative. -/
def ofInt : Int → Text
  | .ofNat n => ofNat n
  | .negSucc n => '-' :: ofNat (n + 1)

/-- A number in lower-case hexadecimal digits, at least `width` of them. -/
def ofNatHex (width n : Nat) : Text :=
  let digits := Nat.toDigits 16 n
  List.replicate (width - digits.length) '0' ++ digits

/-- The text with spaces after it up to `width` characters. -/
def padRight (width : Nat) (t : Text) : Text := t ++ List.replicate (width - t.length) ' '

/-- A text of decimal digits as a number. -/
def toNat (digits : Text) : Nat := digits.foldl (fun n d => 10 * n + (d.toNat - '0'.toNat)) 0

/-! ### Character classes -/

/-- The character lies in one of the closed ranges of code points. -/
def inRanges (ranges : List (Nat × Nat)) (c : Char) : Bool :=
  ranges.any fun (first, last) => first ≤ c.toNat && c.toNat ≤ last

/-- The code points that separate words or lines: the controls from tab to carriage return and
from file to unit separator, the space, and the spaces and separators beyond ASCII. -/
def blankRanges : List (Nat × Nat) :=
  [(0x09, 0x0d), (0x1c, 0x20), (0x85, 0x85), (0xa0, 0xa0), (0x1680, 0x1680), (0x2000, 0x200a),
    (0x2028, 0x2029), (0x202f, 0x202f), (0x205f, 0x205f), (0x3000, 0x3000)]

/-- A blank character. -/
def isBlank (c : Char) : Bool := inRanges blankRanges c

/-- The text without its leading blanks. -/
def trimLeft (t : Text) : Text := t.dropWhile isBlank

/-- The text without its trailing blanks. -/
def trimRight : Text → Text
  | [] => []
  | c :: rest =>
    match trimRight rest with
    | [] => if isBlank c then [] else [c]
    | kept => c :: kept

/-- The text without the blanks at both ends. -/
def trim (t : Text) : Text := trimRight (trimLeft t)

/-- The words of a text, the longest runs without blanks. -/
def words (t : Text) : List Text := (splitWhere isBlank t).filter (!·.isEmpty)

end Text

end SchemaStructs
