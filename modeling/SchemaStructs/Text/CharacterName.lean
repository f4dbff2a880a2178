import SchemaStructs.Text.Digit
import SchemaStructs.Text.NameTable

/-!
# Characters by their names

`Text.characterNamed?` finds a character by the name that the Unicode standard gives to it.  The
names of most characters are listed; those of Hangul syllables and of unified ideographs follow from
the code points by a rule.  Small letters are as good as capitals in a listed name, but not in one
that follows from a rule.
-/

namespace SchemaStructs

namespace Text

/-- The text after the given start, if the text has it. -/
def afterLead? (lead t : Text) : Option Text :=
  if lead.isPrefixOf t then some (t.drop lead.length) else none

/-! ### Hangul syllables -/

/-- The names of initials. -/
def initialNames : List Text := splitOn ' ' "G GG N D DD R M B BB S SS  J JJ C K T P H"

/-- The names of vowels. -/
def vowelNames : List Text :=
  splitOn ' ' "A AE YA YAE EO E YEO YE O WA WAE OE YO U WEO WE WI YU EU YI I"

/-- The names of finals, the first for a syllable without one. -/
def finalNames : List Text :=
  splitOn ' ' " G GG GS N NJ NH D L LG LM LB LS LT LP LH M B BS S SS NG J C K T P H"

/-- The place of the longest of the names that the text starts with, and what follows it. -/
def longestLead? (names : List Text) (t : Text) : Option (Nat × Text) :=
  let fitting := names.zipIdx.filter fun (name, _) => name.isPrefixOf t
  let longest := fitting.map (·.1.length) |>.foldl max 0
  (fitting.find? (·.1.length == longest)).map fun (_, i) => (i, t.drop longest)

/-- The syllable with the given initial, vowel and final. -/
def syllableNamed? (name : Text) : Option Char := do
  let (initial, rest) ← longestLead? initialNames name
  let (vowel, rest) ← longestLead? vowelNames rest
  let (final, rest) ← longestLead? finalNames rest
  if rest.isEmpty then some (Char.ofNat (0xac00 + (initial * 21 + vowel) * 28 + final)) else none

/-! ### Ideographs -/

/-- The unified ideographs, as closed ranges of code points. -/
def ideographRanges : List (Nat × Nat) :=
  [(0x3400, 0x4dbf), (0x4e00, 0x9fff), (0x20000, 0x2a6df), (0x2a700, 0x2b738), (0x2b740, 0x2b81d),
   (0x2b820, 0x2cea1), (0x2ceb0, 0x2ebe0), (0x30000, 0x3134a)]

/-- The ideograph whose code point is given in four or five digits. -/
def ideographNumbered? (digits : Text) : Option Char :=
  let c := Char.ofNat (ofHex digits)
  if (digits.length = 4 ∨ digits.length = 5)
      ∧ digits.all (fun d => (hexDigit? d).isSome && !d.isLower) ∧ inRanges ideographRanges c then
    some c
  else none

/-! ### Listed names -/

/-- The character of a family whose names end with the code point. -/
def numbered? (name : Text) : Option Char :=
  numberedNames.findSome? fun (lead, first, last) => do
    let digits ← afterLead? lead name
    let n := ofHex digits
    if first ≤ n ∧ n ≤ last ∧ digits = (ofNatHex 4 n).map Char.toUpper then some (Char.ofNat n)
    else none

/-- The words of the name that an entry spells after another name. -/
def wordsAfter (previous : List Text) : Text → List Text
  | [] => previous
  | digit :: own => previous.take (toNat [digit]) ++ splitOn ' ' own

/-- The place of a name among those that the entries spell after another name. -/
def placeAmong? (name previous : List Text) : List Text → Option Nat
  | [] => none
  | entry :: rest =>
    let current := wordsAfter previous entry
    if current = name then some 0 else (placeAmong? name current rest).map (· + 1)

/-- The character of a name that is listed. -/
def listed? (name : Text) : Option Char :=
  let name := splitOn ' ' name
  (nameRuns ++ aliasRuns).findSome? fun (first, names) =>
    let entries := (splitOn ';' names).map trimLeft
    (placeAmong? name [] entries).map fun i => Char.ofNat (first + i)

/-! ### All names -/

/-- The character of the given name. -/
def characterNamed? (name : Text) : Option Char :=
  match afterLead? "HANGUL SYLLABLE " name with
  | some syllable => syllableNamed? syllable
  | none =>
    match afterLead? "CJK UNIFIED IDEOGRAPH-" name with
    | some digits => ideographNumbered? digits
    | none =>
      let name := name.map Char.toUpper
      (numbered? name).or (listed? name)

end Text

end SchemaStructs
