import SchemaStructs.Json.Display
import SchemaStructs.Text.Digit

/-!
# Hosts

Which hosts an address can name.  A host in brackets is a number of the sixth version of the
internet protocol or, after the letter `v`, of a later one.  A host has no character that stands for
one of the marks between the parts of an address.  `HostFault.of?` says what is wrong with a host.
-/

namespace SchemaStructs

/-- What is wrong with a host. -/
inductive HostFault where
  /-- A bracket without its counterpart, or one that does not enclose the host. -/
  | loneBracket
  /-- What stands in brackets is no number. -/
  | notNumber (inner : Text)
  /-- A number of the fourth version stands in brackets. -/
  | oldNumber
  /-- A number of a later version is malformed. -/
  | badFuture
  /-- A character stands for a mark between the parts of an address. -/
  | hiddenMark (host : Text)
  deriving DecidableEq

/-- The fault in words. -/
def HostFault.message : HostFault → Text
  | loneBracket => "Invalid IPv6 URL"
  | notNumber inner => Json.quoted inner ++ " does not appear to be an IPv4 or IPv6 address"
  | oldNumber => "An IPv4 address cannot be in brackets"
  | badFuture => "IPvFuture address is invalid"
  | hiddenMark host =>
    "netloc '" ++ host ++ "' contains invalid characters under NFKC normalization"

namespace Host

/-- A hexadecimal digit. -/
def isHexDigit (c : Char) : Bool := (Text.hexDigit? c).isSome

/-! ### Numbers -/

/-- A byte in decimal digits without needless zeros. -/
def isDecimalByte (t : Text) : Bool :=
  !t.isEmpty && t.all Char.isDigit && t.length ≤ 3 && (t == ['0'] || t.head? != some '0')
    && Text.toNat t ≤ 255

/-- A number of the fourth version: four bytes with points between them. -/
def isOldNumber (t : Text) : Bool :=
  let bytes := Text.splitOn '.' t
  bytes.length == 4 && bytes.all isDecimalByte

/-- Sixteen bits in hexadecimal digits. -/
def isHexPart (t : Text) : Bool := !t.isEmpty && t.all isHexDigit && t.length ≤ 4

/-- The parts of a number of the sixth version, with two parts for an old number at its end. -/
def numberParts (t : Text) : Option (List Text) :=
  let parts := Text.splitOn ':' t
  let last := parts.getLast?.getD []
  if parts.length < 3 then none
  else if !last.contains '.' then some parts
  else if isOldNumber last then some (parts.dropLast ++ [['0'], ['0']]) else none

/-- Some parts before or after a gap; an empty one may only stand beside the gap, alone. -/
def besideGap (parts : List Text) : Bool := parts == [[]] || parts.all isHexPart

/-- How many parts beside a gap count. -/
def countBesideGap (parts : List Text) : Nat := if parts == [[]] then 0 else parts.length

/-- The parts make a number: eight of them, or fewer around one gap. -/
def areNumber (parts : List Text) : Bool :=
  let before := parts.take 1 ++ (parts.drop 1).dropLast.takeWhile (!·.isEmpty)
  match parts.drop before.length with
  | [] :: after =>
    if after.isEmpty then false
    else besideGap before && besideGap after
      && countBesideGap before + countBesideGap after < 8
  | _ => parts.length == 8 && parts.all isHexPart

/-- The text before the first percent sign, if what follows the sign names a zone. -/
def withoutZone (t : Text) : Option Text :=
  let number := t.takeWhile (· != '%')
  match t.drop number.length with
  | [] => some number
  | _ :: zone => if zone.isEmpty || zone.contains '%' then none else some number

/-- A number of the sixth version, perhaps with a zone. -/
def isNumber (t : Text) : Bool :=
  ((withoutZone t).bind numberParts).any areNumber

/-- A number of a later version: its version, a point and more. -/
def isFutureNumber (t : Text) : Bool :=
  let version := (t.drop 1).takeWhile isHexDigit
  match t.drop (version.length + 1) with
  | '.' :: _ :: _ => !version.isEmpty
  | _ => false

/-- What is wrong with the text in brackets. -/
def bracketFault? (inner : Text) : Option HostFault :=
  if inner.head? = some 'v' then if isFutureNumber inner then none else some .badFuture
  else if isOldNumber inner then some .oldNumber
  else if isNumber inner then none else some (.notNumber inner)

/-- The host proper: what follows the last at sign. -/
def withoutUser (host : Text) : Text := (host.reverse.takeWhile (· != '@')).reverse

/-- What is wrong with a host that has brackets.  The host proper is a number in brackets, followed
by nothing or by a port; without brackets of its own it still has to be such a number. -/
def bracketedFault? (host : Text) : Option HostFault :=
  let proper := withoutUser host
  let before := proper.takeWhile (· != '[')
  match proper.drop before.length with
  | [] => bracketFault? (proper.takeWhile (· != ':'))
  | _ :: bracketed =>
    let inner := bracketed.takeWhile (· != ']')
    let port := bracketed.drop (inner.length + 1)
    if !before.isEmpty || !(port.isEmpty || port.head? == some ':') then some .loneBracket
    else bracketFault? inner

/-! ### Marks -/

/-- The code points beyond ASCII that are compatible with a slash, a question mark, a number sign,
an at sign or a colon, or with a text that has one. -/
def markLikes : List Nat :=
  [0x2047, 0x2048, 0x2049, 0x2100, 0x2101, 0x2105, 0x2106, 0x2a74, 0xfe13, 0xfe16, 0xfe55, 0xfe56,
    0xfe5f, 0xfe6b, 0xff03, 0xff0f, 0xff1a, 0xff1f, 0xff20]

end Host

/-- What is wrong with a host. -/
def HostFault.of? (host : Text) : Option HostFault :=
  if host.contains '[' != host.contains ']' then some .loneBracket
  else match if host.contains '[' then Host.bracketedFault? host else none with
    | some fault => some fault
    | none =>
      if host.any fun c => Host.markLikes.contains c.toNat then some (.hiddenMark host) else none

end SchemaStructs
