import SchemaStructs.Loading.Host

/-!
# Addresses

What can be fetched is named by a scheme and a host.  The scheme is a letter followed by letters,
digits, plus signs, hyphens and points, up to the first colon; the host follows two slashes.
-/

namespace SchemaStructs

namespace Url

/-- A character that can stand in a scheme. -/
def isSchemeChar (c : Char) : Bool := c.isAlphanum || c == '+' || c == '-' || c == '.'

/-- The text before the first colon and the text after it. -/
def splitColon (t : Text) : Option (Text × Text) :=
  let before := t.takeWhile (· != ':')
  match t.drop before.length with
  | ':' :: after => some (before, after)
  | _ => none

/-- The scheme of an address, empty if it has none, and what follows it. -/
def splitScheme (t : Text) : Text × Text :=
  match splitColon t with
  | some (c :: scheme, after) =>
    if c.isAlpha && scheme.all isSchemeChar then (c :: scheme, after) else ([], t)
  | _ => ([], t)

/-- The host of what follows a scheme, empty if there is none. -/
def host : Text → Text
  | '/' :: '/' :: rest => rest.takeWhile fun c => c != '/' && c != '?' && c != '#'
  | _ => []

/-- The address as it is read: leading controls and spaces and all line breaks and tabs do not
count. -/
def cleaned (t : Text) : Text :=
  (t.dropWhile fun c => c.toNat ≤ 0x20).filter fun c => c != '\t' && c != '\r' && c != '\n'

/-- What is wrong with the host of an address. -/
def hostFault? (t : Text) : Option HostFault := HostFault.of? (host (splitScheme (cleaned t)).2)

/-- Whether an address has both a scheme and a host. -/
def isComplete (t : Text) : Bool :=
  let (scheme, rest) := splitScheme (cleaned t)
  !scheme.isEmpty && !(host rest).isEmpty

end Url

end SchemaStructs
