import SchemaStructs.Text.Basic

/-!
# Balanced braces

Go source is read from left to right in three zones: code, raw strings between backticks, and
comments from two slashes to the end of the line.  `Source.check` accepts a source whose braces in
the code zone are balanced and whose raw strings are closed; otherwise it says what is wrong first.
-/

namespace SchemaStructs

namespace Source

/-- What a character of a source belongs to. -/
inductive Zone where
  /-- Code proper. -/
  | code
  /-- A raw string, its backticks included. -/
  | raw
  /-- A comment, without the newline that ends it. -/
  | comment
  deriving DecidableEq, Repr

/-- The zone that a character belongs to, given the zone before it and the character after it. -/
def Zone.enter (before : Zone) (c : Char) (next : Option Char) : Zone :=
  match before with
  | raw => raw
  | comment => if c = '\n' then code else comment
  | code => if c = '`' then raw else if c = '/' ∧ next = some '/' then comment else code

/-- The zone after a character of the zone `own`, given the zone before it. -/
def Zone.leave (before own : Zone) (c : Char) : Zone :=
  if before = raw ∧ c = '`' then code else own

/-- The characters of a source, each with its zone. -/
def zonesFrom (before : Zone) : Text → List (Char × Zone)
  | [] => []
  | c :: rest =>
    let own := before.enter c rest.head?
    (c, own) :: zonesFrom (before.leave own c) rest

/-- The zone that a source ends in. -/
def lastZone (before : Zone) : Text → Zone
  | [] => before
  | c :: rest => lastZone (before.leave (before.enter c rest.head?) c) rest

end Source

/-- Why a source is not well formed. -/
inductive BalanceFault where
  /-- A closing brace without an opening one, in the given line. -/
  | stray (line : Nat)
  /-- A raw string is still open at the end. -/
  | openTag
  /-- Some braces are still open at the end. -/
  | unclosed (count : Nat)
  deriving DecidableEq, Repr

/-- The fault in words. -/
def BalanceFault.message : BalanceFault → Text
  | stray line => "line " ++ Text.ofNat line ++ ": unexpected '\x7d'"
  | openTag => "unterminated struct tag"
  | unclosed count => "expected '\x7d', found EOF (" ++ Text.ofNat count ++ " unclosed)"

namespace Source

/-- Checks the rest of a source: `depth` braces are open, and the rest starts in the given line. -/
def checkFrom (before : Zone) (depth line : Nat) : Text → Except BalanceFault Unit
  | [] =>
    if before = .raw then .error .openTag
    else if depth = 0 then .ok ()
    else .error (.unclosed depth)
  | c :: rest =>
    let own := before.enter c rest.head?
    let after := before.leave own c
    if own = .code ∧ c = '\x7b' then checkFrom after (depth + 1) line rest
    else if own = .code ∧ c = '\x7d' then
      if depth = 0 then .error (.stray line) else checkFrom after (depth - 1) line rest
    else checkFrom after depth (if c = '\n' then line + 1 else line) rest

/-- Checks that the braces of a source are balanced and its raw strings closed. -/
def check (source : Text) : Except BalanceFault Unit := checkFrom .code 0 1 source

end Source

end SchemaStructs
