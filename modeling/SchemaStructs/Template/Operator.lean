import SchemaStructs.Template.Value

/-!
# Operators on values

What operators and signs give for values.  Truth values count as the integers zero and one.
Integers have all operations as long as the result is an integer or a quotient; texts and lists can
be added; integers and texts have an order.  A missing value has no operations at all.
-/

namespace SchemaStructs

namespace Template

namespace Operator

/-! ### Arithmetic -/

/-- A quotient as a floating-point number. -/
def quotient (a b : Int) : Json :=
  if a = 0 then .float (.finite (decide (b < 0)) 0 Binary.minExponent)
  else .float (.ofFraction (decide ((a < 0) ≠ (b < 0))) a.natAbs b.natAbs)

/-- What an operator gives for two integers, if it has a result. -/
def onIntegers? (op : Operator) (a b : Int) : Option (Except Failure Json) :=
  match op with
  | add => some (.ok (.int (a + b)))
  | subtract => some (.ok (.int (a - b)))
  | multiply => some (.ok (.int (a * b)))
  | divide => some (if b = 0 then .error (.divisionByZero op) else .ok (quotient a b))
  | floorDivide =>
    some (if b = 0 then .error (.divisionByZero op) else .ok (.int (Int.fdiv a b)))
  | modulo => some (if b = 0 then .error (.divisionByZero op) else .ok (.int (Int.fmod a b)))
  | power => if 0 ≤ b then some (.ok (.int (Int.pow a b.toNat))) else none
  | _ => none

/-- The integer that a value counts as. -/
def integer? : Value → Option Int
  | .json (.int n) => some n
  | .json (.bool b) => some b.toNat
  | _ => none

/-- The items of a list. -/
def items? : Value → Option (List Value)
  | .json (.arr items) => some (items.map .json)
  | .list items => some items
  | _ => none

/-- The sum of two values that are no numbers. -/
def sum (a b : Value) : Except Failure Value :=
  match a, b with
  | .json (.str s), .json (.str t) => .ok (.ofText (s ++ t))
  | .json (.str _), b => .error (.cannotExtend "str" b.kind)
  | .tuple xs, .tuple ys => .ok (.tuple (xs ++ ys))
  | .tuple _, b => .error (.cannotExtend "tuple" b.kind)
  | a, b =>
    match items? a, items? b with
    | some xs, some ys => .ok (.list (xs ++ ys))
    | some _, none => .error (.cannotExtend "list" b.kind)
    | none, _ => .error (.noOperation .add a.kind b.kind)

/-- What an operator of arithmetic gives. -/
def arithmetic (op : Operator) (a b : Value) : Except Failure Value :=
  match a, b with
  | .missing what, _ | _, .missing what => .error (.missing what)
  | a, b =>
    let result := do onIntegers? op (← integer? a) (← integer? b)
    match result with
    | some result => result.map .json
    | none => if op = add then sum a b else .error (.noOperation op a.kind b.kind)

/-! ### Comparisons -/

/-- Whether an order puts two values as the operator says: `before` if the first is less, `same` if
they are equal. -/
def holds (op : Operator) (before same : Bool) : Bool :=
  match op with
  | less => before
  | lessOrEqual => before || same
  | greater => !before && !same
  | _ => !before

/-- Whether two values stand in an order. -/
def ordered (op : Operator) (a b : Value) : Except Failure Bool :=
  match a, b with
  | .missing what, _ | _, .missing what => .error (.missing what)
  | .json (.str s), .json (.str t) => .ok (op.holds (decide (s < t)) (s == t))
  | a, b =>
    match integer? a, integer? b with
    | some m, some n => .ok (op.holds (decide (m < n)) (m == n))
    | _, _ => .error (.noOrder op a.kind b.kind)

/-- Whether a value equals one of several. -/
def among (v : Value) : List Value → Except Failure Bool
  | [] => .ok false
  | w :: rest => do
    if ← v.equal w then return true else among v rest

/-- Whether a value is a part of another. -/
def within? (v whole : Value) : Except Failure Bool :=
  match whole, v with
  | .missing what, _ => .error (.missing what)
  | .json (.str t), .json (.str part) => .ok (Text.occursIn part t)
  | .json (.str _), v => .error (.notPart v.kind)
  | .json (.obj members), v => among v (members.map fun m => .ofText m.1)
  | .table entries, v => among v (entries.map (·.1))
  | .tuple items, v => among v items
  | whole, v =>
    match items? whole with
    | some items => among v items
    | none => .error (.notWhole whole.kind)

/-! ### All operators -/

/-- What an operator gives for the values on its two sides, of which the right one may depend on
the left. -/
def apply (g : Graph) (op : Operator) (a : Value) (right : Except Failure Value) :
    Except Failure Value := do
  let truth (b : Bool) : Value := .json (.bool b)
  match op with
  | or => if ← a.truthy then return a else right
  | and => if ← a.truthy then right else return a
  | equal => return truth (← a.equal (← right))
  | unequal => return truth (!(← a.equal (← right)))
  | within => return truth (← within? a (← right))
  | notWithin => return truth (!(← within? a (← right)))
  | less | lessOrEqual | greater | greaterOrEqual => return truth (← op.ordered a (← right))
  | join => do
    let b ← right
    return .ofText ((← a.display? g) ++ (← b.display? g))
  | add | subtract | multiply | divide | floorDivide | modulo | power =>
    op.arithmetic a (← right)

end Operator

/-- What a sign gives for the value after it. -/
def Sign.apply (sign : Sign) (v : Value) : Except Failure Value :=
  match sign, v with
  | not, v => return .json (.bool !(← v.truthy))
  | _, .missing what => .error (.missing what)
  | minus, .json (.float (.finite negative m e)) => .ok (.json (.float (.finite (!negative) m e)))
  | plus, .json (.float x) => .ok (.json (.float x))
  | sign, v =>
    match Operator.integer? v with
    | some n => .ok (.json (.int (if sign = minus then -n else n)))
    | none => .error (.noSign sign v.kind)

end Template

end SchemaStructs
