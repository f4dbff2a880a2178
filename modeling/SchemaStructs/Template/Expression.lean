import SchemaStructs.Template.Token

/-!
# Reading expressions

Turns tokens into expressions.  What binds tightest comes last in this list: `or`; `and`; `not`;
comparisons; `+` and `-`; `~`; `*`, `/`, `//` and `%`; `**`; a sign; filters; members, items and
applications.  A chain of comparisons holds if each of them does.

A reading function takes the tokens that are left and gives back those that follow what it read.
Whoever reads a token looks at the next one, too, so a broken token is an error as soon as the one
before it is read.  `fuel` bounds the depth; `fuelFor` is enough.
-/

namespace SchemaStructs

namespace Template

/-- What was read, and the tokens after it. -/
abbrev Parsed (α : Type) := α × List Token

/-! ### Single tokens -/

/-- The tokens after one that was read. -/
def advance : List Token → Except Failure (List Token)
  | .broken why :: _ => .error why
  | ts => .ok ts

/-- The next token in words. -/
def describeNext : List Token → Text
  | [] => "end of template"
  | token :: _ => token.describe

/-- The failure when the next token means nothing here. -/
def unexpected (ts : List Token) : Failure :=
  .malformed ("unexpected " ++ Json.quoted (describeNext ts))

/-- The failure when the next token is not what must stand here. -/
def expected (wanted : Text) : List Token → Failure
  | [] => .malformed ("unexpected end of template, expected " ++ Json.quoted wanted ++ ".")
  | ts => .malformed ("expected token " ++ Json.quoted wanted ++ ", got "
      ++ Json.quoted (describeNext ts))

/-- The tokens after an operator, if it is the next token. -/
def afterOp? (op : Text) : List Token → Option (List Token)
  | .op o :: rest => if o = op then some rest else none
  | _ => none

/-- Reads an operator. -/
def readOp (op : Text) (ts : List Token) : Except Failure (List Token) :=
  match afterOp? op ts with
  | some rest => advance rest
  | none => .error (expected op ts)

/-- Reads a name. -/
def readName : List Token → Except Failure (Parsed Text)
  | .name n :: rest => return (n, ← advance rest)
  | ts => .error (expected "name" ts)

/-! ### Operators -/

/-- The level of comparisons. -/
def comparisonLevel : Nat := 3

/-- The level of what is no operator. -/
def signLevel : Nat := 8

/-- The operators of each level that stand between two values and are no words. -/
def operatorsAt : Nat → List Operator
  | 3 => [.equal, .unequal, .less, .lessOrEqual, .greater, .greaterOrEqual]
  | 4 => [.add, .subtract]
  | 5 => [.join]
  | 6 => [.multiply, .divide, .floorDivide, .modulo]
  | 7 => [.power]
  | _ => []

/-- The operator of a level that the tokens start with, and the tokens after it. -/
def operator? (level : Nat) : List Token → Option (Operator × List Token)
  | .op o :: rest => ((operatorsAt level).find? (·.symbol == o)).map fun op => (op, rest)
  | .name n :: rest =>
    if level = 0 ∧ n = Operator.or.symbol then some (.or, rest)
    else if level = 1 ∧ n = Operator.and.symbol then some (.and, rest)
    else if level = comparisonLevel ∧ n = Operator.within.symbol then some (.within, rest)
    else if level = comparisonLevel ∧ n = Sign.not.symbol then
      match rest with
      | .name m :: rest => if m = Operator.within.symbol then some (.notWithin, rest) else none
      | _ => none
    else none
  | _ => none

/-- The tokens after the word of negation, if it is the next token and has its place at the
level. -/
def afterNot? (level : Nat) : List Token → Option (List Token)
  | .name n :: rest => if level = 2 ∧ n = Sign.not.symbol then some rest else none
  | _ => none

/-- Adds an operand to those of a level: `whole` is what was read before `last`, if anything was,
together with it. -/
def extended (level : Nat) (whole : Option Expr) (last : Expr) (op : Operator) (right : Expr) :
    Expr :=
  match whole with
  | none => .binary op last right
  | some e =>
    if level = comparisonLevel then .binary .and e (.binary op last right) else .binary op e right

/-! ### Constants and names -/

/-- What a name stands for: some are constants. -/
def Expr.ofName (n : Text) : Expr :=
  if n = ("true" : Text) ∨ n = ("True" : Text) then .literal (.bool true)
  else if n = ("false" : Text) ∨ n = ("False" : Text) then .literal (.bool false)
  else if n = ("none" : Text) ∨ n = ("None" : Text) then .literal .null
  else .named n

/-- Reads texts in quotes, which are one text if they follow each other. -/
def readQuoted (before : Text) : List Token → Except Failure (Parsed Text)
  | .quoted t :: rest => readQuoted (before ++ t) rest
  | ts => return (before, ← advance ts)

/-- The tokens end a list that needs no brackets. -/
def endsTuple : List Token → Bool
  | .closeOutput :: _ | .closeTag :: _ => true
  | .op o :: _ => o == [')']
  | _ => false

/-! ### Expressions -/

mutual

/-- Reads an expression of at least the given level. -/
def readLevel : (fuel : Nat) → (level : Nat) → List Token → Except Failure (Parsed Expr)
  | 0, _, _ => .error .tooDeep
  | fuel + 1, level, ts =>
    if signLevel ≤ level then readSigned fuel true ts
    else match afterNot? level ts with
      | some rest => do
        let (e, rest) ← readLevel fuel level (← advance rest)
        return (.signed .not e, rest)
      | none => do
        let (first, ts) ← readLevel fuel (level + 1) ts
        readMore fuel level none first ts

/-- Reads the operators of a level and the operands after them. -/
def readMore : (fuel : Nat) → (level : Nat) → (whole : Option Expr) → (last : Expr) →
    List Token → Except Failure (Parsed Expr)
  | 0, _, _, _, _ => .error .tooDeep
  | fuel + 1, level, whole, last, ts =>
    match operator? level ts with
    | none => .ok (whole.getD last, ts)
    | some (op, rest) => do
      let (right, rest) ← readLevel fuel (level + 1) (← advance rest)
      readMore fuel level (some (extended level whole last op right)) right rest

/-- Reads signs, an operand and what is applied to it.  Filters apply to the whole of it. -/
def readSigned : (fuel : Nat) → (filters : Bool) → List Token → Except Failure (Parsed Expr)
  | 0, _, _ => .error .tooDeep
  | fuel + 1, filters, ts => do
    let signed (sign : Sign) (rest : List Token) : Except Failure (Parsed Expr) := do
      let (e, rest) ← readSigned fuel false (← advance rest)
      return (.signed sign e, rest)
    let (e, ts) ←
      match afterOp? Sign.minus.symbol ts, afterOp? Sign.plus.symbol ts with
      | some rest, _ => signed .minus rest
      | none, some rest => signed .plus rest
      | none, none => do
        let (e, ts) ← readOperand fuel ts
        readApplied fuel e ts
    if filters then readFilters fuel e ts else return (e, ts)

/-- Reads a name, a constant, an expression in brackets, a list or a table. -/
def readOperand : (fuel : Nat) → List Token → Except Failure (Parsed Expr)
  | 0, _ => .error .tooDeep
  | fuel + 1, ts =>
    match ts with
    | .name n :: rest => return (.ofName n, ← advance rest)
    | .integer n :: rest => return (.literal (.int n), ← advance rest)
    | .float x :: rest => return (.literal (.float x), ← advance rest)
    | .quoted t :: rest => do
      let (t, rest) ← readQuoted t rest
      return (.literal (.str t), rest)
    | .op ['('] :: rest => do
      let (e, rest) ← readTuple fuel true (← advance rest)
      return (e, ← readOp [')'] rest)
    | .op ['['] :: rest => do
      let (items, rest) ← readItems fuel (← advance rest)
      return (.list items, rest)
    | .op ['\x7b'] :: rest => do
      let (entries, rest) ← readEntries fuel (← advance rest)
      return (.table entries, rest)
    | ts => .error (unexpected ts)

/-- Reads one expression, or several with commas after them.  There may be none at all only inside
brackets. -/
def readTuple : (fuel : Nat) → (bracketed : Bool) → List Token → Except Failure (Parsed Expr)
  | 0, _, _ => .error .tooDeep
  | fuel + 1, bracketed, ts =>
    if endsTuple ts then
      if bracketed then .ok (.tuple [], ts)
      else .error (.malformed ("Expected an expression, got " ++ Json.quoted (describeNext ts)))
    else do
      let (first, ts) ← readLevel fuel 0 ts
      match afterOp? [','] ts with
      | none => return (first, ts)
      | some rest =>
        let (others, rest) ← readTupleItems fuel (← advance rest)
        return (.tuple (first :: others), rest)

/-- Reads expressions with commas between them. -/
def readTupleItems : (fuel : Nat) → List Token → Except Failure (Parsed (List Expr))
  | 0, _ => .error .tooDeep
  | fuel + 1, ts =>
    if endsTuple ts then .ok ([], ts)
    else do
      let (first, ts) ← readLevel fuel 0 ts
      match afterOp? [','] ts with
      | none => return ([first], ts)
      | some rest =>
        let (others, rest) ← readTupleItems fuel (← advance rest)
        return (first :: others, rest)

/-- Reads the items of a list up to its closing bracket. -/
def readItems : (fuel : Nat) → List Token → Except Failure (Parsed (List Expr))
  | 0, _ => .error .tooDeep
  | fuel + 1, ts =>
    match afterOp? [']'] ts with
    | some rest => return ([], ← advance rest)
    | none => do
      let (first, ts) ← readLevel fuel 0 ts
      let ts ← if (afterOp? [']'] ts).isSome then .ok ts else readOp [','] ts
      let (others, ts) ← readItems fuel ts
      return (first :: others, ts)

/-- Reads the entries of a table up to its closing bracket. -/
def readEntries : (fuel : Nat) → List Token → Except Failure (Parsed (List (Expr × Expr)))
  | 0, _ => .error .tooDeep
  | fuel + 1, ts =>
    match afterOp? ['\x7d'] ts with
    | some rest => return ([], ← advance rest)
    | none => do
      let (key, ts) ← readLevel fuel 0 ts
      let (value, ts) ← readLevel fuel 0 (← readOp [':'] ts)
      let ts ← if (afterOp? ['\x7d'] ts).isSome then .ok ts else readOp [','] ts
      let (others, ts) ← readEntries fuel ts
      return ((key, value) :: others, ts)

/-- Reads the members, items and applications after an operand.  The token after a point is read
before it is looked at. -/
def readApplied : (fuel : Nat) → Expr → List Token → Except Failure (Parsed Expr)
  | 0, _, _ => .error .tooDeep
  | fuel + 1, e, ts =>
    match ts with
    | .op ['.'] :: rest => do
      let after ← advance ((← advance rest).drop 1)
      match rest with
      | .name field :: _ => readApplied fuel (.member e field) after
      | .integer n :: _ => readApplied fuel (.item e (.literal (.int n))) after
      | _ => .error (.malformed "expected name or number")
    | .op ['['] :: rest => do
      let (indices, rest) ← readItems fuel (← advance rest)
      match indices with
      | [index] => readApplied fuel (.item e index) rest
      | _ => readApplied fuel (.item e (.tuple indices)) rest
    | .op ['('] :: rest => do
      let (args, rest) ← readArgs fuel (← advance rest)
      readApplied fuel (.call e args) rest
    | _ => .ok (e, ts)

/-- Reads the filters after an operand, and applications of what they give. -/
def readFilters : (fuel : Nat) → Expr → List Token → Except Failure (Parsed Expr)
  | 0, _, _ => .error .tooDeep
  | fuel + 1, e, ts =>
    match ts with
    | .op ['|'] :: rest => do
      let (filter, rest) ← readFilterName fuel (← advance rest)
      match afterOp? ['('] rest with
      | none => readFilters fuel (.filtered e filter []) rest
      | some rest =>
        let (args, rest) ← readArgs fuel (← advance rest)
        readFilters fuel (.filtered e filter args) rest
    | .op ['('] :: rest => do
      let (args, rest) ← readArgs fuel (← advance rest)
      readFilters fuel (.call e args) rest
    | _ => .ok (e, ts)

/-- Reads the name of a filter, which may have parts with points between them. -/
def readFilterName : (fuel : Nat) → List Token → Except Failure (Parsed Text)
  | 0, _ => .error .tooDeep
  | fuel + 1, ts => do
    let (name, ts) ← readName ts
    match afterOp? ['.'] ts with
    | none => return (name, ts)
    | some rest =>
      let (others, rest) ← readFilterName fuel (← advance rest)
      return (name ++ '.' :: others, rest)

/-- Reads arguments up to the closing bracket. -/
def readArgs : (fuel : Nat) → List Token → Except Failure (Parsed (List (Option Text × Expr)))
  | 0, _ => .error .tooDeep
  | fuel + 1, ts =>
    match afterOp? [')'] ts with
    | some rest => return ([], ← advance rest)
    | none => do
      let (arg, ts) ← readArg fuel ts
      let ts ← if (afterOp? [')'] ts).isSome then .ok ts else readOp [','] ts
      let (others, ts) ← readArgs fuel ts
      if arg.1.isSome && others.any (·.1.isNone) then
        .error (.malformed "invalid syntax for function call expression")
      else return (arg :: others, ts)

/-- Reads an argument, perhaps with its name. -/
def readArg : (fuel : Nat) → List Token → Except Failure (Parsed (Option Text × Expr))
  | 0, _ => .error .tooDeep
  | fuel + 1, ts =>
    match ts with
    | .name n :: .op ['='] :: rest => do
      let (e, rest) ← readLevel fuel 0 (← advance rest)
      return ((some n, e), rest)
    | ts => do
      let (e, ts) ← readLevel fuel 0 ts
      return ((none, e), ts)

end

/-- Fuel for reading the tokens. -/
def fuelFor (ts : List Token) : Nat := 16 * ts.length + 16

/-- Reads an expression or a list without brackets. -/
def readValue (ts : List Token) : Except Failure (Parsed Expr) := readTuple (fuelFor ts) false ts

end Template

end SchemaStructs
