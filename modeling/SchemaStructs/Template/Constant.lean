import SchemaStructs.Template.Render

/-!
# Constant parts of templates

A part of a template that has no names in it has the same value whenever the template is run, unless
a filter is replaced in between.  `Statement.settled` puts the value that some filters give in the
place of every such part that a filter is applied to.  A part that fails stays as it is: the failure
belongs to the run, not to the template.
-/

namespace SchemaStructs

namespace Template

/-! ### Parts without names -/

mutual

/-- The value of the expression does not depend on any name. -/
def Expr.isConstant : Expr → Bool
  | .literal _ => true
  | .named _ | .call _ _ => false
  | .member e _ | .signed _ e => e.isConstant
  | .item left right | .binary _ left right => left.isConstant && right.isConstant
  | .filtered value _ args => value.isConstant && areConstantArgs args
  | .list items | .tuple items => areConstant items
  | .table entries => areConstantEntries entries

/-- The values of the expressions do not depend on any name. -/
def areConstant : List Expr → Bool
  | [] => true
  | e :: rest => e.isConstant && areConstant rest

/-- The entries of a table do not depend on any name. -/
def areConstantEntries : List (Expr × Expr) → Bool
  | [] => true
  | (key, value) :: rest => key.isConstant && value.isConstant && areConstantEntries rest

/-- The arguments do not depend on any name. -/
def areConstantArgs : List (Option Text × Expr) → Bool
  | [] => true
  | (_, e) :: rest => e.isConstant && areConstantArgs rest

end

/-! ### Putting values in their place -/

/-- What constants are computed with: filters alone. -/
def Context.ofFilters (filters : List (Text × Filter)) : Context :=
  { graph := {}, filters, program? := fun name => .error (.notFound name) }

/-- The value of a constant expression as an expression, if it has a value that can be written. -/
def Expr.valueOrSelf (filters : List (Text × Filter)) (e : Expr) : Expr :=
  let cx := Context.ofFilters filters
  if e.isConstant then
    match e.eval cx (reachTo cx 0) [] with
    | .ok (.json j) => .literal j
    | _ => e
  else e

mutual

/-- The expression with values in the place of constant parts that a filter is applied to. -/
def Expr.settled (filters : List (Text × Filter)) : Expr → Expr
  | .literal j => .literal j
  | .named name => .named name
  | .member owner field => .member (owner.settled filters) field
  | .item owner index => .item (owner.settled filters) (index.settled filters)
  | .call routine args => .call (routine.settled filters) (settledArgs filters args)
  | .filtered value name args =>
    Expr.valueOrSelf filters (.filtered (value.settled filters) name (settledArgs filters args))
  | .list items => .list (settledExprs filters items)
  | .tuple items => .tuple (settledExprs filters items)
  | .table entries => .table (settledEntries filters entries)
  | .signed sign e => .signed sign (e.settled filters)
  | .binary op left right => .binary op (left.settled filters) (right.settled filters)

/-- The expressions with values in the place of constant parts. -/
def settledExprs (filters : List (Text × Filter)) : List Expr → List Expr
  | [] => []
  | e :: rest => e.settled filters :: settledExprs filters rest

/-- The entries of a table with values in the place of constant parts. -/
def settledEntries (filters : List (Text × Filter)) : List (Expr × Expr) → List (Expr × Expr)
  | [] => []
  | (key, value) :: rest =>
    (key.settled filters, value.settled filters) :: settledEntries filters rest

/-- The arguments with values in the place of constant parts. -/
def settledArgs (filters : List (Text × Filter)) :
    List (Option Text × Expr) → List (Option Text × Expr)
  | [] => []
  | (name, e) :: rest => (name, e.settled filters) :: settledArgs filters rest

end

mutual

/-- The statement with values in the place of constant parts. -/
def Statement.settled (filters : List (Text × Filter)) : Statement → Statement
  | .text t => .text t
  | .output e => .output (e.settled filters)
  | .assign name e => .assign name (e.settled filters)
  | .choose condition body otherwise =>
    .choose (condition.settled filters) (settledAll filters body) (settledAll filters otherwise)
  | .each name items body => .each name (items.settled filters) (settledAll filters body)
  | .define name params body => .define name params (settledAll filters body)
  | .load template name => .load template name

/-- The statements with values in the place of constant parts. -/
def settledAll (filters : List (Text × Filter)) : List Statement → List Statement
  | [] => []
  | s :: rest => s.settled filters :: settledAll filters rest

end

end Template

end SchemaStructs
