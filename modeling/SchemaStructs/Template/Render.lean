import SchemaStructs.Template.Filter
import SchemaStructs.Template.Member
import SchemaStructs.Template.Operator

/-!
# Running templates

Runs a program in a context: the schema, the filters, and the other templates that it may run.
Names are bound in a scope; what is bound inside a repeated part or a routine is gone after it.  A
template that another one runs knows nothing of the names of that one.

* A name is one of those given to a program only if it is spelt in the same characters, but
  equivalent names (`Text.equivalent`) stand for one value: before the program runs, every name that
  it uses is bound to what is given for it, and of equivalent names the last one counts.
-/

namespace SchemaStructs

namespace Template

/-- Names that are given to a program, with their values. -/
abbrev Given := List (Text × Value)

/-- The names of a program that runs, the latest first.  A name without a value is one that nothing
was given for. -/
abbrev Scope := List (Text × Option Value)

/-- What a template is run with. -/
structure Context where
  /-- The schema that elements belong to. -/
  graph : Graph
  /-- The filters, the latest first. -/
  filters : List (Text × Filter)
  /-- The program of another template. -/
  program? : Text → Except Failure (List Statement)

/-- What can be run besides the statements at hand. -/
structure Reach where
  /-- What a routine prints when it is applied to arguments. -/
  apply : Routine → List Value → Except Failure Text
  /-- Another template, run by itself. -/
  load : Text → Except Failure Value

/-- The names that every template knows. -/
def standardNames : Given :=
  let kindNamed (name kind : String) : Text × Value :=
    (name.toList, .foreign ("<class '" ++ kind.toList ++ "'>") "type")
  [kindNamed "range" "range", kindNamed "dict" "dict", kindNamed "cycler" "jinja2.utils.Cycler",
    kindNamed "joiner" "jinja2.utils.Joiner", kindNamed "namespace" "jinja2.utils.Namespace",
    ("lipsum", .foreign "<function generate_lorem_ipsum>" "function")]

/-- The value that is given for a name. -/
def Given.value? (given : Given) (name : Text) : Option Value :=
  ((given ++ standardNames).find? (·.1 == name)).map (·.2)

/-- The value of a name, which is that of the latest equivalent one. -/
def Scope.value (scope : Scope) (name : Text) : Value :=
  match scope.find? fun (other, _) => Text.equivalent other name with
  | some (_, some v) => v
  | _ => .missing (.unbound name)

/-- The filter of a name. -/
def Context.filter? (cx : Context) (name : Text) : Option Filter :=
  (cx.filters.find? (·.1 == name)).map (·.2)

/-- Applies a value, which has to be a routine, to arguments without names. -/
def Reach.applyValue (reach : Reach) (f : Value) (args : List Argument) : Except Failure Value :=
  match f, args.findSome? (·.1) with
  | .missing what, _ => .error (.missing what)
  | .routine r, some name => .error (.namedArgument r.name name)
  | .routine r, none => (reach.apply r (args.map (·.2))).map .ofText
  | v, _ => .error (.notRoutine v.kind)

/-! ### Names in use -/

mutual

/-- The names that an expression uses. -/
def Expr.names : Expr → List Text
  | .literal _ => []
  | .named name => [name]
  | .member e _ | .signed _ e => e.names
  | .item left right | .binary _ left right => left.names ++ right.names
  | .call e args | .filtered e _ args => e.names ++ namesInArgs args
  | .list items | .tuple items => namesInExprs items
  | .table entries => namesInEntries entries

/-- The names that some expressions use. -/
def namesInExprs : List Expr → List Text
  | [] => []
  | e :: rest => e.names ++ namesInExprs rest

/-- The names that the entries of a table use. -/
def namesInEntries : List (Expr × Expr) → List Text
  | [] => []
  | (key, value) :: rest => key.names ++ value.names ++ namesInEntries rest

/-- The names that some arguments use. -/
def namesInArgs : List (Option Text × Expr) → List Text
  | [] => []
  | (_, e) :: rest => e.names ++ namesInArgs rest

end

mutual

/-- The names that a statement uses.  A routine has names of its own. -/
def Statement.names : Statement → List Text
  | .text _ | .load _ _ | .define _ _ _ => []
  | .output e | .assign _ e => e.names
  | .choose condition body otherwise =>
    condition.names ++ namesInAll body ++ namesInAll otherwise
  | .each _ items body => items.names ++ namesInAll body

/-- The names that some statements use. -/
def namesInAll : List Statement → List Text
  | [] => []
  | s :: rest => s.names ++ namesInAll rest

end

/-! ### Values and statements -/

mutual

/-- The value of an expression. -/
def Expr.eval (cx : Context) (reach : Reach) (scope : Scope) : Expr → Except Failure Value
  | .literal j => .ok (.json j)
  | .named name => .ok (scope.value name)
  | .member owner field => do
    let v ← owner.eval cx reach scope
    v.member cx.graph field
  | .item owner index => do
    let v ← owner.eval cx reach scope
    let i ← index.eval cx reach scope
    v.item cx.graph i
  | .call routine args => do
    let f ← routine.eval cx reach scope
    let vs ← evalArgs cx reach scope args
    reach.applyValue f vs
  | .filtered value name args => do
    let v ← value.eval cx reach scope
    let vs ← evalArgs cx reach scope args
    match cx.filter? name with
    | some f => f.apply cx.graph v vs
    | none => .error (.absentFilter name)
  | .list items => return .list (← evalAll cx reach scope items)
  | .tuple items => return .tuple (← evalAll cx reach scope items)
  | .table entries => return .table (← evalEntries cx reach scope entries)
  | .signed sign e => do
    let v ← e.eval cx reach scope
    sign.apply v
  | .binary op left right => do
    let a ← left.eval cx reach scope
    op.apply cx.graph a (right.eval cx reach scope)

/-- The values of expressions. -/
def evalAll (cx : Context) (reach : Reach) (scope : Scope) :
    List Expr → Except Failure (List Value)
  | [] => .ok []
  | e :: rest => do
    let v ← e.eval cx reach scope
    let vs ← evalAll cx reach scope rest
    return v :: vs

/-- The values of the entries of a table. -/
def evalEntries (cx : Context) (reach : Reach) (scope : Scope) :
    List (Expr × Expr) → Except Failure (List (Value × Value))
  | [] => .ok []
  | (key, value) :: rest => do
    let k ← key.eval cx reach scope
    let v ← value.eval cx reach scope
    let others ← evalEntries cx reach scope rest
    return (k, v) :: others

/-- The values of arguments. -/
def evalArgs (cx : Context) (reach : Reach) (scope : Scope) :
    List (Option Text × Expr) → Except Failure (List Argument)
  | [] => .ok []
  | (name, e) :: rest => do
    let v ← e.eval cx reach scope
    let vs ← evalArgs cx reach scope rest
    return (name, v) :: vs

end

/-- The items of a value. -/
def itemsOf : Value → Except Failure (List Value)
  | .list items | .tuple items => .ok items
  | .table entries => .ok (entries.map (·.1))
  | .json (.arr items) => .ok (items.map .json)
  | .json (.str t) => .ok (t.map fun c => .ofText [c])
  | .json (.obj members) => .ok (members.map fun m => .ofText m.1)
  | .missing what => .error (.missing what)
  | v => .error (.noItems v.kind)

mutual

/-- What a statement prints, and the names bound after it. -/
def Statement.run (cx : Context) (reach : Reach) (scope : Scope) :
    Statement → Except Failure (Text × Scope)
  | .text t => .ok (t, scope)
  | .output e => do
    let v ← e.eval cx reach scope
    return (← v.display? cx.graph, scope)
  | .assign name e => do
    let v ← e.eval cx reach scope
    return ([], (name, some v) :: scope)
  | .choose condition body otherwise => do
    let v ← condition.eval cx reach scope
    if ← v.truthy then runAll cx reach scope body else runAll cx reach scope otherwise
  | .each name items body => do
    let v ← items.eval cx reach scope
    let printed ← (← itemsOf v).mapM fun item => do
      return (← runAll cx reach ((name, some item) :: scope) body).1
    return (printed.flatten, scope)
  | .define name params body => .ok ([], (name, some (.routine { name, params, body })) :: scope)
  | .load template name => do
    let v ← reach.load template
    return ([], (name, some v) :: scope)

/-- What statements print, and the names bound after them. -/
def runAll (cx : Context) (reach : Reach) (scope : Scope) :
    List Statement → Except Failure (Text × Scope)
  | [] => .ok ([], scope)
  | s :: rest => do
    let (t, scope) ← s.run cx reach scope
    let (ts, scope) ← runAll cx reach scope rest
    return (t ++ ts, scope)

end

/-! ### Programs -/

/-- The names that a program starts with: those that it uses, in the order of their first uses. -/
def Scope.opened (given : Given) (program : List Statement) : Scope :=
  ((namesInAll program).eraseDups.map fun name => (name, given.value? name)).reverse

/-- What a program prints with the names given to it, and the names that it binds itself. -/
def runWith (cx : Context) (reach : Reach) (given : Given) (program : List Statement) :
    Except Failure (Text × Scope) := do
  let opened := Scope.opened given program
  let (printed, scope) ← runAll cx reach opened program
  return (printed, scope.take (scope.length - opened.length))

/-- The names given to a routine's body: a parameter without an argument is missing. -/
def bindParams : List Text → List Value → Given
  | [], _ => []
  | p :: params, [] => (p, .missing (.unbound p)) :: bindParams params []
  | p :: params, v :: args => (p, v) :: bindParams params args

/-- The name by which a template knows itself. -/
def selfName : Text := "self"

/-- A template of the given title as it is known to itself. -/
def selfNamed (title : Text) : Given :=
  [(selfName, .foreign ("<" ++ Value.referenceKind ++ [' '] ++ title ++ ">") Value.referenceKind)]

/-- The names that a template gives to those who run it: neither those that start with an underscore
nor those of the templates that it runs itself. -/
def Scope.offered (scope : Scope) : Given :=
  scope.filterMap fun (name, v?) =>
    match v? with
    | none | some (.template _ _ _) => none
    | some v => if name.head? = some '_' then none else some (name, v)

/-- What can be run with routines and templates inside each other to the given depth. -/
def reachTo (cx : Context) : Nat → Reach
  | 0 => { apply := fun _ _ => .error .tooDeep, load := fun _ => .error .tooDeep }
  | depth + 1 =>
    { apply := fun r args =>
        if r.params.length < args.length then .error (.tooManyArguments r.name r.params.length)
        else (runWith cx (reachTo cx depth) (bindParams r.params args) r.body).map (·.1)
      load := fun name => do
        let given := selfNamed (Json.quoted name)
        let (printed, bound) ← runWith cx (reachTo cx depth) given (← cx.program? name)
        return .template name printed bound.offered }

/-- How deep routines and templates may lie inside each other. -/
def maxDepth : Nat := 100

/-- What a program prints with the names given to it. -/
def run (cx : Context) (given : Given) (program : List Statement) : Except Failure Text :=
  (runWith cx (reachTo cx maxDepth) given program).map (·.1)

/-! ### Unknown filters -/

mutual

/-- The first filter in an expression that `known` refuses. -/
def Expr.unknownFilter? (known : Text → Bool) : Expr → Option Text
  | .literal _ | .named _ => none
  | .member e _ | .signed _ e => e.unknownFilter? known
  | .item left right | .binary _ left right =>
    (left.unknownFilter? known).or (right.unknownFilter? known)
  | .call routine args => (routine.unknownFilter? known).or (unknownInArgs? known args)
  | .filtered value name args =>
    if known name then (value.unknownFilter? known).or (unknownInArgs? known args)
    else some name
  | .list items | .tuple items => unknownInAll? known items
  | .table entries => unknownInEntries? known entries

/-- The first filter in some expressions that `known` refuses. -/
def unknownInAll? (known : Text → Bool) : List Expr → Option Text
  | [] => none
  | e :: rest => (e.unknownFilter? known).or (unknownInAll? known rest)

/-- The first filter in the entries of a table that `known` refuses. -/
def unknownInEntries? (known : Text → Bool) : List (Expr × Expr) → Option Text
  | [] => none
  | (key, value) :: rest =>
    ((key.unknownFilter? known).or (value.unknownFilter? known)).or
      (unknownInEntries? known rest)

/-- The first filter in some arguments that `known` refuses. -/
def unknownInArgs? (known : Text → Bool) : List (Option Text × Expr) → Option Text
  | [] => none
  | (_, e) :: rest => (e.unknownFilter? known).or (unknownInArgs? known rest)

end

mutual

/-- The first filter in a statement that `known` refuses.  In the branches of a choice an unknown
filter is no mistake until it is applied. -/
def Statement.unknownFilter? (known : Text → Bool) : Statement → Option Text
  | .text _ | .load _ _ => none
  | .output e | .assign _ e => e.unknownFilter? known
  | .choose _ body otherwise =>
    (unknownFilterInBranch? known body).or (unknownFilterInBranch? known otherwise)
  | .each _ items body => (items.unknownFilter? known).or (unknownFilterInAll? known body)
  | .define _ _ body => unknownFilterInAll? known body

/-- The first filter in some statements that `known` refuses. -/
def unknownFilterInAll? (known : Text → Bool) : List Statement → Option Text
  | [] => none
  | s :: rest => (s.unknownFilter? known).or (unknownFilterInAll? known rest)

/-- The first filter in a statement of a branch that `known` refuses: it stands in a repeated part
or in a routine. -/
def Statement.unknownFilterWithin? (known : Text → Bool) : Statement → Option Text
  | .text _ | .load _ _ | .output _ | .assign _ _ => none
  | .choose _ body otherwise =>
    (unknownFilterInBranch? known body).or (unknownFilterInBranch? known otherwise)
  | .each _ _ body | .define _ _ body => unknownFilterInAll? known body

/-- The first filter in the statements of a branch that `known` refuses. -/
def unknownFilterInBranch? (known : Text → Bool) : List Statement → Option Text
  | [] => none
  | s :: rest => (s.unknownFilterWithin? known).or (unknownFilterInBranch? known rest)

end

end Template

end SchemaStructs
