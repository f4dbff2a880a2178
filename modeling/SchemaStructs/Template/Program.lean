import SchemaStructs.Json.Display
import SchemaStructs.Schema.Element
import SchemaStructs.Text.Utf8

/-!
# Template programs

What a template text means: a list of statements that print text, print the value of an
expression, bind a name, repeat or skip a part, define routines, and run other templates for the
names they bind.  `Failure` lists what can go wrong with a template, from reading it to running it.
-/

namespace SchemaStructs

namespace Template

/-! ### Expressions -/

/-- What stands between two values. -/
inductive Operator where
  | or | and
  | equal | unequal | less | lessOrEqual | greater | greaterOrEqual | within | notWithin
  | add | subtract
  | join
  | multiply | divide | floorDivide | modulo
  | power
  deriving DecidableEq, Repr

/-- How an operator is written. -/
def Operator.symbol : Operator → Text
  | or => "or"
  | and => "and"
  | equal => "=="
  | unequal => "!="
  | less => "<"
  | lessOrEqual => "<="
  | greater => ">"
  | greaterOrEqual => ">="
  | within => "in"
  | notWithin => "not in"
  | add => "+"
  | subtract => "-"
  | join => "~"
  | multiply => "*"
  | divide => "/"
  | floorDivide => "//"
  | modulo => "%"
  | power => "**"

/-- What stands before a value. -/
inductive Sign where
  /-- The value does not count as true. -/
  | not
  /-- The number with the other sign. -/
  | minus
  /-- The number itself. -/
  | plus
  deriving DecidableEq, Repr

/-- How a sign is written. -/
def Sign.symbol : Sign → Text
  | not => "not"
  | minus => "-"
  | plus => "+"

/-- An expression of a template.  An argument may be given for a parameter by its name. -/
inductive Expr where
  /-- A constant. -/
  | literal (j : Json)
  /-- The value of a name. -/
  | named (name : Text)
  /-- A member of a value. -/
  | member (owner : Expr) (field : Text)
  /-- An item of a value. -/
  | item (owner index : Expr)
  /-- A routine applied to arguments. -/
  | call (routine : Expr) (args : List (Option Text × Expr))
  /-- A filter applied to a value and further arguments. -/
  | filtered (value : Expr) (filter : Text) (args : List (Option Text × Expr))
  /-- A list in square brackets. -/
  | list (items : List Expr)
  /-- A list in round brackets. -/
  | tuple (items : List Expr)
  /-- Keys with their values. -/
  | table (entries : List (Expr × Expr))
  /-- A value after a sign. -/
  | signed (sign : Sign) (e : Expr)
  /-- Two values with an operator between them. -/
  | binary (op : Operator) (left right : Expr)
  deriving Inhabited

/-! ### Statements -/

/-- A statement of a template. -/
inductive Statement where
  /-- Prints a text. -/
  | text (t : Text)
  /-- Prints the value of an expression. -/
  | output (e : Expr)
  /-- Binds a name. -/
  | assign (name : Text) (e : Expr)
  /-- Runs one part if the condition holds and another if not. -/
  | choose (condition : Expr) (body otherwise : List Statement)
  /-- Runs the body for each item of a list. -/
  | each (name : Text) (items : Expr) (body : List Statement)
  /-- Defines a routine. -/
  | define (name : Text) (params : List Text) (body : List Statement)
  /-- Runs another template and binds a name to it. -/
  | load (template : Text) (name : Text)
  deriving Inhabited

/-- A routine: its parameters and what it runs. -/
structure Routine where
  /-- Its name. -/
  name : Text
  /-- The names of the parameters. -/
  params : List Text
  /-- The statements that it runs. -/
  body : List Statement
  deriving Inhabited

/-! ### Failures -/

/-- A value that is not there. -/
inductive Missing where
  /-- Nothing has the name. -/
  | unbound (name : Text)
  /-- A value of the given description has no such member. -/
  | member (owner field : Text)
  /-- A value of the given description has no item at the index shown. -/
  | item (owner index : Text)

/-- Why a missing value cannot be used. -/
def Missing.message : Missing → Text
  | unbound name => Json.quoted name ++ " is undefined"
  | member owner field => Json.quoted owner ++ " has no attribute " ++ Json.quoted field
  | item owner index => owner ++ " has no element " ++ index

/-- Why a filter cannot be applied to its arguments. -/
inductive Misapplied where
  /-- There are more arguments than the filter takes: at least `least` and at most `most`. -/
  | tooMany (least most given : Nat)
  /-- There are arguments for a filter that takes none. -/
  | takesNone (given : Nat)
  /-- There are arguments with names for a filter that takes none. -/
  | takesNoNames
  /-- There is no parameter of the name. -/
  | unexpected (name : Text)
  /-- There are two arguments for a parameter. -/
  | repeated (name : Text)
  deriving DecidableEq, Repr

/-- The fault in words; numbers of arguments count the value, too. -/
def Misapplied.message : Misapplied → Text
  | tooMany least most given =>
    let limit : Text :=
      if least < most then "from " ++ Text.ofNat least ++ " to " ++ Text.ofNat most
      else Text.ofNat most
    "takes " ++ limit ++ " positional argument" ++ (if most = 1 then "" else "s" : Text) ++ " but "
      ++ Text.ofNat given ++ " were given"
  | takesNone given => "takes no arguments (" ++ Text.ofNat given ++ " given)"
  | takesNoNames => "takes no keyword arguments"
  | unexpected name => "got an unexpected keyword argument " ++ Json.quoted name
  | repeated name => "got multiple values for argument " ++ Json.quoted name

/-- What can go wrong with a template. -/
inductive Failure where
  /-- There is no such template. -/
  | notFound (name : Text)
  /-- The text is no template. -/
  | malformed (reason : Text)
  /-- The template uses a filter that there is not. -/
  | unknownFilter (name : Text)
  /-- A part that is run only sometimes uses a filter that there is not. -/
  | absentFilter (name : Text)
  /-- A missing value is used. -/
  | missing (what : Missing)
  /-- A value that is no text stands where a name is needed. -/
  | notText (kind : Text)
  /-- A value that cannot be looked up stands where the name of a type is needed. -/
  | unhashable (kind : Text)
  /-- Something else is added to a text or a list. -/
  | cannotExtend (whole part : Text)
  /-- An operator that the values do not have. -/
  | noOperation (op : Operator) (left right : Text)
  /-- Two values of which none is greater or less. -/
  | noOrder (op : Operator) (left right : Text)
  /-- A sign that the value cannot have. -/
  | noSign (sign : Sign) (kind : Text)
  /-- A number is divided by zero. -/
  | divisionByZero (op : Operator)
  /-- A value that is no text stands where one is turned into capitals. -/
  | noCapitals (kind : Text)
  /-- A filter needs a member that the value has not. -/
  | noMember (kind field : Text)
  /-- A value that is no routine is applied to arguments. -/
  | notRoutine (kind : Text)
  /-- A value without items is repeated over. -/
  | noItems (kind : Text)
  /-- A value is sought among the items of one that has none. -/
  | notWhole (kind : Text)
  /-- A text has only texts as parts. -/
  | notPart (kind : Text)
  /-- A routine is applied to too many arguments. -/
  | tooManyArguments (routine : Text) (limit : Nat)
  /-- A routine is applied to an argument with a name. -/
  | namedArgument (routine name : Text)
  /-- A filter or a whole template is applied to arguments that it does not take. -/
  | misapplied (title : Text) (fault : Misapplied)
  /-- Routines apply one another, or templates run one another, without end. -/
  | tooDeep
  /-- The file of the template holds no text. -/
  | undecodable (fault : Utf8Fault)

namespace Failure

/-- The failure in words. -/
def message : Failure → Text
  | notFound name => name
  | malformed reason => reason
  | unknownFilter name => "No filter named " ++ Json.quoted name ++ "."
  | absentFilter name => "No filter named " ++ Json.quoted name ++ " found."
  | missing what => what.message
  | notText kind => "expected string or bytes-like object, got '" ++ kind ++ "'"
  | unhashable kind => "unhashable type: '" ++ kind ++ "'"
  | cannotExtend whole part =>
    "can only concatenate " ++ whole ++ " (not \"" ++ part ++ "\") to " ++ whole
  | noOperation op left right =>
    let symbol : Text := if op = .power then "** or pow()" else op.symbol
    "unsupported operand type(s) for " ++ symbol ++ ": '" ++ left ++ "' and '" ++ right ++ "'"
  | noOrder op left right =>
    "'" ++ op.symbol ++ "' not supported between instances of '" ++ left ++ "' and '" ++ right
      ++ "'"
  | noSign sign kind => "bad operand type for unary " ++ sign.symbol ++ ": '" ++ kind ++ "'"
  | divisionByZero .modulo => "integer modulo by zero"
  | divisionByZero .floorDivide => "integer division or modulo by zero"
  | divisionByZero _ => "division by zero"
  | noCapitals kind =>
    "descriptor 'upper' for 'str' objects doesn't apply to a '" ++ kind ++ "' object"
  | noMember kind field => "'" ++ kind ++ "' object has no attribute " ++ Json.quoted field
  | notRoutine kind => "'" ++ kind ++ "' object is not callable"
  | noItems kind => "'" ++ kind ++ "' object is not iterable"
  | notWhole kind => "argument of type '" ++ kind ++ "' is not iterable"
  | notPart kind => "'in <string>' requires string as left operand, not " ++ kind
  | tooManyArguments routine limit =>
    "macro " ++ Json.quoted routine ++ " takes not more than " ++ Text.ofNat limit
      ++ " argument(s)"
  | namedArgument routine name =>
    "macro " ++ Json.quoted routine ++ " takes no keyword argument " ++ Json.quoted name
  | misapplied title fault => title ++ "() " ++ fault.message
  | tooDeep => "maximum recursion depth exceeded"
  | undecodable fault => fault.message

end Failure

end Template

end SchemaStructs
