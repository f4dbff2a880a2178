import SchemaStructs.Template.Expression

/-!
# Reading templates

Turns the tokens of a template into a program.  A tag that opens a part has its name on the stack
of open parts until another tag closes the part; the stack shows in what is said of a tag that is
missing or unknown.
-/

namespace SchemaStructs

namespace Template

/-! ### Open parts -/

/-- A part that is open: the tag that opened it, and the tags that can end it. -/
structure Opened where
  /-- The tag that opened the part. -/
  opener : Text
  /-- The tags that end it. -/
  closers : List Text
  deriving DecidableEq, Repr

/-- The tags in words. -/
def listed (tags : List Text) : Text := Text.joinWith " or " (tags.map Json.quoted)

/-- The sentence on the tag of the innermost part. -/
def innermost (part : Opened) : Text :=
  "The innermost block that needs to be closed is " ++ Json.quoted part.opener ++ "."

/-- The sentence on the tags that are waited for. -/
def waitedFor (part : Opened) : Text :=
  "Jinja was looking for the following tags: " ++ listed part.closers ++ "."

/-- The failure when a template ends inside a part. -/
def endsInside (part : Opened) : Failure :=
  .malformed ("Unexpected end of template. " ++ waitedFor part ++ [' '] ++ innermost part)

/-- The failure for a tag that there is not, or not here. -/
def unknownTag (opened : List Opened) (name : Text) : Failure :=
  let unknown := "Encountered unknown tag " ++ Json.quoted name ++ "."
  match opened with
  | [] => .malformed unknown
  | part :: _ =>
    let hint : Text :=
      if opened.any (·.closers.contains name) then
        "You probably made a nesting mistake. Jinja is expecting this tag, but currently "
          ++ "looking for " ++ listed part.closers ++ "."
      else waitedFor part
    .malformed (unknown ++ [' '] ++ hint ++ [' '] ++ innermost part)

/-! ### Parts of tags -/

/-- Reads the end of a tag. -/
def readTagEnd : List Token → Except Failure (List Token)
  | .closeTag :: rest => advance rest
  | ts => .error (expected Token.closeTag.describe ts)

/-- Reads the end of a tag that opens a part, perhaps after a colon. -/
def readOpenerEnd (ts : List Token) : Except Failure (List Token) :=
  match afterOp? [':'] ts with
  | some rest => do readTagEnd (← advance rest)
  | none => readTagEnd ts

/-- Reads the end of a printed expression. -/
def readOutputEnd : List Token → Except Failure (List Token)
  | .closeOutput :: rest => advance rest
  | ts => .error (expected Token.closeOutput.describe ts)

/-- Reads the given word. -/
def readWord (word : Text) : List Token → Except Failure (List Token)
  | .name n :: rest => if n = word then advance rest else .error (expected word (.name n :: rest))
  | ts => .error (expected word ts)

/-- Reads the names of parameters up to the closing bracket. -/
def readParams : (fuel : Nat) → List Token → Except Failure (Parsed (List Text))
  | 0, _ => .error .tooDeep
  | fuel + 1, ts =>
    match afterOp? [')'] ts with
    | some rest => return ([], ← advance rest)
    | none => do
      let (param, ts) ← readName ts
      let ts ← if (afterOp? [')'] ts).isSome then .ok ts else readOp [','] ts
      let (others, ts) ← readParams fuel ts
      return (param :: others, ts)

/-- Reads the name of a template, which must be a text in quotes. -/
def readTemplateName : List Token → Except Failure (Parsed Text)
  | .quoted t :: rest => return (t, ← advance rest)
  | ts => .error (expected "string" ts)

/-! ### Statements -/

/-- What a tag does: it is a statement by itself, or it opens a part. -/
inductive Tag where
  /-- A statement. -/
  | alone (s : Statement)
  /-- A part that can be followed by others in its place. -/
  | choice (condition : Expr)
  /-- A part that one tag ends. -/
  | part (closer : Text) (build : List Statement → Statement)

/-- Reads what follows the name of a tag, up to its end. -/
def tagReader? (name : Text) : Option (List Token → Except Failure (Parsed Tag)) :=
  if name = ("if" : Text) then some fun ts => do
    let (condition, ts) ← readValue ts
    return (.choice condition, ← readOpenerEnd ts)
  else if name = ("for" : Text) then some fun ts => do
    let (item, ts) ← readName ts
    let (items, ts) ← readValue (← readWord "in" ts)
    return (.part "endfor" (.each item items), ← readOpenerEnd ts)
  else if name = ("macro" : Text) then some fun ts => do
    let (routine, ts) ← readName ts
    let ts ← readOp ['('] ts
    let (params, ts) ← readParams (ts.length + 1) ts
    return (.part "endmacro" (.define routine params), ← readOpenerEnd ts)
  else if name = ("set" : Text) then some fun ts => do
    let (target, ts) ← readName ts
    let (e, ts) ← readValue (← readOp ['='] ts)
    return (.alone (.assign target e), ← readTagEnd ts)
  else if name = ("import" : Text) then some fun ts => do
    let (template, ts) ← readTemplateName ts
    let (routines, ts) ← readName (← readWord "as" ts)
    return (.alone (.load template routines), ← readTagEnd ts)
  else none

/-- The tags that end the first part of a choice, and those that end the last one. -/
def choiceClosers (last : Bool) : List Text :=
  Text.ofStrings (if last then ["endif"] else ["elif", "else", "endif"])

mutual

/-- Reads statements up to a tag that ends the innermost open part, whose name is given back, or to
the end of the template. -/
def readStatements : (fuel : Nat) → List Opened → List Token →
    Except Failure (Parsed (List Statement × Text))
  | 0, _, _ => .error .tooDeep
  | fuel + 1, opened, ts =>
    let followed (s : Statement) (ts : List Token) := do
      let ((statements, closer), ts) ← readStatements fuel opened ts
      return ((s :: statements, closer), ts)
    match ts with
    | [] =>
      match opened with
      | [] => .ok (([], []), [])
      | part :: _ => .error (endsInside part)
    | .text t :: rest => do followed (.text t) (← advance rest)
    | .openOutput :: rest => do
      let (e, ts) ← readValue (← advance rest)
      followed (.output e) (← readOutputEnd ts)
    | .openTag :: rest => do
      match ← advance rest with
      | .name name :: rest =>
        if opened.head?.any (·.closers.contains name) then return (([], name), ← advance rest)
        else match tagReader? name with
          | none => .error (unknownTag opened name)
          | some reader => do
            match ← reader (← advance rest) with
            | (.alone s, ts) => followed s ts
            | (.part closer build, ts) =>
              let part : Opened := { opener := name, closers := [closer] }
              let ((body, _), ts) ← readStatements fuel (part :: opened) ts
              followed (build body) (← readTagEnd ts)
            | (.choice condition, ts) => do
              let (s, ts) ← readChoice fuel opened condition ts
              followed s ts
      | _ => .error (.malformed "tag name expected")
    | .broken why :: _ => .error why
    | ts => .error (unexpected ts)

/-- Reads the parts of a choice after its condition, up to the end of the tag that ends it. -/
def readChoice : (fuel : Nat) → List Opened → (condition : Expr) → List Token →
    Except Failure (Parsed Statement)
  | 0, _, _, _ => .error .tooDeep
  | fuel + 1, opened, condition, ts => do
    let part (last : Bool) : Opened := { opener := "if", closers := choiceClosers last }
    let ((body, closer), ts) ← readStatements fuel (part false :: opened) ts
    if closer = ("elif" : Text) then do
      let (next, ts) ← readValue ts
      let (other, ts) ← readChoice fuel opened next (← readOpenerEnd ts)
      return (.choose condition body [other], ts)
    else if closer = ("else" : Text) then do
      let ((otherwise, _), ts) ← readStatements fuel (part true :: opened) (← readOpenerEnd ts)
      return (.choose condition body otherwise, ← readTagEnd ts)
    else return (.choose condition body [], ← readTagEnd ts)

end

/-- Reads a template. -/
def read (template : Text) : Except Failure (List Statement) := do
  let ts := tokens template
  let ((statements, _), _) ← readStatements (2 * ts.length + 2) [] (← advance ts)
  return statements

end Template

end SchemaStructs
