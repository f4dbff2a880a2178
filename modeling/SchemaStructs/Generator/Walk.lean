import SchemaStructs.Generator.Basic
import SchemaStructs.Generator.Warning
import SchemaStructs.Schema.Traversal

/-!
# Walking a schema

A walk goes through a schema depth first and declares the first element of every name, parents
before children.  It does not go below an element whose name is declared already, nor into
primitive elements.  An element that is met inside itself ends the walk, and so does, under the
strict strategy, an element whose shape differs from that of the declared element of its name.

What it makes is kept in a record (`Walk.Collected`), in which it looks up names and shapes
(`Generator.collect`).  What happens on the way is told event by event (`Generator.walk`).

The walk keeps an explicit stack, a list of elements still to visit for every element on the path
from the root.  It ends because every declaration uses up a name of the schema, and between two
declarations the stack only shrinks.  Only an element whose name is a text can be declared.
-/

namespace SchemaStructs

/-- The declaration of an element. -/
structure Declaration where
  /-- The element. -/
  element : ElementId
  /-- Its raw name. -/
  name : Text
  /-- Its Go name. -/
  typeName : Text
  /-- Its shape. -/
  shape : Shape
  /-- The text of the declaration. -/
  text : Text

namespace Walk

/-- What happens when the walk comes to an element. -/
inductive Event where
  /-- A primitive root is passed over. -/
  | skipped (name : Text)
  /-- The element is declared. -/
  | declared (d : Declaration)
  /-- An element of the same name and shape is declared already. -/
  | repeated (name : Text)
  /-- An element of the same name and another shape is declared already. -/
  | redefined (name : Text)

/-- The declaration of an event. -/
def Event.declaration? : Event → Option Declaration
  | declared d => some d
  | _ => none

/-- The name that an event finds redefined. -/
def Event.redefined? : Event → Option Text
  | redefined name => some name
  | _ => none

/-- The declarations of some events. -/
def declarations (events : List Event) : List Declaration := events.filterMap Event.declaration?

/-- The names of the elements that were declared. -/
def visited (events : List Event) : List Text := (declarations events).map (·.name)

/-- How a walk went: what happened, and what ended it early. -/
structure Outcome where
  /-- What happened, in order. -/
  events : List Event
  /-- Why the walk did not come to its end. -/
  failure : Option GenerationFailure

/-! ### What is collected -/

/-- What a walk has made so far. -/
@[ext]
structure Collected where
  /-- The names of the declared elements, each once. -/
  visited : List Text := []
  /-- The shapes of the declared elements, by name. -/
  shapes : List (Text × Shape) := []
  /-- The texts of the declarations. -/
  declarations : List Text := []
  /-- The Go names of the declared types. -/
  declaredTypes : List Text := []
  /-- The warnings. -/
  warnings : List Warning := []

namespace Collected

/-- One more declaration. -/
def add (c : Collected) (d : Declaration) : Collected :=
  { declarations := c.declarations ++ [d.text]
    declaredTypes := c.declaredTypes ++ [d.typeName]
    visited := if d.name ∈ c.visited then c.visited else c.visited ++ [d.name]
    shapes := Json.insert c.shapes d.name d.shape
    warnings := c.warnings }

/-- One more warning. -/
def warn (c : Collected) (w : Warning) : Collected := { c with warnings := c.warnings ++ [w] }

/-- An element of the name is declared. -/
def isVisited (c : Collected) (name : Json) : Bool := name.text?.any c.visited.contains

/-- The element has the shape of the declared element of its name. -/
def fits (c : Collected) (g : Graph) (i : ElementId) : Bool :=
  (Json.lookup c.shapes (g.name i)).any (g.shape i).alike

end Collected

/-! ### Names that are left -/

/-- The names of the elements of a graph that are texts. -/
def names (g : Graph) : List Text := g.elements.toList.filterMap (·.name.text?)

/-- The number of elements whose name is not among the given ones. -/
def unvisited (g : Graph) (visited : List Text) : Nat := (names g).countP fun n => n ∉ visited

theorem mem_names {g : Graph} {i : ElementId} {n : Text} (h : (g.get i).name = .str n) :
    n ∈ names g := by
  simp only [Graph.get, Array.getD_eq_getD_getElem?] at h
  rcases hi : g.elements[i]? with _ | e
  · rw [hi] at h
    cases h
  · rw [hi] at h
    have he : e ∈ g.elements := Array.mem_of_getElem? hi
    rw [Option.getD_some] at h
    exact List.mem_filterMap.2 ⟨e, Array.mem_toList_iff.2 he, by rw [h]; rfl⟩

theorem countP_lt_countP {α : Type} {p q : α → Bool} {l : List α} (hpq : ∀ a, p a → q a) {a : α}
    (ha : a ∈ l) (hq : q a) (hp : ¬ p a) : l.countP p < l.countP q := by
  induction l with
  | nil => cases ha
  | cons b l ih =>
    have hle : l.countP p ≤ l.countP q := List.countP_mono_left fun a _ => hpq a
    rcases List.mem_cons.1 ha with rfl | ha
    · rw [List.countP_cons_of_neg hp, List.countP_cons_of_pos hq]
      omega
    · have := ih ha
      by_cases hb : p b
      · rw [List.countP_cons_of_pos hb, List.countP_cons_of_pos (hpq b hb)]
        omega
      · rw [List.countP_cons_of_neg hb]
        have := List.countP_cons (p := q) (a := b) (l := l)
        omega

theorem unvisited_append_lt {g : Graph} {visited : List Text} {n : Text} (hn : n ∈ names g)
    (h : n ∉ visited) : unvisited g (visited ++ [n]) < unvisited g visited := by
  refine countP_lt_countP (a := n) ?_ hn ?_ ?_ <;> simp_all

theorem Collected.visited_add {c : Collected} {d : Declaration} (h : d.name ∉ c.visited) :
    (c.add d).visited = c.visited ++ [d.name] :=
  if_neg h

/-! ### The walk -/

/-- The number of elements on the stack, one more for every level. -/
def stackSize (stack : List (List ElementId)) : Nat := stack.flatten.length + stack.length

/-- The names of the elements on the path and of the element that closes a cycle. -/
def cyclePath (g : Graph) (path : List ElementId) (i : ElementId) : List Text :=
  path.reverse.map g.name ++ [g.name i]

/-- How the text and the Go name of the declaration of an element are made. -/
abbrev Declare := ElementId → Except GenerationFailure (Text × Text)

/-- The declaration of an element, whose name has to be a text. -/
def declaration? (g : Graph) (declare : Declare) (i : ElementId) :
    Except GenerationFailure Declaration :=
  match declare i, (g.get i).name with
  | .error failure, _ => .error failure
  | .ok (text, typeName), .str name =>
    .ok { element := i, name, typeName, shape := g.shape i, text }
  | .ok _, name => .error (.misuse (.notText name.kind))

theorem name_of_declaration? {g : Graph} {declare : Declare} {i : ElementId} {d : Declaration}
    (h : declaration? g declare i = .ok d) : (g.get i).name = .str d.name := by
  unfold declaration? at h
  split at h <;> cases h
  assumption

/-- Why an element cannot be looked up: neither a list nor an object can be the name of a type or of
an element that may have to be declared. -/
def unfit? (e : Element) : Option GenerationFailure :=
  if !e.isFit then some (.misuse (.unhashable e.type.kind))
  else if !e.isPrimitive && e.name.isContainer then some (.misuse (.unhashable e.name.kind))
  else none

/-- Goes on with a walk after the given events, by which it has collected `c`.  `path` holds the
elements from the one whose children are visited up to the root, and `stack` what is still to visit
at each level. -/
def runFrom (g : Graph) (strategy : ConflictStrategy) (declare : Declare) (c : Collected)
    (events : List Event) (path : List ElementId) (stack : List (List ElementId)) :
    Collected × Outcome :=
  match stack with
  | [] => (c, { events, failure := none })
  | [] :: stack => runFrom g strategy declare c events path.tail stack
  | (i :: rest) :: stack =>
    match unfit? (g.get i) with
    | some failure => (c, { events, failure := some failure })
    | none =>
      if g.isPrimitive i then
        if path.isEmpty then
          runFrom g strategy declare c (events ++ [.skipped (g.name i)]) path (rest :: stack)
        else runFrom g strategy declare c events path (rest :: stack)
      else if i ∈ path then (c, { events, failure := some (.cyclic (cyclePath g path i)) })
      else if _ : c.isVisited (g.get i).name then
        if c.fits g i then
          runFrom g strategy declare c (events ++ [.repeated (g.name i)]) path (rest :: stack)
        else match strategy with
          | .error => (c, { events, failure := some (.conflict (g.name i)) })
          | .first =>
            runFrom g strategy declare (c.warn (.redefined (g.name i)))
              (events ++ [.redefined (g.name i)]) path (rest :: stack)
      else match _ : declaration? g declare i with
        | .error failure => (c, { events, failure := some failure })
        | .ok d =>
          runFrom g strategy declare (c.add d) (events ++ [.declared d]) (i :: path)
            (g.children i :: rest :: stack)
termination_by (unvisited g c.visited, stackSize stack)
decreasing_by
  all_goals try exact Prod.Lex.right _ (by simp [stackSize])
  have hname := name_of_declaration? ‹_›
  have hnew : d.name ∉ c.visited := by simp_all [Collected.isVisited, Json.text?]
  rw [Collected.visited_add hnew]
  exact Prod.Lex.left _ _ (unvisited_append_lt (mem_names hname) hnew)

/-- Walks a schema from its roots: what the walk has collected, and how it went. -/
def course (g : Graph) (strategy : ConflictStrategy) (declare : Declare) (roots : List ElementId) :
    Collected × Outcome :=
  runFrom g strategy declare {} [] [] [roots]

/-- How a walk from the roots goes. -/
def run (g : Graph) (strategy : ConflictStrategy) (declare : Declare) (roots : List ElementId) :
    Outcome :=
  (course g strategy declare roots).2

end Walk

namespace Generator

/-- The text and the Go name of the declaration of an element. -/
def declare (gen : Generator) (g : Graph) : Walk.Declare := fun i => do
  let text ← gen.render g i
  let typeName ← gen.typeName? (g.get i).name
  return (text, typeName)

/-- Walks a schema from its roots and tells what happens. -/
def walk (gen : Generator) (g : Graph) (roots : List ElementId) : Walk.Outcome :=
  Walk.run g gen.strategy (gen.declare g) roots

/-- Walks a schema from its roots and gives what was collected, if it comes to its end. -/
def collect (gen : Generator) (g : Graph) (roots : List ElementId) :
    Except GenerationFailure Walk.Collected :=
  let (c, o) := Walk.course g gen.strategy (gen.declare g) roots
  match o.failure with
  | some failure => .error failure
  | none => .ok c

end Generator

namespace Walk.Outcome

/-- The events of a walk that came to its end. -/
def toExcept (o : Walk.Outcome) : Except GenerationFailure (List Walk.Event) :=
  match o.failure with
  | some failure => .error failure
  | none => .ok o.events

end Walk.Outcome

end SchemaStructs
