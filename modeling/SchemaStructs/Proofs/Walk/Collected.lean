import SchemaStructs.Generator.Generate

/-!
# What is collected and what happens

A walk keeps a record of what it has made, and looks up names and shapes there
(`Walk.Collected`).  The record can be told from what has happened (`Walk.Collected.ofEvents`): with
each event both go on alike, since a declaration is only added if its name is new
(`Walk.Collected.add_ofEvents`, `Walk.Collected.warn_ofEvents`), and the look-ups come to the same
(`Walk.Collected.fits_ofEvents`).

So a walk can be reasoned about by its events alone, and `Generator.collect_eq` gives the record that
it returns.
-/

namespace SchemaStructs

namespace Walk

/-! ### Look-ups in what has happened -/

/-- An element of the name is declared. -/
def isVisited (events : List Event) (name : Json) : Bool := name.text?.any (visited events).contains

/-- The shape of the declaration of a name. -/
def shapeOf? (events : List Event) (name : Text) : Option Shape :=
  ((declarations events).find? (·.name == name)).map (·.shape)

/-- The element has the shape of the declaration of its name. -/
def fits (g : Graph) (events : List Event) (i : ElementId) : Bool :=
  (shapeOf? events (g.name i)).any (g.shape i).alike

/-- The Go names of the declared types, in order. -/
def declaredTypes (events : List Event) : List Text := (declarations events).map (·.typeName)

/-- The names that were found redefined, in order. -/
def redefinitions (events : List Event) : List Text := events.filterMap Event.redefined?

/-- The warnings of a walk. -/
def warnings (events : List Event) : List Warning := (redefinitions events).map .redefined

variable {g : Graph} {events before after : List Event} {d : Declaration} {n : Text}
variable {i : ElementId}

theorem declarations_append (before after : List Event) :
    declarations (before ++ after) = declarations before ++ declarations after :=
  List.filterMap_append

theorem redefinitions_append (before after : List Event) :
    redefinitions (before ++ after) = redefinitions before ++ redefinitions after :=
  List.filterMap_append

theorem visited_append (before after : List Event) :
    visited (before ++ after) = visited before ++ visited after := by
  rw [visited, declarations_append, List.map_append, visited, visited]

@[simp] theorem visited_append_declared (events : List Event) (d : Declaration) :
    visited (events ++ [.declared d]) = visited events ++ [d.name] :=
  visited_append events [.declared d]

/-! ### The record -/

namespace Collected

/-- What a walk has collected when some events have happened. -/
def ofEvents (events : List Event) : Collected :=
  { visited := Walk.visited events
    shapes := (Walk.declarations events).map fun d => (d.name, d.shape)
    declarations := Generator.declarationTexts events
    declaredTypes := Walk.declaredTypes events
    warnings := Walk.warnings events }

/-- Events that declare nothing and redefine nothing leave the record as it is. -/
theorem ofEvents_append (hdeclared : Walk.declarations after = [])
    (hredefined : redefinitions after = []) : ofEvents (before ++ after) = ofEvents before := by
  have hsame : Walk.declarations (before ++ after) = Walk.declarations before := by
    rw [declarations_append, hdeclared, List.append_nil]
  simp only [ofEvents, Walk.visited, Generator.declarationTexts, Walk.declaredTypes, Walk.warnings,
    hsame, redefinitions_append, hredefined, List.append_nil]

/-- A declaration with a new name is added to the record. -/
theorem add_ofEvents (hnew : d.name ∉ Walk.visited events) :
    (ofEvents events).add d = ofEvents (events ++ [.declared d]) := by
  have hdeclared : Walk.declarations (events ++ [.declared d]) =
      Walk.declarations events ++ [d] := declarations_append events [.declared d]
  have hredefined : redefinitions (events ++ [.declared d]) = redefinitions events := by
    rw [redefinitions_append]
    exact List.append_nil _
  have hkeys : ((Walk.declarations events).map fun d => (d.name, d.shape)).map (·.1) =
      Walk.visited events := List.map_map
  have hinsert := Json.insert_of_not_mem d.shape (hkeys ▸ hnew)
  simp only [add, ofEvents, Generator.declarationTexts, Walk.declaredTypes, Walk.warnings,
    hnew, if_false, hinsert, hdeclared, hredefined, visited_append_declared, List.map_append,
    List.map_cons, List.map_nil]

theorem warn_ofEvents (events : List Event) (n : Text) :
    (ofEvents events).warn (.redefined n) = ofEvents (events ++ [.redefined n]) := by
  have hdeclared : Walk.declarations (events ++ [.redefined n]) = Walk.declarations events := by
    rw [declarations_append]
    exact List.append_nil _
  have hwarned : Walk.warnings (events ++ [.redefined n]) =
      Walk.warnings events ++ [.redefined n] := by
    rw [Walk.warnings, redefinitions_append, List.map_append]
    rfl
  simp only [warn, ofEvents, Walk.visited, Generator.declarationTexts, Walk.declaredTypes,
    hdeclared, hwarned]

/-! ### Look-ups in the record -/

theorem isVisited_ofEvents (events : List Event) (name : Json) :
    (ofEvents events).isVisited name = Walk.isVisited events name := rfl

theorem lookup_ofEvents (events : List Event) (n : Text) :
    Json.lookup (ofEvents events).shapes n = shapeOf? events n := by
  change Json.lookup ((Walk.declarations events).map fun d => (d.name, d.shape)) n = _
  rw [shapeOf?]
  induction Walk.declarations events with
  | nil => rfl
  | cons d ds ih =>
    rw [List.map_cons, Json.lookup, List.find?_cons]
    by_cases h : d.name = n
    · rw [if_pos h, beq_iff_eq.2 h]
      rfl
    · rw [if_neg h, beq_false_of_ne h]
      exact ih

theorem fits_ofEvents (g : Graph) (events : List Event) (i : ElementId) :
    (ofEvents events).fits g i = Walk.fits g events i := by
  rw [fits, lookup_ofEvents, Walk.fits]

end Collected

end Walk

end SchemaStructs
