import Mathlib.Data.List.Forall2
import SchemaStructs.Proofs.Generator.Declaration
import SchemaStructs.Proofs.Walk.Declared

/-!
# The account of a walk

A walk that comes to its end has expanded some elements, each reachable and with a raw name of its
own.  The declarations, Go names, visited names and shapes that it has collected are those of these
elements, in order; nothing that they refer to is left out; and the warnings count the places where
a name stands for another shape (`Walk.Account`).  `Walk.account` gives the account of every walk.
-/

namespace SchemaStructs

namespace Walk

/-- What a walk from the roots has collected in `run` when it has come to its end, given the elements
`es` that it expanded. -/
structure Account (gen : Generator) (g : Graph) (roots : List ElementId) (run : Collected)
    (es : List ElementId) : Prop where
  /-- No two of the elements share a raw name. -/
  names_nodup : (es.map g.rawName).Nodup
  /-- None is primitive, and each is reached from a root through elements that are not. -/
  reachable : ∀ e ∈ es, g.isPrimitive e = false ∧ g.Reachable roots e
  /-- The declarations are theirs. -/
  texts : List.Forall₂ (fun e t => gen.render g e = .ok t) es run.declarations
  /-- The declared types have their Go names. -/
  types : List.Forall₂ (fun e t => gen.typeName? (g.rawName e) = .ok t) es run.declaredTypes
  /-- The visited names are their raw names. -/
  names : run.visited.map Json.str = es.map g.rawName
  /-- The visited names are those that have a shape. -/
  shaped : run.shapes.map (·.1) = run.visited
  /-- The shape of a name is that of the element that was expanded for it. -/
  shapes : ∀ e ∈ es, Json.lookup run.shapes (g.name e) = some (g.shape e)
  /-- The names of all roots and children that are not primitive were visited. -/
  closed : ∀ c ∈ occurrences g roots es, run.isVisited (g.rawName c) = true
  /-- If the first definition is kept, there is a warning for each place where another shape stands
  than the one of its name. -/
  warned : gen.strategy = .first →
    run.warnings.length = (occurrences g roots es).countP (!run.fits g ·)
  /-- Under the strict strategy there is no such place, and no warning. -/
  agreed : gen.strategy = .error →
    run.warnings = [] ∧ ∀ c ∈ occurrences g roots es, run.fits g c = true

variable {g : Graph} {gen : Generator} {roots es : List ElementId} {events : List Event}

theorem declare_eq_ok {i : ElementId} {text typeName : Text}
    (h : gen.declare g i = .ok (text, typeName)) :
    gen.render g i = .ok text ∧ gen.typeName? (g.rawName i) = .ok typeName := by
  unfold Generator.declare at h
  cases hr : gen.render g i with
  | error failure => rw [hr] at h; cases h
  | ok t =>
    cases ht : gen.typeName? (g.get i).name with
    | error failure => rw [hr, ht] at h; cases h
    | ok n => rw [hr, ht] at h; cases h; exact ⟨rfl, ht⟩

theorem mem_elements_iff {e : ElementId} :
    e ∈ elements events ↔ ∃ d ∈ declarations events, d.element = e := by
  simp [elements]

theorem mem_occurrences_iff {c : ElementId} :
    c ∈ occurrences g roots es ↔
      (c ∈ roots ∨ ∃ e ∈ es, c ∈ g.children e) ∧ g.isPrimitive c = false := by
  simp [occurrences, or_and_right]

theorem visits_walk (gen : Generator) (g : Graph) (roots : List ElementId) :
    Visits g gen.strategy (gen.declare g) [] [] roots (gen.walk g roots) :=
  visits_run ..

theorem valid_walk (gen : Generator) (g : Graph) (roots : List ElementId) :
    Valid g (gen.declare g) roots (gen.walk g roots).events :=
  (visits_walk gen g roots).valid valid_nil fun _ hi => .inl hi

theorem Valid.map_str_visited {declare : Declare} (hv : Valid g declare roots events) :
    (visited events).map Json.str = (elements events).map g.rawName := by
  rw [visited, elements, List.map_map, List.map_map]
  exact List.map_congr_left fun d hd => (hv.rawName_element hd).symm

theorem Valid.rawNames_nodup {declare : Declare} (hv : Valid g declare roots events) :
    ((elements events).map g.rawName).Nodup := by
  rw [← hv.map_str_visited]
  exact hv.names_nodup.map fun _ _ h => by cases h; rfl

/-- All roots, and all children of declared elements, are settled when a walk comes to its end. -/
theorem isVisited_of_mem_occurrences (ho : (gen.walk g roots).failure = none) {c : ElementId}
    (hc : c ∈ occurrences g roots (elements (gen.walk g roots).events)) :
    isVisited (gen.walk g roots).events (g.rawName c) = true := by
  have hvisits := visits_walk gen g roots
  obtain ⟨hc | ⟨e, he, hc⟩, hp⟩ := mem_occurrences_iff.1 hc
  · exact (hvisits.settled ho c hc hp).2
  · rcases hvisits.closed ho e he with h | h
    · cases h
    · exact h c hc hp

/-- There are as many redefinitions as places where a name stands for another shape. -/
theorem length_redefinitions (ho : (gen.walk g roots).failure = none) :
    (redefinitions (gen.walk g roots).events).length =
      (occurrences g roots (elements (gen.walk g roots).events)).countP
        (!fits g (gen.walk g roots).events ·) := by
  have h := (visits_walk gen g roots).balance ho valid_nil (fun _ hi => .inl hi) List.prefix_rfl
  have hcount : ∀ l : List ElementId,
      (l.filter (!g.isPrimitive ·)).countP (!fits g (gen.walk g roots).events ·) =
        l.countP (redefines g (gen.walk g roots).events) := fun l => by
    rw [List.countP_filter]
    exact List.countP_congr fun c _ => by simp [redefines, and_comm]
  rw [occurrences, hcount, List.countP_append]
  simpa [redefinitions, elements, declarations] using h

/-- Where no redefinition is found, all places fit. -/
theorem fits_of_mem_occurrences (ho : (gen.walk g roots).failure = none)
    (hagreed : redefinitions (gen.walk g roots).events = []) {c : ElementId}
    (hc : c ∈ occurrences g roots (elements (gen.walk g roots).events)) :
    fits g (gen.walk g roots).events c = true := by
  have h := length_redefinitions ho
  rw [hagreed, List.length_nil, eq_comm, List.countP_eq_zero] at h
  simpa using h c hc

theorem redefinitions_of_strict (hs : gen.strategy = .error) :
    redefinitions (gen.walk g roots).events = [] := by
  have h := visits_walk gen g roots
  rw [hs] at h
  simpa [redefinitions] using h.redefinitions_of_error

/-- A walk that has come to its end is accounted for by the elements that it declared. -/
theorem account_of_success (ho : (gen.walk g roots).failure = none) :
    Account gen g roots (.ofEvents (gen.walk g roots).events)
      (elements (gen.walk g roots).events) := by
  have hv := valid_walk gen g roots
  have hdeclare : ∀ d ∈ declarations (gen.walk g roots).events,
      gen.render g d.element = .ok d.text ∧
        gen.typeName? (g.rawName d.element) = .ok d.typeName := fun d hd =>
    declare_eq_ok (declaration?_eq_ok (hv.genuine d hd)).1
  refine
    { names_nodup := hv.rawNames_nodup
      reachable := fun e he => ?_
      texts := ?_
      types := ?_
      names := hv.map_str_visited
      shaped := List.map_map
      shapes := fun e he => ?_
      closed := fun c hc => isVisited_of_mem_occurrences ho hc
      warned := fun _ => ?_
      agreed := fun hs => ⟨?_, fun c hc => ?_⟩ }
  · obtain ⟨d, hd, rfl⟩ := mem_elements_iff.1 he
    exact ⟨(hv.reachable d hd).isPrimitive_eq, hv.reachable d hd⟩
  · change List.Forall₂ _ _ (Generator.declarationTexts _)
    rw [elements, Generator.declarationTexts, List.forall₂_map_left_iff,
      List.forall₂_map_right_iff, List.forall₂_same]
    exact fun d hd => (hdeclare d hd).1
  · change List.Forall₂ _ _ (declaredTypes _)
    rw [elements, declaredTypes, List.forall₂_map_left_iff, List.forall₂_map_right_iff,
      List.forall₂_same]
    exact fun d hd => (hdeclare d hd).2
  · obtain ⟨d, hd, rfl⟩ := mem_elements_iff.1 he
    rw [Collected.lookup_ofEvents, Graph.name_eq_of_rawName (hv.rawName_element hd),
      shapeOf?_of_mem hv.names_nodup hd, hv.shape_eq hd]
  · simp only [Collected.fits_ofEvents]
    exact (List.length_map _).trans (length_redefinitions ho)
  · change warnings _ = []
    rw [warnings, redefinitions_of_strict hs, List.map_nil]
  · rw [Collected.fits_ofEvents]
    exact fits_of_mem_occurrences ho (redefinitions_of_strict hs) hc

/-- **The account of a walk.**  Every walk is a finite visit of its roots and expands at most one
element of every raw name.  If it comes to its end, it returns what it has collected, and what it
returns is accounted for by the elements that it expanded. -/
theorem account (gen : Generator) (g : Graph) (roots : List ElementId) :
    Visits g gen.strategy (gen.declare g) [] [] roots (gen.walk g roots) ∧
      ((elements (gen.walk g roots).events).map g.rawName).Nodup ∧
      ((gen.walk g roots).failure = none → ∃ run, gen.collect g roots = .ok run) ∧
      ∀ run, gen.collect g roots = .ok run →
        Account gen g roots run (elements (gen.walk g roots).events) := by
  refine ⟨visits_walk gen g roots, (valid_walk gen g roots).rawNames_nodup,
    fun ho => ⟨_, Generator.collect_eq_ok_iff.2 ⟨ho, rfl⟩⟩, fun run hrun => ?_⟩
  obtain ⟨ho, rfl⟩ := Generator.collect_eq_ok_iff.1 hrun
  exact account_of_success ho

/-! ### A schema with a second definition -/

/-- An element with one attribute. -/
def withAttribute (name attr : Text) : Element :=
  { name := .str name, type := .str name
    attributes := [{ name := .str attr, type := .str "int" }] }

/-- An order whose item is defined twice, once with a number and once with a name; the first
definition is shared, and one more child is primitive. -/
def orders : Graph :=
  ⟨#[{ name := .str "order", type := .str "Order", children := [1, 3, 2, 1] },
    withAttribute "item" "number", withAttribute "item" "name",
    { name := .str "note", type := .str "string" }]⟩

/-- A generator with the default settings. -/
def plainGenerator (strategy : ConflictStrategy) : Generator :=
  { settings := {}, strategy, library := Generator.libraryFor {} }

theorem standard_plainGenerator (strategy : ConflictStrategy) :
    (plainGenerator strategy).Standard :=
  ⟨rfl, rfl⟩

/-- What a bounded number of steps shows of a walk, without running any templates. -/
theorem walk_of_outcome? {p : Outcome → Bool} (hgen : gen.Standard) (fuel : Nat)
    (h : (outcome? g gen.strategy (gen.printed g) fuel [] [] [roots]).any p = true) :
    p (gen.walk g roots) = true := by
  rw [Generator.walk, hgen.declare_eq_printed]
  exact run_of_outcome? fuel h

theorem failure_orders : ((plainGenerator .first).walk orders [0, 2]).failure = none := by
  have h : ((plainGenerator .first).walk orders [0, 2]).failure.isNone = true :=
    walk_of_outcome? (p := (·.failure.isNone)) (standard_plainGenerator _) 20 (by decide +kernel)
  exact Option.isNone_iff_eq_none.1 h

theorem account_orders :
    ((plainGenerator .first).walk orders [0, 2]).failure = none ∧
      ∃ run, (plainGenerator .first).collect orders [0, 2] = .ok run ∧
        Account (plainGenerator .first) orders [0, 2] run
          (elements ((plainGenerator .first).walk orders [0, 2]).events) := by
  obtain ⟨-, -, hreturns, haccount⟩ := account (plainGenerator .first) orders [0, 2]
  obtain ⟨run, hrun⟩ := hreturns failure_orders
  exact ⟨failure_orders, run, hrun, haccount run hrun⟩

end Walk

end SchemaStructs
