import SchemaStructs.Proofs.Walk.Account

/-!
# Walks of more roots

A walk visits its roots one after another, and what it has done with some of them is never taken
back.  So the walk of a list of roots is the beginning of every walk that goes on with more roots
(`Walk.Begins`), and visiting the same roots again declares nothing (`Walk.DeclaresSame`).

* `Walk.Visits.exists_of_append`, `Walk.Visits.append`: a visit of two lists is a visit of the
  first one and then, after what it has done, a visit of the second one;
* `Walk.encounter_settled`: an element whose name is declared is passed over, below any path that
  it is not on; under the strict strategy it has to fit as well;
* `Walk.Visits.again`: so a visit of such elements comes to its end and declares nothing;
* `Walk.more_roots`: what this says of the walks of a schema.

With the lenient strategy a second visit can repeat warnings: a root whose name was declared with
another shape is redefined each time it is met.
-/

namespace SchemaStructs

namespace Walk

variable {g : Graph} {gen : Generator} {strategy : ConflictStrategy} {declare : Declare}
variable {roots path is js : List ElementId} {i : ElementId}
variable {events mid before after news : List Event} {o : Outcome}

/-! ### One list after another -/

/-- A visit of two lists that comes to its end has visited the first one before the second one. -/
theorem Visits.exists_of_append (h : Visits g strategy declare events path (is ++ js) o)
    (ho : o.failure = none) :
    ∃ mid, Visits g strategy declare events path is ⟨mid, none⟩ ∧
      Visits g strategy declare mid path js o := by
  induction is generalizing events with
  | nil => exact ⟨events, .nil, h⟩
  | cons i rest ih =>
    cases h with
    | stop _ | halt _ _ => cases ho
    | pass hi hrest =>
      obtain ⟨mid, hfirst, hsecond⟩ := ih hrest
      exact ⟨mid, .pass hi hfirst, hsecond⟩
    | enter hi hbelow hrest =>
      obtain ⟨mid, hfirst, hsecond⟩ := ih hrest
      exact ⟨mid, .enter hi hbelow hfirst, hsecond⟩

/-- A visit of a second list goes on from where that of the first one has come to its end. -/
theorem Visits.append (hfirst : Visits g strategy declare events path is ⟨mid, none⟩)
    (hsecond : Visits g strategy declare mid path js o) :
    Visits g strategy declare events path (is ++ js) o := by
  induction is generalizing events with
  | nil =>
    cases hfirst
    exact hsecond
  | cons i rest ih =>
    cases hfirst with
    | pass hi hrest => exact .pass hi (ih hrest)
    | enter hi hbelow hrest => exact .enter hi hbelow (ih hrest)

/-! ### Elements that are met again -/

/-- The elements of a visit that comes to its end can be looked up. -/
theorem Visits.unfit?_eq_none (h : Visits g strategy declare events path is o)
    (ho : o.failure = none) : ∀ i ∈ is, unfit? (g.get i) = none := by
  induction h with
  | nil => simp
  | stop _ | halt _ _ => cases ho
  | @pass events path i rest news o hi _ ih =>
    refine List.forall_mem_cons.2 ⟨?_, ih ho⟩
    cases hu : unfit? (g.get i) with
    | none => rfl
    | some failure => simp [encounter, hu] at hi
  | enter hi _ _ _ ihRest => exact List.forall_mem_cons.2 ⟨(encounter_enter hi).1, ihRest ho⟩

/-- What is known of an element that a walk has dealt with: below the path it is passed over. -/
structure Settled (g : Graph) (strategy : ConflictStrategy) (events : List Event)
    (path : List ElementId) (i : ElementId) : Prop where
  /-- It can be looked up. -/
  unfit?_eq_none : unfit? (g.get i) = none
  /-- It does not close a cycle. -/
  not_mem : g.isPrimitive i = false → i ∉ path
  /-- Its name is declared. -/
  isVisited : g.isPrimitive i = false → isVisited events (g.rawName i) = true
  /-- Under the strict strategy it has the shape of the declaration. -/
  fits : strategy = .error → g.isPrimitive i = false → fits g events i = true

/-- A settled element is passed over, and nothing is declared. -/
theorem encounter_settled (declare : Declare) (h : Settled g strategy events path i) :
    ∃ news, encounter g strategy declare events path i = .pass news ∧ declarations news = [] := by
  obtain ⟨hunfit, hpath, hvisited, hfits⟩ := h
  unfold encounter
  rw [hunfit]
  cases hprim : g.isPrimitive i with
  | true => exact ⟨_, rfl, by split <;> rfl⟩
  | false =>
    have hname : isVisited events (g.get i).name = true := hvisited hprim
    simp only [Bool.false_eq_true, if_false, hpath hprim, hname, if_true]
    cases hfit : fits g events i with
    | true => exact ⟨_, rfl, rfl⟩
    | false =>
      cases strategy with
      | first => exact ⟨_, rfl, rfl⟩
      | error =>
        rw [hfits rfl hprim] at hfit
        cases hfit

/-- An element stays settled. -/
theorem Settled.mono (h : Settled g strategy before path i) (hpre : before <+: after) :
    Settled g strategy after path i where
  unfit?_eq_none := h.unfit?_eq_none
  not_mem := h.not_mem
  isVisited hp := isVisited_mono hpre (h.isVisited hp)
  fits hs hp := (fits_mono hpre (h.isVisited hp)).trans (h.fits hs hp)

/-- **A visit of settled elements comes to its end and declares nothing.** -/
theorem Visits.again (declare : Declare) (h : ∀ i ∈ is, Settled g strategy events path i) :
    ∃ news, Visits g strategy declare events path is ⟨events ++ news, none⟩ ∧
      declarations news = [] := by
  induction is generalizing events with
  | nil => exact ⟨[], by rw [List.append_nil]; exact .nil, rfl⟩
  | cons i rest ih =>
    obtain ⟨hi, hrest⟩ := List.forall_mem_cons.1 h
    obtain ⟨news, hpass, hnone⟩ := encounter_settled declare hi
    obtain ⟨more, hvisits, hmore⟩ :=
      ih fun j hj => (hrest j hj).mono (List.prefix_append events news)
    refine ⟨news ++ more, .pass hpass ?_, by rw [declarations_append, hnone, hmore]; rfl⟩
    rwa [← List.append_assoc]

/-- When a walk has come to its end, its roots are settled. -/
theorem settled_roots (ho : (gen.walk g roots).failure = none) :
    ∀ r ∈ roots, Settled g gen.strategy (gen.walk g roots).events [] r := by
  have hvisits := visits_walk gen g roots
  intro r hr
  refine ⟨hvisits.unfit?_eq_none ho r hr, fun _ => List.not_mem_nil,
    fun hp => (hvisits.settled ho r hr hp).2, fun hs hp => ?_⟩
  exact fits_of_mem_occurrences ho (redefinitions_of_strict hs)
    (mem_occurrences_iff.2 ⟨.inl hr, hp⟩)

/-! ### Walks -/

/-- What a walk has done is the beginning of what another one has done. -/
structure Begins (before after : List Event) : Prop where
  /-- The declarations come first. -/
  texts : Generator.declarationTexts before <+: Generator.declarationTexts after
  /-- The declared types come first. -/
  types : declaredTypes before <+: declaredTypes after
  /-- The warnings come first. -/
  warnings : warnings before <+: warnings after
  /-- A name that has a shape keeps it. -/
  shapes : ∀ n s, shapeOf? before n = some s → shapeOf? after n = some s

/-- Two walks have made the same declarations. -/
structure DeclaresSame (before after : List Event) : Prop where
  /-- The declarations are the same. -/
  texts : Generator.declarationTexts after = Generator.declarationTexts before
  /-- The declared types are the same. -/
  types : declaredTypes after = declaredTypes before
  /-- The shapes of names are the same. -/
  shapes : ∀ n, shapeOf? after n = shapeOf? before n

theorem begins_of_prefix (h : before <+: after) : Begins before after where
  texts := (h.filterMap Event.declaration?).map Declaration.text
  types := (h.filterMap Event.declaration?).map Declaration.typeName
  warnings := (h.filterMap Event.redefined?).map Warning.redefined
  shapes n s hs := by
    have hn : n ∈ visited before := shapeOf?_isSome_iff.1 (by rw [hs]; rfl)
    rw [shapeOf?_mono h hn, hs]

theorem declaresSame_of_declarations (h : declarations after = declarations before) :
    DeclaresSame before after where
  texts := congrArg (List.map Declaration.text) h
  types := congrArg (List.map Declaration.typeName) h
  shapes n := by rw [shapeOf?, shapeOf?, h]

/-- **More roots only add to a walk.**  If a walk comes to its end, so does that of the first of its
roots, and what that one has done is the beginning of what it does: declarations, declared types,
warnings and shapes.  If a walk comes to its end, so does that of its roots twice over; it makes the
same declarations, and under the strict strategy it still has no warnings. -/
theorem more_roots (gen : Generator) (g : Graph) (roots more : List ElementId) :
    ((gen.walk g (roots ++ more)).failure = none →
      (gen.walk g roots).failure = none ∧
        Begins (gen.walk g roots).events (gen.walk g (roots ++ more)).events) ∧
    ((gen.walk g roots).failure = none →
      (gen.walk g (roots ++ roots)).failure = none ∧
        DeclaresSame (gen.walk g roots).events (gen.walk g (roots ++ roots)).events ∧
        (gen.strategy = .error → warnings (gen.walk g (roots ++ roots)).events = [])) := by
  constructor
  · intro ho
    obtain ⟨mid, hfirst, hsecond⟩ := (visits_walk gen g (roots ++ more)).exists_of_append ho
    have hwalk : gen.walk g roots = ⟨mid, none⟩ := run_eq_of_visits hfirst
    rw [hwalk]
    exact ⟨rfl, begins_of_prefix hsecond.events_mono⟩
  · intro ho
    have hfirst : Visits g gen.strategy (gen.declare g) [] [] roots
        ⟨(gen.walk g roots).events, none⟩ := by
      rw [← ho]
      exact visits_walk gen g roots
    obtain ⟨news, hagain, hnone⟩ := Visits.again (gen.declare g) (settled_roots ho)
    have hwalk : gen.walk g (roots ++ roots) = ⟨(gen.walk g roots).events ++ news, none⟩ :=
      run_eq_of_visits (hfirst.append hagain)
    refine ⟨by rw [hwalk], declaresSame_of_declarations ?_, fun hs => ?_⟩
    · rw [hwalk, declarations_append, hnone, List.append_nil]
    · rw [warnings, redefinitions_of_strict hs, List.map_nil]

/-- A shelf and a box with the same book; the box has another book of the same shape, too, and a
note is primitive. -/
def books : Graph :=
  ⟨#[{ name := .str "shelf", type := .str "shelf", children := [1] }, withAttribute "book" "isbn",
    { name := .str "box", type := .str "box", children := [1, 3] }, withAttribute "book" "isbn",
    { name := .str "note", type := .str "string" }]⟩

theorem failure_books :
    ((plainGenerator .error).walk books ([0, 4] ++ [2, 3, 0])).failure = none := by
  have h : ((plainGenerator .error).walk books ([0, 4] ++ [2, 3, 0])).failure.isNone = true :=
    walk_of_outcome? (p := (·.failure.isNone)) (standard_plainGenerator _) 20 (by decide +kernel)
  exact Option.isNone_iff_eq_none.1 h

theorem more_roots_books :
    ((plainGenerator .error).walk books ([0, 4] ++ [2, 3, 0])).failure = none ∧
    ((plainGenerator .error).walk books [0, 4]).failure = none ∧
    Begins ((plainGenerator .error).walk books [0, 4]).events
      ((plainGenerator .error).walk books ([0, 4] ++ [2, 3, 0])).events ∧
    ((plainGenerator .error).walk books ([0, 4] ++ [0, 4])).failure = none ∧
    DeclaresSame ((plainGenerator .error).walk books [0, 4]).events
      ((plainGenerator .error).walk books ([0, 4] ++ [0, 4])).events ∧
    warnings ((plainGenerator .error).walk books ([0, 4] ++ [0, 4])).events = [] := by
  obtain ⟨hmore, htwice⟩ := more_roots (plainGenerator .error) books [0, 4] [2, 3, 0]
  obtain ⟨hfirst, hbegins⟩ := hmore failure_books
  obtain ⟨hagain, hsame, hwarnings⟩ := htwice hfirst
  exact ⟨failure_books, hfirst, hbegins, hagain, hsame, hwarnings rfl⟩

end Walk

end SchemaStructs
