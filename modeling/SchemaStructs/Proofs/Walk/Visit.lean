import SchemaStructs.Proofs.Walk.Collected

/-!
# The walk as a recursion

`Walk.runFrom` goes through a schema with an explicit stack and a record of what it has made.  Here
the same walk is described as a recursion on what happens: `Walk.encounter` says what happens when
the walk comes to one element, and `Walk.Visits` what visiting some elements one after another below
a path gives, where entering an element means visiting its children first.

* `Walk.encounter_enter`, `Walk.encounter_pass`, `Walk.encounter_stop`: all that can have happened;
* `Walk.exists_visits`: every visit has an outcome, since entering an element uses up a name;
* `Walk.visits_run`: the outcome of a walk is that of visiting its roots;
* `Generator.collect_eq`: what a walk has collected is told by what has happened.

So what is proved by induction on visits holds of every walk.  `Walk.outcome?` takes a bounded
number of steps of a walk, so that given schemas can be computed with (`Walk.run_of_outcome?`).
-/

namespace SchemaStructs

namespace Walk

/-- What the walk does with an element that it comes to. -/
inductive Encounter where
  /-- It goes on with the next one after some events, none of which is a declaration. -/
  | pass (news : List Event)
  /-- It declares the element and goes on with its children. -/
  | enter (d : Declaration)
  /-- It ends. -/
  | stop (failure : GenerationFailure)

/-- What the walk does with the element `i` after some events and below a path. -/
def encounter (g : Graph) (strategy : ConflictStrategy) (declare : Declare) (events : List Event)
    (path : List ElementId) (i : ElementId) : Encounter :=
  match unfit? (g.get i) with
  | some failure => .stop failure
  | none =>
    if g.isPrimitive i then .pass (if path.isEmpty then [.skipped (g.name i)] else [])
    else if i ∈ path then .stop (.cyclic (cyclePath g path i))
    else if isVisited events (g.get i).name then
      if fits g events i then .pass [.repeated (g.name i)]
      else match strategy with
        | .error => .stop (.conflict (g.name i))
        | .first => .pass [.redefined (g.name i)]
    else match declaration? g declare i with
      | .error failure => .stop failure
      | .ok d => .enter d

variable {g : Graph} {strategy : ConflictStrategy} {declare : Declare}
variable {events news : List Event} {path is : List ElementId} {i : ElementId}
variable {d : Declaration} {failure : GenerationFailure} {o : Outcome}

/-- The name of an element that is declared is new, if it is not declared before. -/
theorem not_mem_visited (hnew : isVisited events (g.get i).name = false)
    (hd : declaration? g declare i = .ok d) : d.name ∉ visited events := by
  simpa [isVisited, name_of_declaration? hd, Json.text?] using hnew

open Collected (ofEvents) in
/-- A step of the walk: it depends on the first element of the innermost level alone. -/
theorem runFrom_cons (rest : List ElementId) (stack : List (List ElementId)) :
    runFrom g strategy declare (ofEvents events) events path ((i :: rest) :: stack) =
      match encounter g strategy declare events path i with
      | .pass news =>
        runFrom g strategy declare (ofEvents (events ++ news)) (events ++ news) path (rest :: stack)
      | .enter d =>
        runFrom g strategy declare (ofEvents (events ++ [.declared d])) (events ++ [.declared d])
          (i :: path) (g.children i :: rest :: stack)
      | .stop failure => (ofEvents events, { events, failure := some failure }) := by
  have hskipped (n : Text) : ofEvents (events ++ [.skipped n]) = ofEvents events :=
    Collected.ofEvents_append rfl rfl
  have hrepeated (n : Text) : ofEvents (events ++ [.repeated n]) = ofEvents events :=
    Collected.ofEvents_append rfl rfl
  rw [runFrom.eq_def]
  unfold encounter
  cases hu : unfit? (g.get i) with
  | some failure => simp [hu]
  | none =>
    simp only [hu, Collected.isVisited_ofEvents, Collected.fits_ofEvents]
    by_cases hprim : g.isPrimitive i
    · by_cases hpath : path.isEmpty <;> simp [hprim, hpath, hskipped]
    · by_cases hcycle : i ∈ path
      · simp [hprim, hcycle]
      · by_cases hvisited : isVisited events (g.get i).name
        · by_cases hsame : fits g events i
          · simp [hprim, hcycle, hvisited, hsame, hrepeated]
          · cases strategy <;>
              simp [hprim, hcycle, hvisited, hsame, Collected.warn_ofEvents]
        · cases hd : declaration? g declare i with
          | error failure => simp [hprim, hcycle, hvisited]
          | ok d =>
            have hnew := not_mem_visited (Bool.eq_false_iff.2 hvisited) hd
            simp [hprim, hcycle, hvisited, Collected.add_ofEvents hnew]

/-! ### What can happen -/

/-- An element is entered only if it can be declared and nothing of its name was. -/
theorem encounter_enter (h : encounter g strategy declare events path i = .enter d) :
    unfit? (g.get i) = none ∧ g.isPrimitive i = false ∧ i ∉ path ∧
      isVisited events (g.get i).name = false ∧ declaration? g declare i = .ok d := by
  unfold encounter at h
  cases hu : unfit? (g.get i) with
  | some failure => simp [hu] at h
  | none =>
    simp only [hu] at h
    split at h
    · cases h
    · split at h
      · cases h
      · split at h
        · split at h
          · cases h
          · split at h <;> cases h
        · split at h <;> cases h
          simp_all

/-- An element is passed over because it is primitive, or because its name is declared. -/
theorem encounter_pass (h : encounter g strategy declare events path i = .pass news) :
    (g.isPrimitive i = true ∧ news = if path.isEmpty then [.skipped (g.name i)] else []) ∨
      (g.isPrimitive i = false ∧ i ∉ path ∧ isVisited events (g.get i).name = true ∧
        (fits g events i = true ∧ news = [.repeated (g.name i)] ∨
          strategy = .first ∧ fits g events i = false ∧ news = [.redefined (g.name i)])) := by
  unfold encounter at h
  cases hu : unfit? (g.get i) with
  | some failure => simp [hu] at h
  | none =>
    simp only [hu] at h
    split at h
    · cases h
      exact .inl ⟨‹_›, rfl⟩
    · split at h
      · cases h
      · split at h
        · split at h
          · cases h
            simp_all
          · split at h <;> cases h
            simp_all
        · split at h <;> cases h

/-- The walk ends at an element that cannot be looked up, that contains itself, that is in conflict
with a declaration, or that cannot be declared. -/
theorem encounter_stop (h : encounter g strategy declare events path i = .stop failure) :
    unfit? (g.get i) = some failure ∨
      (g.isPrimitive i = false ∧
        (i ∈ path ∧ failure = .cyclic (cyclePath g path i) ∨
          i ∉ path ∧
            (strategy = .error ∧ isVisited events (g.get i).name = true ∧
                fits g events i = false ∧ failure = .conflict (g.name i) ∨
              isVisited events (g.get i).name = false ∧
                declaration? g declare i = .error failure))) := by
  unfold encounter at h
  cases hu : unfit? (g.get i) with
  | some f => simp_all
  | none =>
    simp only [hu] at h
    split at h
    · cases h
    · split at h
      · cases h
        simp_all
      · split at h
        · split at h
          · cases h
          · split at h <;> cases h
            simp_all
        · split at h <;> cases h
          simp_all

/-! ### Visits -/

/-- What visiting some elements one after another below a path gives: the events before, the path,
the elements, and the outcome. -/
inductive Visits (g : Graph) (strategy : ConflictStrategy) (declare : Declare) :
    List Event → List ElementId → List ElementId → Outcome → Prop
  /-- No element is left. -/
  | nil {events : List Event} {path : List ElementId} :
      Visits g strategy declare events path [] ⟨events, none⟩
  /-- The walk ends at the first element. -/
  | stop {events : List Event} {path : List ElementId} {i : ElementId} {rest : List ElementId}
      {failure : GenerationFailure}
      (h : encounter g strategy declare events path i = .stop failure) :
      Visits g strategy declare events path (i :: rest) ⟨events, some failure⟩
  /-- The first element is passed over. -/
  | pass {events : List Event} {path : List ElementId} {i : ElementId} {rest : List ElementId}
      {news : List Event} {o : Outcome}
      (h : encounter g strategy declare events path i = .pass news)
      (after : Visits g strategy declare (events ++ news) path rest o) :
      Visits g strategy declare events path (i :: rest) o
  /-- The first element is entered, and the walk ends below it. -/
  | halt {events : List Event} {path : List ElementId} {i : ElementId} {rest : List ElementId}
      {d : Declaration} {mid : List Event} {failure : GenerationFailure}
      (h : encounter g strategy declare events path i = .enter d)
      (below : Visits g strategy declare (events ++ [.declared d]) (i :: path) (g.children i)
        ⟨mid, some failure⟩) :
      Visits g strategy declare events path (i :: rest) ⟨mid, some failure⟩
  /-- The first element is entered and left again. -/
  | enter {events : List Event} {path : List ElementId} {i : ElementId} {rest : List ElementId}
      {d : Declaration} {mid : List Event} {o : Outcome}
      (h : encounter g strategy declare events path i = .enter d)
      (below : Visits g strategy declare (events ++ [.declared d]) (i :: path) (g.children i)
        ⟨mid, none⟩)
      (after : Visits g strategy declare mid path rest o) :
      Visits g strategy declare events path (i :: rest) o

/-- The events before a visit are kept. -/
theorem Visits.events_mono (h : Visits g strategy declare events path is o) :
    events <+: o.events := by
  induction h with
  | nil | stop _ => exact List.prefix_rfl
  | pass _ _ ih => exact (List.prefix_append _ _).trans ih
  | halt _ _ ih => exact (List.prefix_append _ _).trans ih
  | enter _ _ _ ihBelow ihAfter => exact ((List.prefix_append _ _).trans ihBelow).trans ihAfter

theorem unvisited_anti {before after : List Event} (h : before <+: after) :
    unvisited g (visited after) ≤ unvisited g (visited before) := by
  obtain ⟨news, rfl⟩ := h
  refine List.countP_mono_left fun n _ hn => ?_
  simp only [visited_append, List.mem_append, not_or, decide_eq_true_eq] at hn ⊢
  exact hn.1

/-- The name of an element that is entered is new. -/
theorem not_mem_visited_of_enter (h : encounter g strategy declare events path i = .enter d) :
    d.name ∉ visited events := by
  obtain ⟨-, -, -, hnew, hd⟩ := encounter_enter h
  exact not_mem_visited hnew hd

theorem unvisited_enter_lt (h : encounter g strategy declare events path i = .enter d) :
    unvisited g (visited (events ++ [.declared d])) < unvisited g (visited events) := by
  rw [visited_append_declared]
  exact unvisited_append_lt (mem_names (name_of_declaration? (encounter_enter h).2.2.2.2))
    (not_mem_visited_of_enter h)

/-- **Every visit has an outcome.**  Entering an element leaves fewer names that are not declared,
and passing one over leaves fewer elements. -/
theorem exists_visits (events : List Event) (path is : List ElementId) :
    ∃ o, Visits g strategy declare events path is o := by
  -- the outer induction is on the names that are left, the inner one on a level of elements:
  -- passing an element over declares nothing, and may leave as many names as before
  induction hn : unvisited g (visited events) using Nat.strongRecOn generalizing events path is with
  | _ n ih =>
    induction is generalizing events with
    | nil => exact ⟨_, .nil⟩
    | cons i rest ihRest =>
      cases he : encounter g strategy declare events path i with
      | stop failure => exact ⟨_, .stop he⟩
      | pass news =>
        have hle := unvisited_anti (g := g) (List.prefix_append events news)
        rcases Nat.lt_or_eq_of_le hle with hlt | heq
        · obtain ⟨o, ho⟩ := ih _ (hn ▸ hlt) (events ++ news) path rest rfl
          exact ⟨o, .pass he ho⟩
        · obtain ⟨o, ho⟩ := ihRest (events ++ news) (heq.trans hn)
          exact ⟨o, .pass he ho⟩
      | enter d =>
        have hlt := unvisited_enter_lt he
        -- both the children and the rest of the level are visited with fewer names left
        obtain ⟨⟨mid, failure⟩, hbelow⟩ := ih _ (hn ▸ hlt) _ (i :: path) (g.children i) rfl
        cases failure with
        | some failure => exact ⟨_, .halt he hbelow⟩
        | none =>
          have hmid := unvisited_anti (g := g) hbelow.events_mono
          obtain ⟨o, ho⟩ := ih _ (hn ▸ Nat.lt_of_le_of_lt hmid hlt) mid path rest rfl
          exact ⟨o, .enter he hbelow ho⟩

open Collected (ofEvents) in
/-- A visit is what the walk does with the innermost level of its stack. -/
theorem runFrom_of_visits (h : Visits g strategy declare events path is o)
    (stack : List (List ElementId)) :
    runFrom g strategy declare (ofEvents events) events path (is :: stack) =
      match o.failure with
      | some _ => (ofEvents o.events, o)
      | none => runFrom g strategy declare (ofEvents o.events) o.events path.tail stack := by
  induction h generalizing stack with
  | nil => rw [runFrom]
  | stop h => rw [runFrom_cons, h]
  | pass h _ ih => rw [runFrom_cons, h]; exact ih stack
  | halt h _ ih => rw [runFrom_cons, h]; exact ih _
  | enter h _ _ ihBelow ihAfter =>
    rw [runFrom_cons, h]
    exact (ihBelow _).trans (ihAfter stack)

/-- A walk has the outcome of any visit of its roots, and has collected what that tells. -/
theorem course_eq_of_visits {roots : List ElementId} (h : Visits g strategy declare [] [] roots o) :
    course g strategy declare roots = (.ofEvents o.events, o) := by
  refine (runFrom_of_visits h []).trans ?_
  obtain ⟨events, failure⟩ := o
  cases failure with
  | some failure => rfl
  | none => rw [runFrom]

theorem run_eq_of_visits {roots : List ElementId} (h : Visits g strategy declare [] [] roots o) :
    run g strategy declare roots = o :=
  congrArg Prod.snd (course_eq_of_visits h)

/-- **A walk visits its roots**, one after another and below no other element. -/
theorem visits_run (g : Graph) (strategy : ConflictStrategy) (declare : Declare)
    (roots : List ElementId) :
    Visits g strategy declare [] [] roots (run g strategy declare roots) := by
  obtain ⟨o, ho⟩ : ∃ o, Visits g strategy declare [] [] roots o := exists_visits [] [] roots
  rwa [run_eq_of_visits ho]

/-- **What a walk has collected is told by what has happened.** -/
theorem course_eq (g : Graph) (strategy : ConflictStrategy) (declare : Declare)
    (roots : List ElementId) : course g strategy declare roots =
      (.ofEvents (run g strategy declare roots).events, run g strategy declare roots) :=
  course_eq_of_visits (visits_run g strategy declare roots)

/-! ### Walks of bounded length -/

/-- The outcome of a walk that takes fewer steps than `fuel`. -/
def outcome? (g : Graph) (strategy : ConflictStrategy) (declare : Declare) : (fuel : Nat) →
    List Event → List ElementId → List (List ElementId) → Option Outcome
  | 0, _, _, _ => none
  | _ + 1, events, _, [] => some ⟨events, none⟩
  | fuel + 1, events, path, [] :: stack => outcome? g strategy declare fuel events path.tail stack
  | fuel + 1, events, path, (i :: rest) :: stack =>
    match encounter g strategy declare events path i with
    | .pass news => outcome? g strategy declare fuel (events ++ news) path (rest :: stack)
    | .enter d =>
      outcome? g strategy declare fuel (events ++ [.declared d]) (i :: path)
        (g.children i :: rest :: stack)
    | .stop failure => some ⟨events, some failure⟩

theorem runFrom_eq_of_outcome? {fuel : Nat} {stack : List (List ElementId)}
    (h : outcome? g strategy declare fuel events path stack = some o) :
    runFrom g strategy declare (.ofEvents events) events path stack = (.ofEvents o.events, o) := by
  induction fuel generalizing events path stack with
  | zero => cases h
  | succ fuel ih =>
    match stack with
    | [] => rw [runFrom, ← Option.some.inj h]
    | [] :: stack => rw [runFrom]; exact ih h
    | (i :: rest) :: stack =>
      rw [runFrom_cons]
      rw [outcome?] at h
      cases he : encounter g strategy declare events path i with
      | pass news => rw [he] at h; exact ih h
      | enter d => rw [he] at h; exact ih h
      | stop failure => rw [he] at h; rw [← Option.some.inj h]

/-- What a bounded number of steps shows of the outcome of a walk holds of the walk. -/
theorem run_of_outcome? {p : Outcome → Bool} {roots : List ElementId} (fuel : Nat)
    (h : (outcome? g strategy declare fuel [] [] [roots]).any p = true) :
    p (run g strategy declare roots) = true := by
  cases ho : outcome? g strategy declare fuel [] [] [roots] with
  | none => rw [ho] at h; cases h
  | some o =>
    rw [ho] at h
    have hcourse : course g strategy declare roots = (.ofEvents o.events, o) :=
      runFrom_eq_of_outcome? ho
    rw [run, hcourse]
    exact h

end Walk

namespace Generator

variable {gen : Generator} {g : Graph} {roots : List ElementId}

/-- **A walk that comes to its end returns what its events tell.** -/
theorem collect_eq (gen : Generator) (g : Graph) (roots : List ElementId) :
    gen.collect g roots =
      (gen.walk g roots).failure.elim (.ok (.ofEvents (gen.walk g roots).events)) .error := by
  have hcourse : Walk.course g gen.strategy (gen.declare g) roots =
      (.ofEvents (gen.walk g roots).events, gen.walk g roots) := Walk.course_eq ..
  rw [collect, hcourse]
  dsimp only
  cases (gen.walk g roots).failure <;> rfl

theorem collect_eq_ok_iff {run : Walk.Collected} : gen.collect g roots = .ok run ↔
    (gen.walk g roots).failure = none ∧ .ofEvents (gen.walk g roots).events = run := by
  rw [collect_eq]
  cases (gen.walk g roots).failure <;> simp

theorem collect_eq_error_iff {failure : GenerationFailure} :
    gen.collect g roots = .error failure ↔ (gen.walk g roots).failure = some failure := by
  rw [collect_eq]
  cases (gen.walk g roots).failure <;> simp

theorem source_eq_assemble (ho : (gen.walk g roots).failure = none) :
    gen.source g roots = gen.assemble (declarationTexts (gen.walk g roots).events) := by
  rw [source, collect_eq_ok_iff.2 ⟨ho, rfl⟩]
  rfl

end Generator

end SchemaStructs
