import SchemaStructs.Proofs.Walk.Cycle

/-!
# Strict and lenient walks

A walk looks at the strategy for conflicts in one place only: where it comes to an element whose
name is declared with another shape.  There a strict walk ends, and a lenient one goes on with a
warning.  So the two agree up to the first conflict.

* `Walk.encounter_strategies`: at one element they do the same, or they are at a conflict;
* `Walk.Visits.lenient`: by induction, a lenient visit has the outcome of the strict one, or it goes
  beyond the conflict at which that one ended;
* `Walk.strategies`: what this says of the two walks of a schema.

What a lenient walk meets beyond the conflict may be a cycle, of which the strict one has not heard
(`Walk.strategies_detour`).
-/

namespace SchemaStructs

namespace Generator

/-- The generator with another strategy for conflicts. -/
def withStrategy (gen : Generator) (strategy : ConflictStrategy) : Generator :=
  { gen with strategy, settings := { gen.settings with onConflict := .str strategy.name } }

/-- The generator that ends a run at the first conflict. -/
def strict (gen : Generator) : Generator := gen.withStrategy .error

/-- The generator that keeps the first definition of every name. -/
def lenient (gen : Generator) : Generator := gen.withStrategy .first

/-- Settings that differ in the strategy alone give generators that differ in the strategy alone. -/
theorem ofSettings?_withStrategy {s : Settings} {gen : Generator} (h : ofSettings? s = some gen)
    (strategy : ConflictStrategy) :
    ofSettings? { s with onConflict := .str strategy.name } = some (gen.withStrategy strategy) := by
  obtain ⟨_, -, rfl⟩ := Option.map_eq_some_iff.1 h
  cases strategy <;> rfl

/-- The strategy matters to the walk itself, not to the declarations that it renders. -/
theorem walk_withStrategy (gen : Generator) (strategy : ConflictStrategy) (g : Graph)
    (roots : List ElementId) :
    (gen.withStrategy strategy).walk g roots = Walk.run g strategy (gen.declare g) roots := rfl

end Generator

namespace Walk

variable {g : Graph} {gen : Generator} {declare : Declare} {roots : List ElementId}
variable {events news : List Event} {path is : List ElementId} {i : ElementId} {n : Text}
variable {o : Outcome}

/-! ### One element -/

/-- **At one element the strategies do the same**, unless the element is in conflict with the
declaration of its name. -/
theorem encounter_strategies (g : Graph) (declare : Declare) (events : List Event)
    (path : List ElementId) (i : ElementId) :
    encounter g .first declare events path i = encounter g .error declare events path i ∨
      encounter g .error declare events path i = .stop (.conflict (g.name i)) ∧
        encounter g .first declare events path i = .pass [.redefined (g.name i)] := by
  unfold encounter
  cases unfit? (g.get i) with
  | some failure => exact .inl rfl
  | none =>
    by_cases hprim : g.isPrimitive i
    · simp [hprim]
    · by_cases hcycle : i ∈ path
      · simp [hprim, hcycle]
      · by_cases hvisited : isVisited events (g.get i).name
        · cases fits g events i <;> simp [hprim, hcycle, hvisited]
        · simp [hprim, hcycle, hvisited]

/-- Where the strict walk goes on, the lenient one does the same. -/
theorem encounter_first_of_error {e : Encounter}
    (h : encounter g .error declare events path i = e) (he : ∀ f, e ≠ .stop f) :
    encounter g .first declare events path i = e := by
  rcases encounter_strategies g declare events path i with hsame | ⟨hstop, -⟩
  · exact hsame.trans h
  · exact absurd (h.symm.trans hstop) (he _)

/-! ### Visits -/

/-- What a lenient visit makes of the elements on which a strict one ended at a conflict. -/
def GoesBeyond (g : Graph) (declare : Declare) (events : List Event) (path is : List ElementId)
    (o : Outcome) : Prop :=
  ∃ n o', o.failure = some (.conflict n) ∧ Visits g .first declare events path is o' ∧
    o.events ++ [.redefined n] <+: o'.events

/-- **A lenient visit has the outcome of the strict one, or goes beyond its conflict.** -/
theorem Visits.lenient (h : Visits g .error declare events path is o) :
    Visits g .first declare events path is o ∨ GoesBeyond g declare events path is o := by
  induction h with
  | nil => exact .inl .nil
  | @stop events path i rest failure h =>
    rcases encounter_strategies g declare events path i with hsame | ⟨hstop, hpass⟩
    · exact .inl (.stop (hsame.trans h))
    · -- the place where the two part: the lenient walk visits the rest after a warning
      obtain ⟨o', hrest⟩ : ∃ o', Visits g .first declare (events ++ [.redefined (g.name i)]) path
          rest o' := exists_visits ..
      cases h.symm.trans hstop
      exact .inr ⟨g.name i, o', rfl, .pass hpass hrest, hrest.events_mono⟩
  | pass h _ ih =>
    have hpass := encounter_first_of_error h (by simp)
    rcases ih with hafter | ⟨n, o', hn, hafter, hpre⟩
    · exact .inl (.pass hpass hafter)
    · exact .inr ⟨n, o', hn, .pass hpass hafter, hpre⟩
  | @halt events path i rest d mid failure h _ ih =>
    have henter := encounter_first_of_error h (by simp)
    rcases ih with hbelow | ⟨n, ⟨mid', failure'⟩, hn, hbelow, hpre⟩
    · exact .inl (.halt henter hbelow)
    · cases failure' with
      | some failure' => exact .inr ⟨n, _, hn, .halt henter hbelow, hpre⟩
      | none =>
        -- the lenient walk comes out of the element and visits its siblings, too
        obtain ⟨o', hrest⟩ : ∃ o', Visits g .first declare mid' path rest o' := exists_visits ..
        exact .inr ⟨n, o', hn, .enter henter hbelow hrest, hpre.trans hrest.events_mono⟩
  | enter h _ _ ihBelow ihAfter =>
    have henter := encounter_first_of_error h (by simp)
    obtain hbelow | ⟨_, _, hn, -⟩ := ihBelow
    · rcases ihAfter with hafter | ⟨n, o', hn, hafter, hpre⟩
      · exact .inl (.enter henter hbelow hafter)
      · exact .inr ⟨n, o', hn, .enter henter hbelow hafter, hpre⟩
    · cases hn

/-! ### Walks -/

/-- The lenient walk is the strict one, or it has the same events up to the conflict at which the
strict one ended, and then a redefinition. -/
theorem walk_lenient (gen : Generator) (g : Graph) (roots : List ElementId) :
    gen.lenient.walk g roots = gen.strict.walk g roots ∨
      ∃ n, (gen.strict.walk g roots).failure = some (.conflict n) ∧
        (gen.strict.walk g roots).events ++ [.redefined n] <+:
          (gen.lenient.walk g roots).events := by
  rw [Generator.strict, Generator.lenient, Generator.walk_withStrategy,
    Generator.walk_withStrategy]
  rcases (visits_run g .error (gen.declare g) roots).lenient with
    hvisits | ⟨n, o', hn, hvisits, hpre⟩
  · exact .inl (run_eq_of_visits hvisits)
  · obtain rfl := run_eq_of_visits hvisits
    exact .inr ⟨n, hn, hpre⟩

theorem redefinitions_strict (gen : Generator) (g : Graph) (roots : List ElementId) :
    redefinitions (gen.strict.walk g roots).events = [] :=
  redefinitions_of_strict rfl

/-- A lenient walk does not end at a conflict. -/
theorem failure_lenient_ne_conflict (gen : Generator) (g : Graph) (roots : List ElementId)
    (n : Text) : (gen.lenient.walk g roots).failure ≠ some (.conflict n) := by
  intro ho
  obtain ⟨events, path, i, -, -, hstop⟩ := exists_stop_of_failure ho
  rcases encounter_stop hstop with hu | ⟨-, ⟨-, he⟩ | ⟨-, ⟨hs, -⟩ | ⟨-, he⟩⟩⟩
  · obtain ⟨_, he⟩ := eq_misuse_of_unfit? hu
    cases he
  · cases he
  · cases hs
  · rcases declaration?_eq_error he with ⟨_, he⟩ | he | ⟨-, _, he⟩
    · cases he
    · obtain ⟨_, he⟩ := typeName?_eq_error he
      cases he
    · cases he

/-- What follows a redefinition comes after its warning. -/
theorem head?_warnings_of_redefined {after : List Event} (hnone : redefinitions events = [])
    (hpre : events ++ [.redefined n] <+: after) :
    (warnings after).head? = some (.redefined n) := by
  obtain ⟨news, rfl⟩ := hpre
  simp only [redefinitions] at hnone
  simp [warnings, redefinitions, hnone, Event.redefined?]

/-- A walk with a redefinition has a warning. -/
theorem warnings_ne_nil_of_redefined {after : List Event}
    (hpre : events ++ [.redefined n] <+: after) : warnings after ≠ [] := by
  obtain ⟨news, rfl⟩ := hpre
  simp [warnings, redefinitions, Event.redefined?]

/-- **The strategies agree up to the first conflict.**  The strict walk comes to its end exactly if
the lenient one does so without warnings, and then with the same events.  A cycle that the strict
walk reports is reported by the lenient one after the same events.  Where the strict walk ends at a
conflict, the lenient one has the same events before it and a warning for that name first; if all
elements can be declared, it goes on to its end or to a cycle. -/
theorem strategies (gen : Generator) (g : Graph) (roots : List ElementId) :
    (∀ events, gen.strict.walk g roots = ⟨events, none⟩ ↔
      gen.lenient.walk g roots = ⟨events, none⟩ ∧ warnings events = []) ∧
    (∀ events names, gen.strict.walk g roots = ⟨events, some (.cyclic names)⟩ →
      gen.lenient.walk g roots = ⟨events, some (.cyclic names)⟩) ∧
    ∀ n, (gen.strict.walk g roots).failure = some (.conflict n) →
      (gen.strict.walk g roots).events ++ [.redefined n] <+: (gen.lenient.walk g roots).events ∧
      (warnings (gen.lenient.walk g roots).events).head? = some (.redefined n) ∧
      ((∀ i, g.Occurs roots i → (g.get i).isFit = true) →
        (∀ i, g.Reachable roots i → ∃ d, declaration? g (gen.declare g) i = .ok d) →
        (gen.lenient.walk g roots).failure = none ∨
          ∃ names, (gen.lenient.walk g roots).failure = some (.cyclic names)) := by
  have hnone := redefinitions_strict gen g roots
  refine ⟨fun events => ⟨fun hstrict => ?_, fun ⟨hlenient, hwarnings⟩ => ?_⟩,
    fun events names hstrict => ?_, fun n hn => ?_⟩
  · rw [hstrict] at hnone
    rcases walk_lenient gen g roots with hsame | ⟨n, hn, -⟩
    · exact ⟨hsame.trans hstrict, by rw [warnings, hnone, List.map_nil]⟩
    · rw [hstrict] at hn
      cases hn
  · rcases walk_lenient gen g roots with hsame | ⟨n, -, hpre⟩
    · exact hsame.symm.trans hlenient
    · rw [hlenient] at hpre
      exact absurd hwarnings (warnings_ne_nil_of_redefined hpre)
  · rcases walk_lenient gen g roots with hsame | ⟨n, hn, -⟩
    · exact hsame.trans hstrict
    · rw [hstrict] at hn
      cases hn
  · have hpre : (gen.strict.walk g roots).events ++ [.redefined n] <+:
        (gen.lenient.walk g roots).events := by
      rcases walk_lenient gen g roots with hsame | ⟨n', hn', hpre⟩
      · exact absurd (hsame ▸ hn) (failure_lenient_ne_conflict gen g roots n)
      · rw [hn] at hn'
        cases hn'
        exact hpre
    refine ⟨hpre, head?_warnings_of_redefined hnone hpre, fun hfit hdeclare => ?_⟩
    have hdeclare : ∀ i, g.Reachable roots i →
        ∃ d, declaration? g (gen.lenient.declare g) i = .ok d := hdeclare
    cases ho : (gen.lenient.walk g roots).failure with
    | none => exact .inl rfl
    | some failure =>
      rcases cyclic_or_conflict_of_failure hfit hdeclare ho with ⟨names, rfl⟩ | ⟨hs, -⟩
      · exact .inr ⟨names, rfl⟩
      · cases hs

/-! ### A cycle beyond a conflict -/

/-- Two definitions of an item, and a list that contains itself. -/
def detour : Graph :=
  ⟨#[withAttribute "item" "number", withAttribute "item" "name",
    { name := .str "list", type := .str "List", children := [2] }]⟩

/-- The name of a conflict. -/
def conflict? : GenerationFailure → Option Text
  | .conflict name => some name
  | _ => none

theorem occurs_detour (h : detour.Occurs [0, 1, 2] i) : i < 3 := by
  have hchildren : ∀ i < 3, ∀ c ∈ detour.children i, c < 3 := by decide
  exact h.of_closed (P := (· < 3)) (by decide) hchildren

theorem textual_detour : ∀ i < 3, (detour.get i).Textual ∧
    ∀ c ∈ detour.children i, (detour.get c).Textual := by
  decide

theorem failure_detour :
    ((plainGenerator .first).strict.walk detour [0, 1, 2]).failure = some (.conflict "item") ∧
      ((plainGenerator .first).lenient.walk detour [0, 1, 2]).failure.isSome = true := by
  have hstrict : (plainGenerator .first).strict.Standard := ⟨rfl, rfl⟩
  have hlenient : (plainGenerator .first).lenient.Standard := ⟨rfl, rfl⟩
  have h : (((plainGenerator .first).strict.walk detour [0, 1, 2]).failure.bind conflict?
      == some "item".toList) = true :=
    walk_of_outcome? (p := fun o => o.failure.bind conflict? == some "item".toList) hstrict 20
      (by decide +kernel)
  obtain ⟨failure, hfailure, hconflict⟩ := Option.bind_eq_some_iff.1 (beq_iff_eq.1 h)
  refine ⟨?_, walk_of_outcome? (p := (·.failure.isSome)) hlenient 20 (by decide +kernel)⟩
  cases failure <;> cases hconflict
  exact hfailure

theorem strategies_detour :
    ((plainGenerator .first).strict.walk detour [0, 1, 2]).failure = some (.conflict "item") ∧
    (warnings ((plainGenerator .first).lenient.walk detour [0, 1, 2]).events).head? =
      some (.redefined "item") ∧
    ∃ names, ((plainGenerator .first).lenient.walk detour [0, 1, 2]).failure =
      some (.cyclic names) := by
  obtain ⟨hconflict, hsome⟩ := failure_detour
  obtain ⟨-, hwarning, hend⟩ :=
    (strategies (plainGenerator .first) detour [0, 1, 2]).2.2 "item" hconflict
  refine ⟨hconflict, hwarning, (hend (fun i hi => ?_) fun i hi => ?_).resolve_left ?_⟩
  · exact (textual_detour i (occurs_detour hi)).1.named.isFit
  · obtain ⟨htext, hchildren⟩ := textual_detour i (occurs_detour hi.occurs)
    exact ⟨_, (standard_plainGenerator .first).declaration?_eq htext hchildren⟩
  · exact fun hnone => Option.isSome_iff_ne_none.1 hsome hnone

end Walk

end SchemaStructs
