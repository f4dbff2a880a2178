import Mathlib.Data.List.Chain
import SchemaStructs.Proofs.Computation
import SchemaStructs.Proofs.Schema.Forest
import SchemaStructs.Proofs.Walk.Account
import SchemaStructs.Schema.Document

/-!
# Cycles

What the walk finds out about elements that contain themselves.

* The elements on the path of a walk form a trail from a root, with pairwise distinct names
  (`Walk.Trail`).  So the names that a cycle is reported with are those of a chain that comes back
  to one of its elements (`Walk.Loop`).
* When a walk comes to its end, the elements that it declared do not contain each other in a
  circle: an element is left only after all that it contains was left (`Walk.Visits.finished`).
* Where no name stands for two elements, all reachable elements are declared by a walk that comes to
  its end, so that a cycle is reported exactly if there is one.
-/

namespace SchemaStructs

namespace Walk

open Relation

variable {g : Graph} {strategy : ConflictStrategy} {declare : Declare} {roots : List ElementId}
variable {events : List Event} {path is : List ElementId} {i : ElementId} {d : Declaration}
variable {names : List Text} {o : Outcome} {gen : Generator}

/-! ### Where a walk ends early -/

/-- What cannot be looked up is a misuse. -/
theorem eq_misuse_of_unfit? {e : Element} {failure : GenerationFailure}
    (h : unfit? e = some failure) : ∃ cause, failure = .misuse cause := by
  unfold unfit? at h
  split at h
  · exact ⟨_, (Option.some.inj h).symm⟩
  · split at h
    · exact ⟨_, (Option.some.inj h).symm⟩
    · cases h

theorem typeName?_eq_error {name : Json} {failure : GenerationFailure}
    (h : gen.typeName? name = .error failure) : ∃ cause, failure = .misuse cause := by
  obtain ⟨cause, -, rfl⟩ := mapError_eq_error_iff.1 h
  exact ⟨cause, rfl⟩

theorem declare_eq_error {failure : GenerationFailure} (h : gen.declare g i = .error failure) :
    (∃ cause, failure = .declaration (g.name i) StructTemplates.recordFile cause) ∨
      gen.typeName? (g.rawName i) = .error failure := by
  rcases bind_eq_error_iff.1 h with h | ⟨text, -, h⟩
  · obtain ⟨cause, -, rfl⟩ := mapError_eq_error_iff.1 h
    exact .inl ⟨cause, rfl⟩
  · rcases bind_eq_error_iff.1 h with h | ⟨typeName, -, h⟩
    · exact .inr h
    · cases h

/-- An element cannot be declared because the template fails, or because its name is none. -/
theorem declaration?_eq_error {failure : GenerationFailure}
    (h : declaration? g (gen.declare g) i = .error failure) :
    (∃ cause, failure = .declaration (g.name i) StructTemplates.recordFile cause) ∨
      gen.typeName? (g.rawName i) = .error failure ∨
      (g.rawName i).isText = false ∧ ∃ cause, failure = .misuse cause := by
  unfold declaration? at h
  cases hdeclare : gen.declare g i with
  | error failure' =>
    rw [hdeclare] at h
    cases h
    exact (declare_eq_error hdeclare).imp_right .inl
  | ok made =>
    rw [hdeclare] at h
    cases hname : (g.get i).name with
    | str n =>
      rw [hname] at h
      cases h
    | _ =>
      rw [hname] at h
      cases h
      exact .inr (.inr ⟨by rw [Graph.rawName, hname]; rfl, _, rfl⟩)

/-- A walk that ends early was stopped at a root or a child of a reachable element. -/
theorem Visits.exists_stop (h : Visits g strategy declare events path is o)
    (hv : Valid g declare roots events) (his : ∀ i ∈ is, g.Occurs roots i)
    {failure : GenerationFailure} (ho : o.failure = some failure) :
    ∃ events' path' i, Valid g declare roots events' ∧ g.Occurs roots i ∧
      encounter g strategy declare events' path' i = .stop failure := by
  have hbelow : ∀ {events : List Event} {path : List ElementId} {i : ElementId}
      {rest : List ElementId} {d : Declaration}, Valid g declare roots events →
      (∀ j ∈ i :: rest, g.Occurs roots j) →
      encounter g strategy declare events path i = .enter d →
      Valid g declare roots (events ++ [.declared d]) ∧ ∀ c ∈ g.children i, g.Occurs roots c := by
    intro events path i rest d hv his h
    have hreach := (his i List.mem_cons_self).reachable
    exact ⟨hv.enter hreach h, (hreach (encounter_enter h).2.1).occurs_child⟩
  induction h with
  | nil => cases ho
  | stop h =>
    cases ho
    exact ⟨_, _, _, hv, his _ List.mem_cons_self, h⟩
  | pass h _ ih => exact ih (hv.pass h) (fun j hj => his j (List.mem_cons_of_mem _ hj)) ho
  | halt h _ ih =>
    obtain ⟨hv', hchildren⟩ := hbelow hv his h
    exact ih hv' hchildren ho
  | enter h below _ _ ihAfter =>
    obtain ⟨hv', hchildren⟩ := hbelow hv his h
    exact ihAfter (below.valid hv' hchildren) (fun j hj => his j (List.mem_cons_of_mem _ hj)) ho

/-- The same of the walk of a schema. -/
theorem exists_stop_of_failure {failure : GenerationFailure}
    (ho : (gen.walk g roots).failure = some failure) :
    ∃ events path i, Valid g (gen.declare g) roots events ∧ g.Occurs roots i ∧
      encounter g gen.strategy (gen.declare g) events path i = .stop failure :=
  (visits_walk gen g roots).exists_stop valid_nil (fun _ hi => .inl hi) ho

/-! ### The path -/

/-- The path of a walk, from the innermost element to the root. -/
structure Trail (g : Graph) (roots : List ElementId) (events : List Event)
    (path : List ElementId) : Prop where
  /-- Each element is a child of the next one. -/
  linked : path.IsChain fun c p => c ∈ g.children p
  /-- None is primitive. -/
  inner : ∀ p ∈ path, g.isPrimitive p = false
  /-- The last one is a root. -/
  start : ∀ r ∈ path.getLast?, r ∈ roots
  /-- No two share a raw name. -/
  names_nodup : (path.map g.rawName).Nodup
  /-- All of them are declared. -/
  declared : ∀ p ∈ path, isVisited events (g.rawName p) = true

/-- What may be visited below a path. -/
def offspring (g : Graph) (roots : List ElementId) : List ElementId → List ElementId
  | [] => roots
  | p :: _ => g.children p

theorem trail_nil : Trail g roots events [] :=
  ⟨.nil, by simp, by simp, by simp, by simp⟩

theorem Trail.mono (ht : Trail g roots events path) {after : List Event} (h : events <+: after) :
    Trail g roots after path :=
  { ht with declared := fun p hp => isVisited_mono h (ht.declared p hp) }

theorem Trail.enter (ht : Trail g roots events path) (hi : i ∈ offspring g roots path)
    (h : encounter g strategy declare events path i = .enter d) :
    Trail g roots (events ++ [.declared d]) (i :: path) := by
  obtain ⟨-, hprim, -, hnew, -⟩ := encounter_enter h
  have hpre := List.prefix_append events [.declared d]
  refine ⟨?_, List.forall_mem_cons.2 ⟨hprim, ht.inner⟩, ?_, ?_, ?_⟩
  · cases path with
    | nil => exact .singleton i
    | cons p path => exact .cons_cons hi ht.linked
  · cases path with
    | nil => exact fun r hr => Option.some.inj hr ▸ hi
    | cons p path =>
      rw [List.getLast?_cons_cons]
      exact ht.start
  · rw [List.map_cons, List.nodup_cons]
    refine ⟨fun hm => ?_, ht.names_nodup⟩
    obtain ⟨p, hp, hname⟩ := List.mem_map.1 hm
    have := ht.declared p hp
    rw [hname, show isVisited events (g.rawName i) = false from hnew] at this
    cases this
  · exact List.forall_mem_cons.2 ⟨isVisited_of_enter h, (ht.mono hpre).declared⟩

/-- The elements `chain` and `last` that a cycle is reported for. -/
structure Loop (g : Graph) (roots chain : List ElementId) (last : ElementId) : Prop where
  /-- The chain starts at a root. -/
  start : ∃ r ∈ roots, chain.head? = some r
  /-- Each element is a child of the one before it. -/
  linked : (chain ++ [last]).IsChain fun p c => c ∈ g.children p
  /-- None is primitive. -/
  inner : ∀ i ∈ chain ++ [last], g.isPrimitive i = false
  /-- No two elements before the last share a raw name. -/
  names_nodup : (chain.map g.rawName).Nodup
  /-- The last element is one of those before it. -/
  closed : last ∈ chain

/-- The path and an element of it that is met again form a loop. -/
theorem Trail.loop (ht : Trail g roots events path) (hi : i ∈ offspring g roots path)
    (hprim : g.isPrimitive i = false) (hmem : i ∈ path) : Loop g roots path.reverse i := by
  have hlinked : (i :: path).IsChain fun c p => c ∈ g.children p := by
    cases path with
    | nil => exact .singleton i
    | cons p path => exact .cons_cons hi ht.linked
  refine ⟨?_, ?_, ?_, ?_, List.mem_reverse.2 hmem⟩
  · obtain ⟨r, hr⟩ := Option.ne_none_iff_exists'.1
      (mt List.getLast?_eq_none_iff.1 (List.ne_nil_of_mem hmem))
    exact ⟨r, ht.start r hr, by rw [List.head?_reverse, hr]⟩
  · rw [← List.reverse_cons, List.isChain_reverse]
    exact hlinked
  · simpa [or_imp, forall_and, hprim] using ht.inner
  · rw [List.map_reverse]
    exact List.nodup_reverse.2 ht.names_nodup

/-- A reported cycle is a loop, unless declaring an element reports cycles, too. -/
theorem Visits.loop (h : Visits g strategy declare events path is o)
    (ht : Trail g roots events path) (his : ∀ i ∈ is, i ∈ offspring g roots path)
    (hdeclare : ∀ i names, declaration? g declare i ≠ .error (.cyclic names))
    (ho : o.failure = some (.cyclic names)) :
    ∃ chain last, names = (chain ++ [last]).map g.name ∧ Loop g roots chain last := by
  induction h with
  | nil => cases ho
  | @stop events path i rest failure h =>
    obtain rfl : failure = .cyclic names := Option.some.inj ho
    rcases encounter_stop h with hu | ⟨hp, ⟨hmem, he⟩ | ⟨-, ⟨-, -, -, he⟩ | ⟨-, he⟩⟩⟩
    · obtain ⟨cause, he⟩ := eq_misuse_of_unfit? hu
      cases he
    · refine ⟨path.reverse, i, ?_, ht.loop (his i List.mem_cons_self) hp hmem⟩
      cases he
      simp [cyclePath]
    · cases he
    · exact absurd he (hdeclare _ _)
  | pass h _ ih =>
    exact ih (ht.mono (List.prefix_append _ _)) (fun j hj => his j (List.mem_cons_of_mem _ hj)) ho
  | halt h _ ih => exact ih (ht.enter (his _ List.mem_cons_self) h) (fun _ hc => hc) ho
  | enter h below _ _ ihAfter =>
    exact ihAfter (ht.mono ((List.prefix_append _ _).trans below.events_mono))
      (fun j hj => his j (List.mem_cons_of_mem _ hj)) ho

/-- The elements of a loop contain each other in a circle. -/
theorem Loop.transGen {chain : List ElementId} {last : ElementId}
    (h : Loop g roots chain last) : TransGen g.Contains last last := by
  obtain ⟨before, after, rfl⟩ := List.append_of_mem h.closed
  have hpart : last :: (after ++ [last]) <:+: before ++ last :: after ++ [last] :=
    ⟨before, [], by simp⟩
  have hlinked := List.IsChain.infix h.linked hpart
  have hcontains : (last :: (after ++ [last])).IsChain (TransGen g.Contains) :=
    hlinked.imp_of_mem_imp fun p c hp hc hpc =>
      .single ⟨hpc, h.inner p (hpart.subset hp), h.inner c (hpart.subset hc)⟩
  exact hcontains.rel_cons (by simp)

/-- The elements of a loop are reachable. -/
theorem Loop.reachable {chain : List ElementId} {last : ElementId}
    (h : Loop g roots chain last) : g.Reachable roots last := by
  obtain ⟨r, hr, hhead⟩ := h.start
  obtain ⟨tail, rfl⟩ := List.head?_eq_some_iff.1 hhead
  have hroot : g.Reachable roots r := .root hr (h.inner r (by simp))
  have hcontains : (r :: (tail ++ [last])).IsChain (TransGen g.Contains) :=
    h.linked.imp_of_mem_imp fun p c hp hc hpc => .single ⟨hpc, h.inner p hp, h.inner c hc⟩
  exact hroot.trans (hcontains.rel_cons (by simp)).to_reflTransGen

/-! ### Elements that were left -/

/-- The element `c` is a child of `p`, and both are declared. -/
def Declares (g : Graph) (events : List Event) (p c : ElementId) : Prop :=
  c ∈ g.children p ∧ p ∈ elements events ∧ c ∈ elements events

/-- What is declared in the end, and whose name was declared before, was itself declared before. -/
theorem Valid.mem_elements_of_isVisited {final : List Event}
    (hv : Valid g declare roots final) (hpre : events <+: final) (hi : i ∈ elements final)
    (hvis : isVisited events (g.rawName i) = true) : i ∈ elements events := by
  obtain ⟨n, hname, d, hd, rfl⟩ := isVisited_iff.1 hvis
  obtain ⟨d', hd', rfl⟩ := mem_elements_iff.1 hi
  have hsub : d ∈ declarations final := by
    obtain ⟨news, rfl⟩ := hpre
    rw [declarations_append]
    exact List.mem_append_left _ hd
  have hsame : d'.name = d.name := by
    have := (hv.rawName_element hd').symm.trans hname
    cases d'; cases d; simpa using this
  have heq : d' = d := List.inj_on_of_nodup_map hv.names_nodup hd' hsub hsame
  exact mem_elements_iff.2 ⟨d, hd, by rw [heq]⟩

/-- **When a visit comes to its end, what it declared outside the path can be descended only
finitely often**, among the elements that are declared in the end. -/
theorem Visits.finished (h : Visits g strategy declare events path is o) (ho : o.failure = none)
    {final : List Event} (hpre : o.events <+: final) (hv : Valid g declare roots final)
    (hprev : ∀ e ∈ elements events, e ∉ path → Acc (fun c p => Declares g final p c) e) :
    ∀ e ∈ elements o.events, e ∉ path → Acc (fun c p => Declares g final p c) e := by
  -- elements on the path are left out: they are not finished before the visit returns to them
  induction h with
  | nil => exact hprev
  | stop _ | halt _ _ => cases ho
  | pass h _ ih =>
    rw [elements_append_of_pass h] at ih
    exact ih ho hpre hprev
  | @enter events path i rest d mid o h below after ihBelow ihAfter =>
    have hmid : mid <+: final := after.events_mono.trans hpre
    obtain ⟨-, -, helem, -⟩ := declaration?_eq_ok (encounter_enter h).2.2.2.2
    have hbelow := ihBelow rfl hmid fun e he hne => by
      rw [elements_append_declared, List.mem_append, List.mem_singleton, helem] at he
      obtain ⟨hei, hep⟩ := not_or.1 (mt List.mem_cons.2 hne)
      exact hprev e (he.resolve_right hei) hep
    -- the children that are declared at all were left before the element itself is
    have hself : Acc (fun c p => Declares g final p c) i := by
      refine Acc.intro _ fun c hc => ?_
      obtain ⟨hchild, -, hc⟩ := hc
      obtain ⟨d', hd', hd'c⟩ := mem_elements_iff.1 hc
      have hprim : g.isPrimitive c = false := hd'c ▸ (hv.reachable d' hd').isPrimitive_eq
      obtain ⟨hnot, hvis⟩ := below.settled rfl c hchild hprim
      exact hbelow c (hv.mem_elements_of_isVisited hmid hc hvis) hnot
    refine ihAfter ho hpre fun e he hne => ?_
    by_cases hei : e = i
    · exact hei ▸ hself
    · exact hbelow e he fun hmem => (List.mem_cons.1 hmem).elim hei hne

theorem not_transGen_self_of_acc {α : Type} {r : α → α → Prop} {a : α}
    (h : Acc (fun c p => r p c) a) : ¬ TransGen r a a := by
  induction h with
  | intro a _ ih =>
    intro hcycle
    obtain ⟨b, hab, hba⟩ := TransGen.head'_iff.1 hcycle
    exact ih b hab (TransGen.tail' hba hab)

/-! ### Whole walks -/

theorem declaration?_ne_cyclic (gen : Generator) (g : Graph) (i : ElementId) (names : List Text) :
    declaration? g (gen.declare g) i ≠ .error (.cyclic names) := by
  intro h
  rcases declaration?_eq_error h with ⟨_, h⟩ | h | ⟨-, _, h⟩
  · cases h
  · obtain ⟨_, h⟩ := typeName?_eq_error h
    cases h
  · cases h

/-- A cycle that a walk reports is a loop. -/
theorem loop_of_failure (ho : (gen.walk g roots).failure = some (.cyclic names)) :
    ∃ chain last, names = (chain ++ [last]).map g.name ∧ Loop g roots chain last :=
  (visits_walk gen g roots).loop trail_nil (fun _ hi => hi) (declaration?_ne_cyclic gen g) ho

/-- The elements that a walk declared up to its end do not contain each other in a circle. -/
theorem not_transGen_declares (ho : (gen.walk g roots).failure = none) (e : ElementId) :
    ¬ TransGen (Declares g (gen.walk g roots).events) e e := by
  intro hcycle
  obtain ⟨b, ⟨-, he, -⟩, -⟩ := TransGen.head'_iff.1 hcycle
  have hacc := (visits_walk gen g roots).finished ho List.prefix_rfl (valid_walk gen g roots)
    (by simp [elements, declarations]) e he (List.not_mem_nil)
  exact not_transGen_self_of_acc hacc hcycle

/-- Where no name stands for two elements, all of them are declared in the end. -/
theorem mem_elements_of_reachable
    (hdistinct : ∀ i j, g.Reachable roots i → g.Reachable roots j →
      g.rawName i = g.rawName j → i = j)
    (ho : (gen.walk g roots).failure = none) (hi : g.Reachable roots i) :
    i ∈ elements (gen.walk g roots).events := by
  have hv := valid_walk gen g roots
  have hmem : ∀ c ∈ occurrences g roots (elements (gen.walk g roots).events),
      g.Reachable roots c → c ∈ elements (gen.walk g roots).events := fun c hc hr => by
    obtain ⟨d, hd, hname⟩ := hv.exists_declaration (isVisited_of_mem_occurrences ho hc)
    exact mem_elements_iff.2 ⟨d, hd, hdistinct d.element c (hv.reachable d hd) hr hname⟩
  obtain ⟨r, hr, hp, hri⟩ := hi
  induction hri with
  | refl => exact hmem r (mem_occurrences_iff.2 ⟨.inl hr, hp⟩) (.root hr hp)
  | @tail b c hrb hbc ih =>
    have hreach : g.Reachable roots c := ⟨r, hr, hp, hrb.tail hbc⟩
    exact hmem c (mem_occurrences_iff.2 ⟨.inr ⟨b, ih, hbc.1⟩, hbc.2.2⟩) hreach

/-- Where all elements can be looked up and declared, only a cycle ends a walk, or a conflict under
the strict strategy. -/
theorem cyclic_or_conflict_of_failure (hfit : ∀ i, g.Occurs roots i → (g.get i).isFit = true)
    (hdeclare : ∀ i, g.Reachable roots i → ∃ d, declaration? g (gen.declare g) i = .ok d)
    {failure : GenerationFailure} (ho : (gen.walk g roots).failure = some failure) :
    (∃ names, failure = .cyclic names) ∨
      gen.strategy = .error ∧ ∃ events i, Valid g (gen.declare g) roots events ∧
        g.Reachable roots i ∧ isVisited events (g.rawName i) = true ∧ fits g events i = false := by
  obtain ⟨events, path, i, hv, hocc, hstop⟩ := exists_stop_of_failure ho
  rcases encounter_stop hstop with hu | ⟨hp, h⟩
  · unfold unfit? at hu
    rw [hfit i hocc] at hu
    by_cases hp : (g.get i).isPrimitive
    · simp [hp] at hu
    · obtain ⟨d, hd⟩ := hdeclare i (hocc.reachable (by simpa [Graph.isPrimitive] using hp))
      simp [name_of_declaration? hd, Json.isContainer] at hu
  · have hreach := hocc.reachable hp
    rcases h with ⟨-, rfl⟩ | ⟨-, ⟨hs, hvis, hmisfit, -⟩ | ⟨-, herr⟩⟩
    · exact .inl ⟨_, rfl⟩
    · exact .inr ⟨hs, events, i, hv, hreach, hvis, hmisfit⟩
    · obtain ⟨d, hd⟩ := hdeclare i hreach
      rw [hd] at herr
      cases herr

/-- Where no name stands for two elements and all can be declared, only a cycle ends a walk. -/
theorem exists_cyclic_of_failure
    (hdistinct : ∀ i j, g.Reachable roots i → g.Reachable roots j →
      g.rawName i = g.rawName j → i = j)
    (hfit : ∀ i, g.Occurs roots i → (g.get i).isFit = true)
    (hdeclare : ∀ i, g.Reachable roots i → ∃ d, declaration? g (gen.declare g) i = .ok d)
    {failure : GenerationFailure} (ho : (gen.walk g roots).failure = some failure) :
    ∃ names, failure = .cyclic names := by
  rcases cyclic_or_conflict_of_failure hfit hdeclare ho with
    hcyclic | ⟨-, events, i, hv, hreach, hvis, hmisfit⟩
  · exact hcyclic
  · -- the name is declared, by uniqueness for the element itself, which fits
    obtain ⟨d, hd, hname⟩ := hv.exists_declaration hvis
    rw [← hdistinct d.element i (hv.reachable d hd) hreach hname, hv.fits_element hd] at hmisfit
    cases hmisfit

/-- **Cycles are found exactly.**  A cycle is reported with the names of a loop; a walk that comes
to its end has declared no cycle; where no name stands for two elements and all can be declared, a
cycle is reported exactly if there is one; and the trees of a document never have one. -/
theorem cycles (gen : Generator) (g : Graph) (roots : List ElementId) :
    (∀ names, (gen.walk g roots).failure = some (.cyclic names) →
      ∃ chain last, names = (chain ++ [last]).map g.name ∧ Loop g roots chain last) ∧
    ((gen.walk g roots).failure = none →
      ∀ e, ¬ TransGen (Declares g (gen.walk g roots).events) e e) ∧
    ((∀ i j, g.Reachable roots i → g.Reachable roots j → g.rawName i = g.rawName j → i = j) →
      (∀ i, g.Occurs roots i → (g.get i).isFit = true) →
      (∀ i, g.Reachable roots i → ∃ d, declaration? g (gen.declare g) i = .ok d) →
      ((∃ names, (gen.walk g roots).failure = some (.cyclic names)) ↔
        ∃ i, g.Reachable roots i ∧ TransGen g.Contains i i)) ∧
    (∀ document trees, Tree.ofDocument? document = .ok trees → ∀ names,
      (gen.walk (Graph.ofTrees trees).1 (Graph.ofTrees trees).2).failure
        ≠ some (.cyclic names)) := by
  refine ⟨fun _ => loop_of_failure, not_transGen_declares,
    fun hdistinct hfit hdeclare => ⟨?_, ?_⟩, ?_⟩
  · rintro ⟨names, ho⟩
    obtain ⟨chain, last, -, hloop⟩ := loop_of_failure ho
    exact ⟨last, hloop.reachable, hloop.transGen⟩
  · rintro ⟨i, hreach, hcycle⟩
    cases ho : (gen.walk g roots).failure with
    | none =>
      -- a cycle of the schema would be one of declared elements
      have hdeclared : ∀ {a b}, g.Reachable roots a → TransGen g.Contains a b →
          TransGen (Declares g (gen.walk g roots).events) a b := by
        intro a b ha hab
        have hmem := fun {c} (hc : g.Reachable roots c) =>
          mem_elements_of_reachable hdistinct ho hc
        induction hab with
        | single h => exact .single ⟨h.1, hmem ha, hmem (ha.contained h)⟩
        | tail hac h ih =>
          have hc := ha.trans hac.to_reflTransGen
          exact ih.tail ⟨h.1, hmem hc, hmem (hc.contained h)⟩
      exact absurd (hdeclared hreach hcycle) (not_transGen_declares ho i)
    | some failure =>
      obtain ⟨names, rfl⟩ := exists_cyclic_of_failure hdistinct hfit hdeclare ho
      exact ⟨names, rfl⟩
  · intro document trees _ names ho
    obtain ⟨chain, last, -, hloop⟩ := loop_of_failure ho
    exact Graph.acyclic_ofTrees trees last hloop.reachable hloop.transGen

/-- A parent and a child that contain each other. -/
def circle : Graph :=
  ⟨#[{ name := .str "parent", type := .str "Parent", children := [1] },
    { name := .str "child", type := .str "Child", children := [0] }]⟩

/-- A tree of one element. -/
def leaf : Tree := .node (.str "leaf") (.str "Leaf") [] [] (.bool false) (.bool false)

/-- The names of a reported cycle. -/
def cycle? : GenerationFailure → Option (List Text)
  | .cyclic names => some names
  | _ => none

theorem occurs_circle (h : circle.Occurs [0] i) : i = 0 ∨ i = 1 := by
  have hroots : ∀ r ∈ [0], r = 0 ∨ r = 1 := fun r hr => .inl (List.mem_singleton.1 hr)
  refine h.of_closed (P := fun i => i = 0 ∨ i = 1) hroots ?_
  rintro i (rfl | rfl) c hc
  · exact .inr (List.mem_singleton.1 hc)
  · exact .inl (List.mem_singleton.1 hc)

theorem declares_circle (h : circle.Reachable [0] i) :
    ∃ d, declaration? circle ((plainGenerator .error).declare circle) i = .ok d := by
  have htextual : ∀ i ∈ [0, 1], (circle.get i).Textual ∧
      ∀ c ∈ circle.children i, (circle.get c).Textual := by
    decide
  obtain ⟨hi, hchildren⟩ := htextual i (by simpa using occurs_circle h.occurs)
  exact ⟨_, (standard_plainGenerator .error).declaration?_eq hi hchildren⟩

theorem failure_circle : ((plainGenerator .error).walk circle [0]).failure =
    some (.cyclic ["parent".toList, "child".toList, "parent".toList]) := by
  have h : (((plainGenerator .error).walk circle [0]).failure.bind cycle?
      == some ["parent".toList, "child".toList, "parent".toList]) = true :=
    walk_of_outcome? (p := fun o => o.failure.bind cycle?
      == some ["parent".toList, "child".toList, "parent".toList]) (standard_plainGenerator _) 20
      (by decide +kernel)
  obtain ⟨failure, hfailure, hcycle⟩ := Option.bind_eq_some_iff.1 (beq_iff_eq.1 h)
  cases failure <;> cases hcycle
  exact hfailure

theorem cycles_circle :
    (∃ chain last, ["parent".toList, "child".toList, "parent".toList] =
      (chain ++ [last]).map circle.name ∧ Loop circle [0] chain last) ∧
    (∀ e, ¬ TransGen (Declares orders ((plainGenerator .first).walk orders [0, 2]).events) e e) ∧
    ((∃ names, ((plainGenerator .error).walk circle [0]).failure = some (.cyclic names)) ↔
      ∃ i, circle.Reachable [0] i ∧ TransGen circle.Contains i i) ∧
    ∀ names, ((plainGenerator .error).walk (Graph.ofTrees [leaf]).1
      (Graph.ofTrees [leaf]).2).failure ≠ some (.cyclic names) := by
  have hcircle := cycles (plainGenerator .error) circle [0]
  refine ⟨hcircle.1 _ failure_circle,
    (cycles (plainGenerator .first) orders [0, 2]).2.1 failure_orders,
    hcircle.2.2.1 ?_ ?_ fun _ => declares_circle,
    hcircle.2.2.2 (.obj [Json.entry "name" (.str "leaf"), Json.entry "type" (.str "Leaf")])
      [leaf] rfl⟩
  · intro i j hi hj
    rcases occurs_circle hi.occurs with rfl | rfl <;> rcases occurs_circle hj.occurs with rfl | rfl
    · exact fun _ => rfl
    · intro h; cases h
    · intro h; cases h
    · exact fun _ => rfl
  · intro i hi
    rcases occurs_circle hi with rfl | rfl <;> decide

end Walk

end SchemaStructs
