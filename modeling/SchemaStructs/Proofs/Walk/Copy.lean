import SchemaStructs.Proofs.Generator.Clean
import SchemaStructs.Proofs.Schema.Copy

/-!
# Walks of copies

A walk of a schema and a walk of copies of its elements go the same way.  The elements have other
numbers, and an element that is shared has several copies, but the walk goes by names and shapes
alone: the numbers matter on the path only, where an element is not met again because nothing below
it contains it (`Walk.Descent`).

* `Walk.encounter_copy`: a walk does the same with a copy, up to the number of the element;
* `Walk.Paired`: two walks are at the same place, and still are after what each step does to both;
* `Walk.Visits.copy`: by induction, visiting copies has the same outcome;
* `Walk.serialization`: so a schema that is written and read again is walked as before.
-/

namespace SchemaStructs

/-- The declaration without the number of its element. -/
def Declaration.anonymous (d : Declaration) : Declaration := { d with element := 0 }

namespace Walk

open Relation

/-! ### Numbers left out -/

/-- The event without the number of the element. -/
def Event.anonymous : Event → Event
  | .declared d => .declared d.anonymous
  | e => e

/-- The encounter without the number of the element. -/
def Encounter.anonymous : Encounter → Encounter
  | .enter d => .enter d.anonymous
  | e => e

/-- The outcome without the numbers of the elements. -/
def Outcome.anonymous (o : Outcome) : Outcome := { o with events := o.events.map Event.anonymous }

variable {g h : Graph} {gen : Generator} {roots roots' : List ElementId} {i j c : ElementId}
variable {events events' : List Event} {path path' is js : List ElementId} {o : Outcome}

theorem declarations_map_anonymous (events : List Event) :
    declarations (events.map Event.anonymous) =
      (declarations events).map Declaration.anonymous := by
  rw [declarations, declarations, List.filterMap_map, List.map_filterMap]
  refine List.filterMap_congr fun e _ => ?_
  cases e <;> rfl

/-- What is read off the declarations without their elements is the same. -/
theorem map_declarations_congr {α : Type} {f : Declaration → α}
    (hf : ∀ d, f d.anonymous = f d)
    (he : events.map Event.anonymous = events'.map Event.anonymous) :
    (declarations events).map f = (declarations events').map f := by
  have hdeclarations := congrArg declarations he
  rw [declarations_map_anonymous, declarations_map_anonymous] at hdeclarations
  have h := congrArg (List.map f) hdeclarations
  simpa only [List.map_map, Function.comp_def, hf] using h

theorem visited_congr (he : events.map Event.anonymous = events'.map Event.anonymous) :
    visited events = visited events' :=
  map_declarations_congr (fun _ => rfl) he

theorem shapes_congr (he : events.map Event.anonymous = events'.map Event.anonymous) :
    (Collected.ofEvents events).shapes = (Collected.ofEvents events').shapes :=
  map_declarations_congr (fun _ => rfl) he

theorem shapeOf?_congr (he : events.map Event.anonymous = events'.map Event.anonymous) (n : Text) :
    shapeOf? events n = shapeOf? events' n := by
  rw [← Collected.lookup_ofEvents, shapes_congr he, Collected.lookup_ofEvents]

theorem redefinitions_congr (he : events.map Event.anonymous = events'.map Event.anonymous) :
    redefinitions events = redefinitions events' := by
  have hanonymous : ∀ events : List Event,
      redefinitions (events.map Event.anonymous) = redefinitions events := by
    intro events
    rw [redefinitions, redefinitions, List.filterMap_map]
    refine List.filterMap_congr fun e _ => ?_
    cases e <;> rfl
  rw [← hanonymous events, he, hanonymous]

/-! ### One element -/

theorem eq_stop_of_anonymous {failure : GenerationFailure} {e : Encounter}
    (h : (Encounter.stop failure).anonymous = e.anonymous) : e = .stop failure := by
  cases e <;> cases h
  rfl

theorem eq_pass_of_anonymous {news : List Event} {e : Encounter}
    (h : (Encounter.pass news).anonymous = e.anonymous) : e = .pass news := by
  cases e <;> cases h
  rfl

theorem exists_enter_of_anonymous {d : Declaration} {e : Encounter}
    (h : (Encounter.enter d).anonymous = e.anonymous) :
    ∃ d', e = .enter d' ∧ d.anonymous = d'.anonymous := by
  cases e with
  | enter d' => exact ⟨d', rfl, by injection h⟩
  | _ => cases h

/-- **A walk does the same with a copy**, if neither element is on the path. -/
theorem encounter_copy (hgen : gen.Standard) (hc : g.Copies h i j) (hi : (g.get i).Textual)
    (hchildren : ∀ c ∈ g.children i, (g.get c).Textual)
    (he : events.map Event.anonymous = events'.map Event.anonymous)
    (hpath : path.isEmpty = path'.isEmpty) (hmem : i ∉ path) (hmem' : j ∉ path') :
    (encounter g gen.strategy (gen.declare g) events path i).anonymous =
      (encounter h gen.strategy (gen.declare h) events' path' j).anonymous := by
  have hchildren' : ∀ c ∈ h.children j, (h.get c).Textual := by
    intro c hc'
    obtain ⟨b, hb, hcopy⟩ := exists_of_forall₂ hc.children.flip hc'
    exact Graph.Copies.textual hcopy (hchildren b hb)
  -- what the walk looks at first does not depend on the children of the element
  have hbare := hc.bare_eq
  have hname : (g.get i).name = (h.get j).name := by
    change (g.get i).bare.name = (h.get j).bare.name
    rw [hbare]
  have hunfit : unfit? (g.get i) = unfit? (h.get j) := by
    change unfit? (g.get i).bare = unfit? (h.get j).bare
    rw [hbare]
  have hprim : g.isPrimitive i = h.isPrimitive j := by
    change (g.get i).bare.isPrimitive = (h.get j).bare.isPrimitive
    rw [hbare]
  have htext : g.name i = h.name j := congrArg Json.display hname
  have hvisited : isVisited events (g.get i).name = isVisited events' (h.get j).name := by
    rw [isVisited, isVisited, visited_congr he, hname]
  have hfits : fits g events i = fits h events' j := by
    rw [fits, fits, shapeOf?_congr he, htext, hc.shape_eq]
  have hd := hgen.declaration?_eq hi hchildren
  have hd' := hgen.declaration?_eq (hc.textual hi) hchildren'
  rw [encounter.eq_def, encounter.eq_def, hunfit]
  cases unfit? (h.get j) with
  | some failure => rfl
  | none =>
    simp only [hprim, htext, hpath, hmem, hmem', hvisited, hfits, hd, hd', hc.shape_eq, if_false]
    cases h.isPrimitive j <;> cases isVisited events' (h.get j).name <;> rfl

theorem map_anonymous_append {e e' : List Event}
    (he : events.map Event.anonymous = events'.map Event.anonymous)
    (hnews : e.map Event.anonymous = e'.map Event.anonymous) :
    (events ++ e).map Event.anonymous = (events' ++ e').map Event.anonymous := by
  rw [List.map_append, List.map_append, he, hnews]

theorem map_anonymous_declared {d d' : Declaration}
    (he : events.map Event.anonymous = events'.map Event.anonymous)
    (hd : d.anonymous = d'.anonymous) : (events ++ [Event.declared d]).map Event.anonymous =
      (events' ++ [Event.declared d']).map Event.anonymous :=
  map_anonymous_append he (by simp [Event.anonymous, hd])

/-! ### Descent -/

/-- What is visited is below the roots, and below all that is on the path. -/
structure Descent (g : Graph) (roots path is : List ElementId) : Prop where
  /-- The elements are below the roots. -/
  below : ∀ i ∈ is, g.Below roots i
  /-- The elements are below those on the path. -/
  above : ∀ i ∈ is, ∀ p ∈ path, TransGen g.Descends p i

theorem descent_roots : Descent g roots [] roots := ⟨fun _ => .root, by simp⟩

theorem Descent.rest {rest : List ElementId} (hd : Descent g roots path (i :: rest)) :
    Descent g roots path rest :=
  ⟨fun j hj => hd.below j (List.mem_cons_of_mem i hj),
    fun j hj => hd.above j (List.mem_cons_of_mem i hj)⟩

theorem Descent.enter {rest : List ElementId} (hd : Descent g roots path (i :: rest)) :
    Descent g roots (i :: path) (g.children i) := by
  refine ⟨fun c hc => (hd.below i List.mem_cons_self).child hc, fun c hc => ?_⟩
  refine List.forall_mem_cons.2 ⟨.single hc, fun p hp => ?_⟩
  exact (hd.above i List.mem_cons_self p hp).tail hc

/-- An element that is not below itself is not on the path above it. -/
theorem Descent.not_mem (hd : Descent g roots path is) (hg : g.Loopless roots) (hi : i ∈ is) :
    i ∉ path :=
  fun hmem => hg i (hd.below i hi) (hd.above i hi i hmem)

/-! ### Two walks side by side -/

/-- Two walks are at the same place: the same has happened, and the second one has copies before it
of what the first one has before it. -/
structure Paired (gen : Generator) (g h : Graph) (roots roots' : List ElementId)
    (events : List Event) (path is : List ElementId) (events' : List Event)
    (path' js : List ElementId) : Prop where
  /-- The same has happened. -/
  same : events.map Event.anonymous = events'.map Event.anonymous
  /-- Both are at the roots, or neither. -/
  outermost : path.isEmpty = path'.isEmpty
  /-- Copies are to be visited. -/
  copies : List.Forall₂ (g.Copies h) is js
  /-- The first walk has gone down from its roots. -/
  left : Descent g roots path is
  /-- So has the second one. -/
  right : Descent h roots' path' js

section Paired

variable {news news' : List Event} {d d' : Declaration}

theorem Paired.encounter_eq (hp : Paired gen g h roots roots' events path (i :: is) events' path'
    (j :: js)) (hgen : gen.Standard) (hg : g.Loopless roots) (hh : h.Loopless roots')
    (htext : ∀ i, g.Below roots i → (g.get i).Textual) :
    (encounter g gen.strategy (gen.declare g) events path i).anonymous =
      (encounter h gen.strategy (gen.declare h) events' path' j).anonymous := by
  have hi := hp.left.below i List.mem_cons_self
  have hc := (List.forall₂_cons.1 hp.copies).1
  exact encounter_copy hgen hc (htext i hi) (fun c hc => htext c (hi.child hc)) hp.same hp.outermost
    (hp.left.not_mem hg List.mem_cons_self) (hp.right.not_mem hh List.mem_cons_self)

/-- Both walks go on with the rest, after the same has happened. -/
theorem Paired.rest (hp : Paired gen g h roots roots' events path (i :: is) events' path'
    (j :: js)) (he : news.map Event.anonymous = news'.map Event.anonymous) :
    Paired gen g h roots roots' news path is news' path' js :=
  ⟨he, hp.outermost, (List.forall₂_cons.1 hp.copies).2, hp.left.rest, hp.right.rest⟩

/-- Both walks go down into what they declare. -/
theorem Paired.enter (hp : Paired gen g h roots roots' events path (i :: is) events' path'
    (j :: js)) (hd : d.anonymous = d'.anonymous) :
    Paired gen g h roots roots' (events ++ [.declared d]) (i :: path) (g.children i)
      (events' ++ [.declared d']) (j :: path') (h.children j) :=
  ⟨map_anonymous_declared hp.same hd, rfl, (List.forall₂_cons.1 hp.copies).1.children,
    hp.left.enter, hp.right.enter⟩

end Paired

/-! ### Whole walks -/

/-- **Visiting copies has the same outcome**, up to the numbers of the elements. -/
theorem Visits.copy (hgen : gen.Standard) (hg : g.Loopless roots) (hh : h.Loopless roots')
    (htext : ∀ i, g.Below roots i → (g.get i).Textual)
    (hv : Visits g gen.strategy (gen.declare g) events path is o)
    (hp : Paired gen g h roots roots' events path is events' path' js) :
    ∃ o', Visits h gen.strategy (gen.declare h) events' path' js o' ∧
      o.anonymous = o'.anonymous := by
  induction hv generalizing events' path' js with
  | nil =>
    cases hp.copies
    exact ⟨_, .nil, by simp [Outcome.anonymous, hp.same]⟩
  | stop hs =>
    obtain ⟨j, js, -, -, rfl⟩ := List.forall₂_cons_left_iff.1 hp.copies
    have hsame := hs ▸ hp.encounter_eq hgen hg hh htext
    exact ⟨_, .stop (eq_stop_of_anonymous hsame), by simp [Outcome.anonymous, hp.same]⟩
  | pass hs _ ih =>
    obtain ⟨j, js, -, -, rfl⟩ := List.forall₂_cons_left_iff.1 hp.copies
    have hsame := hs ▸ hp.encounter_eq hgen hg hh htext
    obtain ⟨o', hafter, ho⟩ := ih (hp.rest (map_anonymous_append hp.same rfl))
    exact ⟨o', .pass (eq_pass_of_anonymous hsame) hafter, ho⟩
  | halt hs _ ih =>
    obtain ⟨j, js, -, -, rfl⟩ := List.forall₂_cons_left_iff.1 hp.copies
    have hsame := hs ▸ hp.encounter_eq hgen hg hh htext
    obtain ⟨d', henter, hd⟩ := exists_enter_of_anonymous hsame
    obtain ⟨⟨mid', failure'⟩, hbelow, ho⟩ := ih (hp.enter hd)
    obtain ⟨-, rfl⟩ := Outcome.mk.inj ho
    exact ⟨_, .halt henter hbelow, ho⟩
  | enter hs _ _ ihBelow ihAfter =>
    obtain ⟨j, js, -, -, rfl⟩ := List.forall₂_cons_left_iff.1 hp.copies
    have hsame := hs ▸ hp.encounter_eq hgen hg hh htext
    obtain ⟨d', henter, hd⟩ := exists_enter_of_anonymous hsame
    obtain ⟨⟨mid', failure'⟩, hbelow, hmid⟩ := ihBelow (hp.enter hd)
    obtain ⟨hmid, rfl⟩ := Outcome.mk.inj hmid
    obtain ⟨o', hafter, ho⟩ := ihAfter (hp.rest hmid)
    exact ⟨o', .enter henter hbelow hafter, ho⟩

/-- A walk below which nothing comes back to itself comes to its end, or to a conflict. -/
theorem Visits.conflict_of_loopless (hgen : gen.Standard) (hg : g.Loopless roots)
    (htext : ∀ i, g.Below roots i → (g.get i).Textual)
    (hv : Visits g gen.strategy (gen.declare g) events path is o) (hd : Descent g roots path is) :
    o.failure = none ∨ ∃ name, o.failure = some (.conflict name) := by
  induction hv with
  | nil => exact .inl rfl
  | @stop events path i rest failure hs =>
    have hi := hd.below i List.mem_cons_self
    right
    rcases encounter_stop hs with hu | ⟨-, ⟨hmem, -⟩ | ⟨-, ⟨-, -, -, rfl⟩ | ⟨-, herror⟩⟩⟩
    · rw [unfit?_eq_none (htext i hi).named] at hu
      cases hu
    · exact absurd hmem (hd.not_mem hg List.mem_cons_self)
    · exact ⟨_, rfl⟩
    · rw [hgen.declaration?_eq (htext i hi) fun c hc => htext c (hi.child hc)] at herror
      cases herror
  | pass _ _ ih => exact ih hd.rest
  | halt _ _ ih => exact ih hd.enter
  | enter _ _ _ _ ihAfter => exact ihAfter hd.rest

/-- The walks differ in the numbers of the elements at most. -/
structure SameOutcome (o o' : Outcome) : Prop where
  /-- The same happened in the same order. -/
  events : o.events.map Event.anonymous = o'.events.map Event.anonymous
  /-- Both came to their end, or none for the same reason. -/
  failure : o.failure = o'.failure
  /-- The same declarations were made. -/
  texts : Generator.declarationTexts o.events = Generator.declarationTexts o'.events
  /-- They are those of the same types. -/
  types : declaredTypes o.events = declaredTypes o'.events
  /-- The same names were visited. -/
  names : visited o.events = visited o'.events
  /-- The names have the same shapes. -/
  shapes : ∀ n, shapeOf? o.events n = shapeOf? o'.events n
  /-- There are the same warnings. -/
  warnings : warnings o.events = warnings o'.events

theorem sameOutcome_of_anonymous {o o' : Outcome} (ho : o.anonymous = o'.anonymous) :
    SameOutcome o o' := by
  obtain ⟨he, hfailure⟩ := Outcome.mk.inj ho
  exact
    { events := he
      failure := hfailure
      texts := map_declarations_congr (fun _ => rfl) he
      types := map_declarations_congr (fun _ => rfl) he
      names := visited_congr he
      shapes := shapeOf?_congr he
      warnings := by rw [Walk.warnings, Walk.warnings, redefinitions_congr he] }

/-- Walks with the same outcome have collected the same. -/
theorem SameOutcome.collect_eq {gen' : Generator}
    (ho : SameOutcome (gen.walk g roots) (gen'.walk h roots')) :
    gen.collect g roots = gen'.collect h roots' := by
  have hcollected : Collected.ofEvents (gen.walk g roots).events =
      .ofEvents (gen'.walk h roots').events :=
    Collected.ext ho.names (shapes_congr ho.events) ho.texts ho.types ho.warnings
  rw [Generator.collect_eq, Generator.collect_eq, ho.failure, hcollected]

/-- A walk of copies of the roots has the same outcome, whatever elements are shared. -/
theorem sameOutcome_of_copies (hgen : gen.Standard) (hg : g.Loopless roots)
    (hh : h.Loopless roots') (htext : ∀ i, g.Below roots i → (g.get i).Textual)
    (hroots : List.Forall₂ (g.Copies h) roots roots') :
    SameOutcome (gen.walk g roots) (gen.walk h roots') := by
  obtain ⟨o', hvisits, ho⟩ : ∃ o', Visits h gen.strategy (gen.declare h) [] [] roots' o' ∧
      (gen.walk g roots).anonymous = o'.anonymous :=
    (visits_walk gen g roots).copy hgen hg hh htext ⟨rfl, rfl, hroots, descent_roots, descent_roots⟩
  rw [Generator.walk, Generator.walk, run_eq_of_visits hvisits]
  exact sameOutcome_of_anonymous ho

/-- **Serialization does not change what is generated.**  A schema that is written as a document can
be read again.  A walk of what was read, where a shared element has a copy at every place, has the
same outcome as one of the schema: it comes to its end with the same declarations, or meets the same
conflict. -/
theorem serialization (hgen : gen.Standard) (hg : g.Serializable roots) :
    Tree.ofDocument? (.arr (Tree.listToJson (roots.map g.tree))) = .ok (roots.map g.tree) ∧
      SameOutcome (gen.walk g roots) (gen.walk (Graph.ofTrees (roots.map g.tree)).1
        (Graph.ofTrees (roots.map g.tree)).2) ∧
      ((gen.walk g roots).failure = none ∨
        ∃ name, (gen.walk g roots).failure = some (.conflict name)) := by
  have htext : ∀ i, g.Below roots i → (g.get i).Textual := fun i hi => (hg.elements i hi).textual
  have hlayered := (Graph.addTrees_layered Graph.layered_empty (roots.map g.tree)).1
  refine ⟨hg.ofDocument?_eq, ?_, ?_⟩
  · exact sameOutcome_of_copies hgen hg.loopless hlayered.loopless htext
      (hg.depictsAll.copies (Graph.depicts_ofTrees _))
  · exact (visits_walk gen g roots).conflict_of_loopless hgen hg.loopless htext descent_roots

/-! ### A shared address -/

/-- A person and a company with one address. -/
def contacts : Graph :=
  ⟨#[{ name := .str "street", type := .str "string" },
    { name := .str "address", type := .str "address", children := [0] },
    { name := .str "person", type := .str "person", children := [1] },
    { name := .str "company", type := .str "company", children := [1] }]⟩

theorem serializable_contacts : contacts.Serializable [2, 3] :=
  (Graph.layered_of_forall_lt (by decide)).serializable (by decide) (by decide)

theorem serialization_contacts :
    (plainGenerator .error).Standard ∧ contacts.Serializable [2, 3] ∧
    (Graph.ofTrees ([2, 3].map contacts.tree)).1.size = 6 ∧
    SameOutcome ((plainGenerator .error).walk contacts [2, 3])
      ((plainGenerator .error).walk (Graph.ofTrees ([2, 3].map contacts.tree)).1
        (Graph.ofTrees ([2, 3].map contacts.tree)).2) :=
  ⟨standard_plainGenerator _, serializable_contacts, by decide +kernel,
    (serialization (standard_plainGenerator _) serializable_contacts).2.1⟩

end Walk

end SchemaStructs
