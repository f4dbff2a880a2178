import SchemaStructs.Generator.Generate
import SchemaStructs.Proofs.Schema.Shape
import SchemaStructs.Proofs.Walk.Visit

/-!
# What a walk declares

The invariant of a walk (`Walk.Valid`): no name is declared twice, and every declaration is that of
a reachable element.  When a visit comes to its end, three more things are known:

* `Walk.Visits.settled`: the visited elements that are not primitive lie outside the path, and their
  names are declared;
* `Walk.Visits.closed`: the same holds of the children of all that was declared on the way;
* `Walk.Visits.balance`: the names found redefined are as many as the elements looked at whose shape
  is not that of the declaration of their name.

`Walk.account` puts them together for a whole run.
-/

namespace SchemaStructs

namespace Walk

/-- The declared elements, in order. -/
def elements (events : List Event) : List ElementId := (declarations events).map (·.element)

/-- The places where an element that is not primitive is a root or a child of one of the given
elements. -/
def occurrences (g : Graph) (roots es : List ElementId) : List ElementId :=
  (roots ++ es.flatMap g.children).filter (!g.isPrimitive ·)

/-- What is known of the events of a walk, whether it has come to its end or not. -/
structure Valid (g : Graph) (declare : Declare) (roots : List ElementId) (events : List Event) :
    Prop where
  /-- No name is declared twice. -/
  names_nodup : (visited events).Nodup
  /-- Every declaration is that of its element. -/
  genuine : ∀ d ∈ declarations events, declaration? g declare d.element = .ok d
  /-- Every declared element is reachable. -/
  reachable : ∀ d ∈ declarations events, g.Reachable roots d.element

variable {g : Graph} {strategy : ConflictStrategy} {declare : Declare} {roots : List ElementId}
variable {events news : List Event} {path is : List ElementId} {i : ElementId}
variable {d : Declaration} {n : Text} {o : Outcome}

/-! ### Declarations and look-ups -/

/-- An element whose name and type are texts can be looked up. -/
theorem unfit?_eq_none {e : Element} (h : e.Named) : unfit? e = none := by
  rw [unfit?, h.isFit, Json.eq_str_display h.name]
  simp [Json.isContainer]

@[simp] theorem declarations_declared : declarations [.declared d] = [d] := rfl

@[simp] theorem elements_append_declared :
    elements (events ++ [.declared d]) = elements events ++ [d.element] := by
  simp [elements, declarations_append]

@[simp] theorem redefinitions_append_declared :
    redefinitions (events ++ [.declared d]) = redefinitions events := by
  simp [redefinitions, List.filterMap_append, Event.redefined?]

theorem declaration?_eq_ok (h : declaration? g declare i = .ok d) :
    declare i = .ok (d.text, d.typeName) ∧ g.rawName i = .str d.name ∧ d.element = i ∧
      d.shape = g.shape i := by
  have hname := name_of_declaration? h
  unfold declaration? at h
  split at h <;> cases h
  exact ⟨‹_›, hname, rfl, rfl⟩

theorem Valid.rawName_element (hv : Valid g declare roots events)
    (hd : d ∈ declarations events) : g.rawName d.element = .str d.name :=
  (declaration?_eq_ok (hv.genuine d hd)).2.1

theorem Valid.shape_eq (hv : Valid g declare roots events) (hd : d ∈ declarations events) :
    d.shape = g.shape d.element :=
  (declaration?_eq_ok (hv.genuine d hd)).2.2.2

theorem mem_visited_iff : n ∈ visited events ↔ ∃ d ∈ declarations events, d.name = n := by
  simp [visited]

theorem isVisited_iff :
    isVisited events (g.rawName i) = true ↔
      ∃ n, g.rawName i = .str n ∧ ∃ d ∈ declarations events, d.name = n := by
  cases h : g.rawName i <;> simp [isVisited, Json.text?, mem_visited_iff, and_comm, eq_comm]

theorem isVisited_mono {after : List Event} (h : events <+: after) {name : Json}
    (hn : isVisited events name = true) : isVisited after name = true := by
  obtain ⟨news, rfl⟩ := h
  cases name <;> simp_all [isVisited, Json.text?, visited_append]

theorem shapeOf?_isSome_iff : (shapeOf? events n).isSome ↔ n ∈ visited events := by
  simp [shapeOf?, mem_visited_iff]

/-- The declaration of a name does not change any more. -/
theorem shapeOf?_mono {after : List Event} (h : events <+: after) (hn : n ∈ visited events) :
    shapeOf? after n = shapeOf? events n := by
  obtain ⟨news, rfl⟩ := h
  obtain ⟨d, hd, hname⟩ := mem_visited_iff.1 hn
  have : ((declarations events).find? (·.name == n)).isSome :=
    List.find?_isSome.2 ⟨d, hd, by simpa using hname⟩
  rw [shapeOf?, declarations_append, List.find?_append, Option.or_of_isSome this, shapeOf?]

theorem fits_mono {after : List Event} (h : events <+: after)
    (hn : isVisited events (g.rawName i) = true) : fits g after i = fits g events i := by
  obtain ⟨n, hi, hd⟩ := isVisited_iff.1 hn
  rw [fits, fits, Graph.name_eq_of_rawName hi, shapeOf?_mono h (mem_visited_iff.2 hd)]

/-- With names declared once, the shape of a name is that of the element declared for it. -/
theorem shapeOf?_of_mem (hnd : (visited events).Nodup) (hd : d ∈ declarations events) :
    shapeOf? events d.name = some d.shape := by
  have h : (declarations events).find? (·.name == d.name) = some d := by
    rw [visited] at hnd
    generalize declarations events = ds at hnd hd
    induction ds with
    | nil => cases hd
    | cons e ds ih =>
      rw [List.map_cons, List.nodup_cons] at hnd
      rcases List.mem_cons.1 hd with rfl | hd
      · simp
      · have hne : e.name ≠ d.name := fun he => hnd.1 (he ▸ List.mem_map_of_mem hd)
        rw [List.find?_cons_of_neg (by simpa using hne)]
        exact ih hnd.2 hd
  rw [shapeOf?, h, Option.map_some]

/-- Whether an element fits is a matter of the element that was declared for its name. -/
theorem Valid.fits_eq (hv : Valid g declare roots events) (hd : d ∈ declarations events)
    (hname : g.rawName d.element = g.rawName i) :
    fits g events i = (g.shape i).alike (g.shape d.element) := by
  rw [fits, Graph.name_eq_of_rawName (hname.symm.trans (hv.rawName_element hd)),
    shapeOf?_of_mem hv.names_nodup hd, Option.any_some, hv.shape_eq hd]

/-- A declared element fits its own declaration. -/
theorem Valid.fits_element (hv : Valid g declare roots events) (hd : d ∈ declarations events) :
    fits g events d.element = true := by
  rw [hv.fits_eq hd rfl]
  exact Shape.alike_refl _

/-- An element was declared for every name that counts as visited. -/
theorem Valid.exists_declaration (hv : Valid g declare roots events)
    (h : isVisited events (g.rawName i) = true) :
    ∃ d ∈ declarations events, g.rawName d.element = g.rawName i := by
  obtain ⟨n, hname, d, hd, rfl⟩ := isVisited_iff.1 h
  exact ⟨d, hd, (hv.rawName_element hd).trans hname.symm⟩

/-! ### The invariant -/

theorem valid_nil : Valid g declare roots [] :=
  ⟨List.nodup_nil, by simp [declarations], by simp [declarations]⟩

theorem declarations_of_pass (h : encounter g strategy declare events path i = .pass news) :
    declarations news = [] := by
  rcases encounter_pass h with ⟨-, rfl⟩ | ⟨-, -, -, ⟨-, rfl⟩ | ⟨-, -, rfl⟩⟩
  · split <;> rfl
  · rfl
  · rfl

theorem declarations_append_of_pass
    (h : encounter g strategy declare events path i = .pass news) :
    declarations (events ++ news) = declarations events := by
  rw [declarations_append, declarations_of_pass h, List.append_nil]

theorem visited_append_of_pass (h : encounter g strategy declare events path i = .pass news) :
    visited (events ++ news) = visited events :=
  congrArg (List.map _) (declarations_append_of_pass h)

theorem elements_append_of_pass (h : encounter g strategy declare events path i = .pass news) :
    elements (events ++ news) = elements events :=
  congrArg (List.map _) (declarations_append_of_pass h)

theorem Valid.pass (hv : Valid g declare roots events)
    (h : encounter g strategy declare events path i = .pass news) :
    Valid g declare roots (events ++ news) := by
  have hd := declarations_append_of_pass h
  exact ⟨visited_append_of_pass h ▸ hv.names_nodup, hd ▸ hv.genuine, hd ▸ hv.reachable⟩

theorem Valid.enter (hv : Valid g declare roots events)
    (hr : g.isPrimitive i = false → g.Reachable roots i)
    (h : encounter g strategy declare events path i = .enter d) :
    Valid g declare roots (events ++ [.declared d]) := by
  obtain ⟨-, hprim, -, -, hd⟩ := encounter_enter h
  obtain ⟨-, -, helem, -⟩ := declaration?_eq_ok hd
  have hfresh := not_mem_visited_of_enter h
  refine ⟨?_, fun e he => ?_, fun e he => ?_⟩
  · rw [visited_append_declared]
    refine List.nodup_append.2 ⟨hv.names_nodup, by simp, fun a ha b hb hab => hfresh ?_⟩
    rwa [← List.mem_singleton.1 hb, ← hab]
  · rw [declarations_append, List.mem_append] at he
    rcases he with he | he
    · exact hv.genuine e he
    · obtain rfl := List.mem_singleton.1 he
      rw [helem, hd]
  · rw [declarations_append, List.mem_append] at he
    rcases he with he | he
    · exact hv.reachable e he
    · obtain rfl := List.mem_singleton.1 he
      rw [helem]
      exact hr hprim

/-- **A visit of elements of the schema keeps the invariant**, wherever it ends. -/
theorem Visits.valid (h : Visits g strategy declare events path is o)
    (hv : Valid g declare roots events) (his : ∀ i ∈ is, g.Occurs roots i) :
    Valid g declare roots o.events := by
  have hreach : ∀ {i rest}, (∀ j ∈ i :: rest, g.Occurs roots j) → g.isPrimitive i = false →
      g.Reachable roots i := fun h hp => (h _ List.mem_cons_self).reachable hp
  induction h with
  | nil | stop _ => exact hv
  | pass h _ ih => exact ih (hv.pass h) fun j hj => his j (List.mem_cons_of_mem _ hj)
  | halt h _ ih =>
    exact ih (hv.enter (hreach his) h) (hreach his (encounter_enter h).2.1).occurs_child
  | enter h _ _ ihBelow ihAfter =>
    have hbelow := ihBelow (hv.enter (hreach his) h)
      (hreach his (encounter_enter h).2.1).occurs_child
    exact ihAfter hbelow fun j hj => his j (List.mem_cons_of_mem _ hj)

/-! ### Visits that come to their end -/

theorem isVisited_of_enter (h : encounter g strategy declare events path i = .enter d) :
    isVisited (events ++ [.declared d]) (g.rawName i) = true := by
  obtain ⟨-, hname, -⟩ := declaration?_eq_ok (encounter_enter h).2.2.2.2
  exact isVisited_iff.2 ⟨d.name, hname, d, by simp [declarations_append], rfl⟩

/-- After a visit the visited elements that are not primitive are outside the path, and their names
are declared. -/
theorem Visits.settled (h : Visits g strategy declare events path is o) (ho : o.failure = none) :
    ∀ i ∈ is, g.isPrimitive i = false → i ∉ path ∧ isVisited o.events (g.rawName i) = true := by
  induction h with
  | nil => simp
  | stop _ | halt _ _ => cases ho
  | pass h after ih =>
    intro j hj hp
    rcases List.mem_cons.1 hj with rfl | hj
    · rcases encounter_pass h with ⟨hp', -⟩ | ⟨-, hpath, hvisited, -⟩
      · rw [hp'] at hp; cases hp
      · exact ⟨hpath, isVisited_mono
          ((List.prefix_append _ _).trans after.events_mono) hvisited⟩
    · exact ih ho j hj hp
  | enter h below after _ ihAfter =>
    intro j hj hp
    rcases List.mem_cons.1 hj with rfl | hj
    · exact ⟨(encounter_enter h).2.2.1, isVisited_mono
        (below.events_mono.trans after.events_mono) (isVisited_of_enter h)⟩
    · exact ihAfter ho j hj hp

/-- After a visit the children of all that was declared on the way are settled, too. -/
theorem Visits.closed (h : Visits g strategy declare events path is o) (ho : o.failure = none) :
    ∀ e ∈ elements o.events, e ∈ elements events ∨
      ∀ c ∈ g.children e, g.isPrimitive c = false → isVisited o.events (g.rawName c) = true := by
  induction h with
  | nil => exact fun e he => .inl he
  | stop _ | halt _ _ => cases ho
  | pass h _ ih =>
    rw [elements_append_of_pass h] at ih
    exact ih ho
  | enter h below after ihBelow ihAfter =>
    intro e he
    rcases ihAfter ho e he with he | hc
    · rcases ihBelow rfl e he with he | hc
      · -- the entered element itself: its children were settled below it
        rw [elements_append_declared, List.mem_append, List.mem_singleton] at he
        refine he.imp_right ?_
        rintro rfl c hc hp
        rw [(declaration?_eq_ok (encounter_enter h).2.2.2.2).2.2.1] at hc
        exact isVisited_mono after.events_mono (below.settled rfl c hc hp).2
      · exact .inr fun c hm hp => isVisited_mono after.events_mono (hc c hm hp)
    · exact .inr hc

/-- The element counts as a redefinition: it is not primitive and does not fit. -/
def redefines (g : Graph) (events : List Event) (i : ElementId) : Bool :=
  !g.isPrimitive i && !fits g events i

/-- An element that is passed over is a redefinition exactly when the event says so. -/
theorem length_redefinitions_pass {final : List Event}
    (h : encounter g strategy declare events path i = .pass news) (hpre : events <+: final) :
    (redefinitions (events ++ news)).length =
      (redefinitions events).length + if redefines g final i then 1 else 0 := by
  rcases encounter_pass h with ⟨hp, rfl⟩ | ⟨hp, -, hvis, ⟨hfit, rfl⟩ | ⟨-, hfit, rfl⟩⟩
  · split <;> simp [redefinitions, redefines, hp, Event.redefined?]
  · have hfinal := (fits_mono hpre hvis).trans hfit
    simp [redefinitions, redefines, hp, hfinal, Event.redefined?]
  · have hfinal := (fits_mono hpre hvis).trans hfit
    simp [redefinitions, redefines, hp, hfinal, Event.redefined?]

/-- A declared element fits. -/
theorem redefines_of_enter {final : List Event}
    (hv : Valid g declare roots (events ++ [.declared d]))
    (h : encounter g strategy declare events path i = .enter d)
    (hpre : events ++ [.declared d] <+: final) : redefines g final i = false := by
  obtain ⟨-, -, helem, -⟩ := declaration?_eq_ok (encounter_enter h).2.2.2.2
  have hfits := hv.fits_element (d := d) (by simp [declarations_append])
  rw [helem] at hfits
  rw [redefines, fits_mono hpre (isVisited_of_enter h), hfits, Bool.not_true, Bool.and_false]

/-- **The balance of redefinitions.**  On both sides stand the redefinitions found and those among
the children of the elements declared before or after; `final` are the events by which elements are
judged. -/
theorem Visits.balance (h : Visits g strategy declare events path is o) (ho : o.failure = none)
    (hv : Valid g declare roots events) (his : ∀ i ∈ is, g.Occurs roots i) {final : List Event}
    (hfinal : o.events <+: final) :
    (redefinitions o.events).length
        + ((elements events).flatMap g.children).countP (redefines g final) =
      (redefinitions events).length + is.countP (redefines g final)
        + ((elements o.events).flatMap g.children).countP (redefines g final) := by
  induction h with
  | nil => simp
  | stop _ | halt _ _ => cases ho
  | @pass events path i rest news o h after ih =>
    have hrest := ih ho (hv.pass h) (fun j hj => his j (List.mem_cons_of_mem _ hj)) hfinal
    have hone := length_redefinitions_pass h
      (((List.prefix_append _ _).trans after.events_mono).trans hfinal)
    rw [elements_append_of_pass h] at hrest
    rw [List.countP_cons]
    omega
  | @enter events path i rest d mid o h below after ihBelow ihAfter =>
    obtain ⟨-, hprim, -, -, hd⟩ := encounter_enter h
    obtain ⟨-, -, helem, -⟩ := declaration?_eq_ok hd
    have hreach := (his i List.mem_cons_self).reachable
    have hchildren := (hreach hprim).occurs_child
    have hv' := hv.enter hreach h
    have hbelow := ihBelow rfl hv' hchildren (after.events_mono.trans hfinal)
    have hafter := ihAfter ho (below.valid hv' hchildren)
      (fun j hj => his j (List.mem_cons_of_mem _ hj)) hfinal
    have hfit := redefines_of_enter hv' h
      ((below.events_mono.trans after.events_mono).trans hfinal)
    simp only [redefinitions_append_declared, elements_append_declared, helem,
      List.flatMap_append, List.flatMap_cons, List.flatMap_nil, List.append_nil,
      List.countP_append] at hbelow
    rw [List.countP_cons_of_neg (by simp [hfit])]
    omega

/-- Under the strict strategy nothing is found redefined. -/
theorem Visits.redefinitions_of_error (h : Visits g .error declare events path is o) :
    redefinitions o.events = redefinitions events := by
  induction h with
  | nil | stop _ => rfl
  | pass h _ ih =>
    rw [ih]
    rcases encounter_pass h with ⟨-, rfl⟩ | ⟨-, -, -, ⟨-, rfl⟩ | ⟨hs, -⟩⟩
    · split <;> simp [redefinitions, Event.redefined?]
    · simp [redefinitions, Event.redefined?]
    · cases hs
  | halt _ _ ih => rw [ih, redefinitions_append_declared]
  | enter _ _ _ ihBelow ihAfter => rw [ihAfter, ihBelow, redefinitions_append_declared]

end Walk

end SchemaStructs
