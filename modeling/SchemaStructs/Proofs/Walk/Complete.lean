import Mathlib.Data.List.Induction
import SchemaStructs.Proofs.Generator.Declaration
import SchemaStructs.Proofs.Schema.Forest
import SchemaStructs.Proofs.Schema.Unfolding
import SchemaStructs.Proofs.Walk.Account

/-!
# Complete walks

In a schema without cycles whose elements have one shape for each name (`Graph.Coherent`), a walk
comes to its end without warnings and declares exactly the names of the plain depth-first preorder,
each at its first occurrence (`Walk.complete`).

The walk does not go below an element whose name is declared.  Nothing is missed there, for

* no element on the path has the name, because it would have as much below it as the element that
  it contains (`Graph.Coherent.rawName_ne`);
* so the element that was declared for the name is finished: all names below it are declared, and
  they are the same as those below the element that is passed over (`Walk.Finished`).
-/

namespace SchemaStructs

open Relation

/-- The schema has no cycles, its names and types are texts, and elements of the same name have
alike shapes. -/
structure Graph.Coherent (g : Graph) (roots : List ElementId) : Prop where
  /-- No element contains itself. -/
  acyclic : g.Acyclic roots
  /-- All names and types are texts. -/
  textual : ∀ i, g.Occurs roots i → (g.get i).Textual
  /-- A name has one shape. -/
  alike : ∀ i j, g.Reachable roots i → g.Reachable roots j → g.rawName i = g.rawName j →
    (g.shape i).alike (g.shape j) = true

namespace Graph.Coherent

variable {g : Graph} {roots a b : List ElementId} {i j : ElementId}

theorem rawName_eq (hg : g.Coherent roots) (hi : g.Reachable roots i) :
    g.rawName i = .str (g.name i) :=
  Json.eq_str_display (hg.textual i hi.occurs).name

theorem rawName_eq_of_name_eq (hg : g.Coherent roots) (hi : g.Reachable roots i)
    (hj : g.Reachable roots j) (h : g.name i = g.name j) : g.rawName i = g.rawName j := by
  rw [hg.rawName_eq hi, hg.rawName_eq hj, h]

theorem shape_textual (hg : g.Coherent roots) (hi : g.Reachable roots i) : (g.shape i).Textual :=
  Graph.shape_textual (hg.textual i hi.occurs) fun c hc =>
    hg.textual c (hi.occurs_child c hc)

/-- Below elements of the same name are the same names. -/
theorem map_name_eq (hg : g.Coherent roots) (hi : g.Reachable roots i) (hj : g.Reachable roots j)
    (h : g.rawName i = g.rawName j) (ha : g.Unfolds (g.children i) a)
    (hb : g.Unfolds (g.children j) b) : a.map g.name = b.map g.name := by
  have hsame : ∀ i j, g.Reachable roots i → g.Reachable roots j → g.rawName i = g.rawName j →
      (g.inner (g.children i)).map g.rawName = (g.inner (g.children j)).map g.rawName :=
    fun i j hi hj h => map_rawName_inner_eq (hg.alike i j hi hj h) (hg.shape_textual hj)
  have hraw := ha.map_rawName_eq hb hsame hi.occurs_child hj.occurs_child (hsame i j hi hj h)
  have hname : g.name = Json.display ∘ g.rawName := rfl
  rw [hname, ← List.map_map, ← List.map_map, hraw]

/-- **No element contains one of its own name**, which would have as much below it. -/
theorem rawName_ne (hg : g.Coherent roots) (hi : g.Reachable roots i)
    (h : TransGen g.Contains i j) : g.rawName i ≠ g.rawName j := by
  intro hname
  have hj := hi.trans h.to_reflTransGen
  obtain ⟨a, ha⟩ := hg.acyclic.exists_below hi
  obtain ⟨b, hb⟩ := hg.acyclic.exists_below hj
  have hlength := congrArg List.length (hg.map_name_eq hi hj hname ha hb)
  rw [List.length_map, List.length_map] at hlength
  exact absurd (ha.length_lt h hb) (by omega)

/-- A schema is coherent from fewer roots, too. -/
theorem mono {roots' : List ElementId} (hg : g.Coherent roots) (hsub : ∀ r ∈ roots', r ∈ roots) :
    g.Coherent roots' where
  acyclic i hi := hg.acyclic i (hi.mono hsub)
  textual i hi := hg.textual i (hi.mono hsub)
  alike i j hi hj := hg.alike i j (hi.mono hsub) (hj.mono hsub)

/-- Every reachable element can be declared. -/
theorem declaration?_eq (hg : g.Coherent roots) {gen : Generator} (hgen : gen.Standard)
    (hi : g.Reachable roots i) :
    Walk.declaration? g (gen.declare g) i = .ok
      { element := i, name := g.name i, typeName := gen.settings.style.typeName (g.name i)
        shape := g.shape i
        text := StructTemplates.declarationText gen.settings (g.name i) (g.shape i) } :=
  hgen.declaration?_eq (hg.textual i hi.occurs) fun c hc =>
    hg.textual c (hi.occurs_child c hc)

end Graph.Coherent

namespace Walk

/-! ### Names in the order of their first occurrences -/

/-- The names that are known after some more names, each at its first occurrence. -/
def record (known names : List Text) : List Text :=
  names.foldl (fun known n => if known.contains n then known else known ++ [n]) known

theorem record_append (known a b : List Text) :
    record known (a ++ b) = record (record known a) b :=
  List.foldl_append

theorem record_cons_of_not_mem {known names : List Text} {n : Text} (h : n ∉ known) :
    record known (n :: names) = record (known ++ [n]) names := by
  simp [record, h]

theorem record_of_subset {known names : List Text} (h : ∀ n ∈ names, n ∈ known) :
    record known names = known := by
  induction names with
  | nil => rfl
  | cons n names ih =>
    have hn : n ∈ known := h n List.mem_cons_self
    rw [record, List.foldl_cons, if_pos (List.contains_iff_mem.2 hn)]
    exact ih fun m hm => h m (List.mem_cons_of_mem n hm)

theorem mem_record {known names : List Text} {n : Text} :
    n ∈ record known names ↔ n ∈ known ∨ n ∈ names := by
  induction names generalizing known with
  | nil => simp [record]
  | cons m names ih =>
    by_cases hm : m ∈ known
    · have : record known (m :: names) = record known names := by simp [record, hm]
      rw [this, ih, List.mem_cons]
      constructor
      · rintro (h | h)
        · exact .inl h
        · exact .inr (.inr h)
      · rintro (h | rfl | h)
        · exact .inl h
        · exact .inl hm
        · exact .inr h
    · rw [record_cons_of_not_mem hm, ih, List.mem_append, List.mem_singleton, List.mem_cons,
        or_assoc]

/-- From nothing, the first occurrences remain. -/
theorem record_nil (names : List Text) : record [] names = names.eraseDups := by
  induction names using List.reverseRecOn with
  | nil => rfl
  | append_singleton names n ih =>
    rw [record_append, List.eraseDups_append, ih]
    have hmem : n ∈ names.eraseDups ↔ n ∈ names := List.mem_eraseDups
    by_cases hn : n ∈ names <;> simp [record, List.removeAll, hmem, hn, List.eraseDups_cons]

/-! ### What a visit completes -/

variable {g : Graph} {strategy : ConflictStrategy} {declare : Declare} {roots : List ElementId}
variable {events news : List Event} {path is out : List ElementId} {i : ElementId}
variable {d : Declaration} {o : Outcome} {gen : Generator}

/-- All names below the elements that were declared outside the path are declared. -/
def Finished (g : Graph) (events : List Event) (path : List ElementId) : Prop :=
  ∀ e ∈ elements events, e ∉ path → ∀ below, g.Unfolds (g.children e) below →
    ∀ x ∈ below, g.name x ∈ visited events

/-- The outcome of a visit that comes to its end without redefinitions and declares the names of an
unfolding. -/
structure Completed (g : Graph) (events : List Event) (path out : List ElementId) (o : Outcome) :
    Prop where
  /-- The visit comes to its end. -/
  success : o.failure = none
  /-- Nothing is found redefined. -/
  agreed : redefinitions o.events = redefinitions events
  /-- The names of the unfolding are declared in order. -/
  names : visited o.events = record (visited events) (out.map g.name)
  /-- What was declared outside the path is finished. -/
  finished : Finished g o.events path

theorem visited_mono {after : List Event} (h : events <+: after) {n : Text}
    (hn : n ∈ visited events) : n ∈ visited after := by
  obtain ⟨news, rfl⟩ := h
  rw [visited_append]
  exact List.mem_append_left _ hn

/-- An element of a declared name has the shape of the declaration. -/
theorem Valid.fits_of_coherent (hv : Valid g declare roots events) (hg : g.Coherent roots)
    (hi : g.Reachable roots i) (h : isVisited events (g.rawName i) = true) :
    fits g events i = true := by
  obtain ⟨d, hd, hname⟩ := hv.exists_declaration h
  rw [hv.fits_eq hd hname]
  exact hg.alike i d.element hi (hv.reachable d hd) hname.symm

/-- All names below an element of a declared name are declared, too, unless the declared element
lies on the path. -/
theorem Valid.below_visited (hv : Valid g declare roots events) (hg : g.Coherent roots)
    (hfinished : Finished g events path) (hi : g.Reachable roots i)
    (hpath : ∀ p ∈ path, g.rawName p ≠ g.rawName i)
    (h : isVisited events (g.rawName i) = true) {below : List ElementId}
    (hbelow : g.Unfolds (g.children i) below) :
    ∀ n ∈ (i :: below).map g.name, n ∈ visited events := by
  obtain ⟨d, hd, hname⟩ := hv.exists_declaration h
  have hreach := hv.reachable d hd
  obtain ⟨below', hbelow'⟩ := hg.acyclic.exists_below hreach
  have hdone := hfinished d.element (mem_elements_iff.2 ⟨d, hd, rfl⟩)
    (fun hmem => hpath _ hmem hname) below' hbelow'
  have hself : g.name i = d.name :=
    Graph.name_eq_of_rawName (hname.symm.trans (hv.rawName_element hd))
  rw [List.map_cons, ← hg.map_name_eq hreach hi hname hbelow' hbelow, hself]
  refine List.forall_mem_cons.2 ⟨mem_visited_iff.2 ⟨d, hd, rfl⟩, fun n hn => ?_⟩
  obtain ⟨x, hx, rfl⟩ := List.mem_map.1 hn
  exact hdone x hx

/-- What is known when the walk is about to visit some elements below a path. -/
structure Scene (g : Graph) (declare : Declare) (roots : List ElementId) (events : List Event)
    (path is : List ElementId) : Prop where
  /-- The events are those of a walk. -/
  valid : Valid g declare roots events
  /-- The elements stand in the schema. -/
  occurs : ∀ i ∈ is, g.Occurs roots i
  /-- The elements on the path are reachable and contain what is visited. -/
  above : ∀ p ∈ path, g.Reachable roots p ∧
    ∀ i ∈ is, g.isPrimitive i = false → TransGen g.Contains p i
  /-- What was declared outside the path is finished. -/
  finished : Finished g events path

namespace Scene

variable {rest below : List ElementId} {mid : List Event}

theorem start (g : Graph) (declare : Declare) (roots : List ElementId) :
    Scene g declare roots [] [] roots where
  valid := valid_nil
  occurs _ hr := .inl hr
  above _ hp := nomatch hp
  finished _ he := nomatch he

theorem reachable (hs : Scene g declare roots events path (i :: rest))
    (hp : g.isPrimitive i = false) : g.Reachable roots i :=
  (hs.occurs i List.mem_cons_self).reachable hp

theorem tail (hs : Scene g declare roots events path (i :: rest)) :
    Scene g declare roots events path rest where
  valid := hs.valid
  occurs j hj := hs.occurs j (List.mem_cons_of_mem i hj)
  above p hp := ⟨(hs.above p hp).1, fun j hj => (hs.above p hp).2 j (List.mem_cons_of_mem i hj)⟩
  finished := hs.finished

/-- No element on the path has the name of a visited one. -/
theorem rawName_ne (hs : Scene g declare roots events path (i :: rest)) (hg : g.Coherent roots)
    (hp : g.isPrimitive i = false) : ∀ p ∈ path, g.rawName p ≠ g.rawName i := fun p hpath =>
  hg.rawName_ne (hs.above p hpath).1 ((hs.above p hpath).2 i List.mem_cons_self hp)

/-- The walk does not end at an element of a coherent schema. -/
theorem not_stop (hs : Scene g declare roots events path (i :: rest)) (hg : g.Coherent roots)
    (hdeclare : ∀ i, g.Reachable roots i → ∃ d, declaration? g declare i = .ok d)
    {failure : GenerationFailure} :
    encounter g strategy declare events path i ≠ .stop failure := by
  intro h
  have htextual := hg.textual i (hs.occurs i List.mem_cons_self)
  rcases encounter_stop h with hunfit | ⟨hp, ⟨hmem, -⟩ | ⟨-, ⟨-, hvis, hfit, -⟩ | ⟨-, hd⟩⟩⟩
  · rw [unfit?_eq_none htextual.named] at hunfit
    cases hunfit
  · exact hs.rawName_ne hg hp i hmem rfl
  · rw [hs.valid.fits_of_coherent hg (hs.reachable hp) hvis] at hfit
    cases hfit
  · obtain ⟨d, hd'⟩ := hdeclare i (hs.reachable hp)
    rw [hd] at hd'
    cases hd'

/-- An element that is passed over is primitive or has a declared name; it is no redefinition. -/
theorem pass_cases (hs : Scene g declare roots events path (i :: rest)) (hg : g.Coherent roots)
    (h : encounter g strategy declare events path i = .pass news) :
    redefinitions (events ++ news) = redefinitions events ∧
      (g.isPrimitive i = true ∨
        g.isPrimitive i = false ∧ isVisited events (g.rawName i) = true) := by
  rcases encounter_pass h with ⟨hp, rfl⟩ | ⟨hp, -, hvis, ⟨-, rfl⟩ | ⟨-, hfit, -⟩⟩
  · refine ⟨?_, .inl hp⟩
    split <;> simp [redefinitions, Event.redefined?]
  · exact ⟨by simp [redefinitions, Event.redefined?], .inr ⟨hp, hvis⟩⟩
  · rw [hs.valid.fits_of_coherent hg (hs.reachable hp) hvis] at hfit
    cases hfit

theorem pass (hs : Scene g declare roots events path (i :: rest))
    (h : encounter g strategy declare events path i = .pass news) :
    Scene g declare roots (events ++ news) path rest where
  valid := hs.valid.pass h
  occurs := hs.tail.occurs
  above := hs.tail.above
  finished := by
    rw [Finished, elements_append_of_pass h, visited_append_of_pass h]
    exact hs.finished

theorem enter (hs : Scene g declare roots events path (i :: rest))
    (h : encounter g strategy declare events path i = .enter d) :
    Scene g declare roots (events ++ [.declared d]) (i :: path) (g.children i) where
  valid := hs.valid.enter hs.reachable h
  occurs := (hs.reachable (encounter_enter h).2.1).occurs_child
  above p hp := by
    have hprim := (encounter_enter h).2.1
    rcases List.mem_cons.1 hp with rfl | hp
    · exact ⟨hs.reachable hprim, fun c hc hpc => .single ⟨hc, hprim, hpc⟩⟩
    · exact ⟨(hs.above p hp).1, fun c hc hpc =>
        ((hs.above p hp).2 i List.mem_cons_self hprim).tail ⟨hc, hprim, hpc⟩⟩
  finished := by
    intro e he hne below hbelow x hx
    obtain ⟨hei, hep⟩ := not_or.1 (mt List.mem_cons.2 hne)
    rw [elements_append_declared, List.mem_append, List.mem_singleton,
      (declaration?_eq_ok (encounter_enter h).2.2.2.2).2.2.1] at he
    exact visited_mono (List.prefix_append _ _)
      (hs.finished e (he.resolve_right hei) hep below hbelow x hx)

/-- An element is finished when what is below it was visited. -/
theorem leave (hs : Scene g declare roots events path (i :: rest))
    (h : encounter g strategy declare events path i = .enter d)
    (hvisits : Visits g strategy declare (events ++ [.declared d]) (i :: path) (g.children i)
      ⟨mid, none⟩)
    (hbelow : g.Unfolds (g.children i) below)
    (hc : Completed g (events ++ [.declared d]) (i :: path) below ⟨mid, none⟩) :
    Scene g declare roots mid path rest where
  valid := hvisits.valid (hs.enter h).valid (hs.enter h).occurs
  occurs := hs.tail.occurs
  above := hs.tail.above
  finished := by
    intro e he hne below' hbelow' x hx
    by_cases hei : e = i
    · -- the element is no longer on the path, and the visit recorded all names below it
      subst hei
      obtain rfl := hbelow.unique hbelow'
      rw [hc.names, mem_record]
      exact .inr (List.mem_map_of_mem hx)
    · exact hc.finished e he (fun hmem => (List.mem_cons.1 hmem).elim hei hne) below' hbelow' x hx

end Scene

/-- An element that is passed over adds nothing to what is completed after it. -/
theorem Completed.pass (h : encounter g strategy declare events path i = .pass news)
    (hagreed : redefinitions (events ++ news) = redefinitions events)
    (hc : Completed g (events ++ news) path out o) : Completed g events path out o :=
  ⟨hc.success, hc.agreed.trans hagreed, visited_append_of_pass h ▸ hc.names, hc.finished⟩

/-- Nothing is completed anew by elements whose names are declared. -/
theorem Completed.of_subset {known : List ElementId} (hc : Completed g events path out o)
    (hknown : ∀ n ∈ known.map g.name, n ∈ visited events) :
    Completed g events path (known ++ out) o :=
  ⟨hc.success, hc.agreed, by rw [hc.names, List.map_append, record_append,
    record_of_subset hknown], hc.finished⟩

/-- A declared element, what is below it and what comes after it make up the unfolding. -/
theorem Completed.enter {below path' : List ElementId} {mid : List Event}
    (h : encounter g strategy declare events path i = .enter d)
    (hbelow : Completed g (events ++ [.declared d]) path' below ⟨mid, none⟩)
    (hafter : Completed g mid path out o) : Completed g events path (i :: (below ++ out)) o := by
  have hname : g.name i = d.name :=
    Graph.name_eq_of_rawName (name_of_declaration? (encounter_enter h).2.2.2.2)
  refine ⟨hafter.success, hafter.agreed.trans (hbelow.agreed.trans redefinitions_append_declared),
    ?_, hafter.finished⟩
  rw [hafter.names, hbelow.names, visited_append_declared, List.map_cons, hname, List.map_append,
    record_cons_of_not_mem (not_mem_visited_of_enter h), record_append]

/-- **A visit of a coherent schema completes the unfolding of what it visits.** -/
theorem Visits.completed (h : Visits g strategy declare events path is o)
    (hs : Scene g declare roots events path is) (hg : g.Coherent roots)
    (hdeclare : ∀ i, g.Reachable roots i → ∃ d, declaration? g declare i = .ok d)
    (hout : g.Unfolds is out) : Completed g events path out o := by
  induction h generalizing out with
  | nil =>
    cases hout
    exact ⟨rfl, rfl, rfl, hs.finished⟩
  | stop h => exact absurd h (hs.not_stop hg hdeclare)
  | pass h after ih =>
    obtain ⟨hagreed, hp | ⟨hp, hvis⟩⟩ := hs.pass_cases hg h
    · -- a primitive element has no place in the unfolding
      cases hout with
      | visit hp' => rw [hp] at hp'; cases hp'
      | skip _ hrest => exact (ih (hs.pass h) hrest).pass h hagreed
    · cases hout with
      | skip hp' => rw [hp] at hp'; cases hp'
      | visit _ hbelow hrest =>
        -- all that is passed over is declared
        have hknown := hs.valid.below_visited hg hs.finished (hs.reachable hp)
          (hs.rawName_ne hg hp) hvis hbelow
        exact ((ih (hs.pass h) hrest).pass h hagreed).of_subset hknown
  | halt h _ ih =>
    cases hout with
    | skip hp => rw [(encounter_enter h).2.1] at hp; cases hp
    | visit _ hbelow _ => cases (ih (hs.enter h) hbelow).success
  | enter h hvisits _ ihBelow ihAfter =>
    cases hout with
    | skip hp => rw [(encounter_enter h).2.1] at hp; cases hp
    | visit _ hbelow hrest =>
      have hcompleted := ihBelow (hs.enter h) hbelow
      exact hcompleted.enter h (ihAfter (hs.leave h hvisits hbelow hcompleted) hrest)

/-! ### Whole walks -/

/-- The declared names with the texts of their declarations. -/
def namedTexts (events : List Event) : List (Text × Text) :=
  (declarations events).map fun d => (d.name, d.text)

theorem completed_walk (hgen : gen.Standard) (hg : g.Coherent roots) (hout : g.Unfolds roots out) :
    Completed g [] [] out (gen.walk g roots) :=
  (visits_walk gen g roots).completed (.start g _ roots) hg
    (fun _ hi => ⟨_, hg.declaration?_eq hgen hi⟩) hout

/-- All reachable names are declared. -/
theorem name_mem_visited (hgen : gen.Standard) (hg : g.Coherent roots)
    (hi : g.Reachable roots i) : g.name i ∈ visited (gen.walk g roots).events := by
  obtain ⟨out, hout⟩ := hg.acyclic.exists_unfolds
  rw [(completed_walk hgen hg hout).names, mem_record]
  exact .inr (List.mem_map_of_mem (hout.mem_iff.2 hi))

/-- Walks from the same roots in another order declare the same names with the same texts. -/
theorem namedTexts_subset {roots' : List ElementId} (hgen : gen.Standard) (hg : g.Coherent roots)
    (hsub : ∀ r ∈ roots', r ∈ roots) {p : Text × Text}
    (hp : p ∈ namedTexts (gen.walk g roots').events) :
    p ∈ namedTexts (gen.walk g roots).events := by
  obtain ⟨d', hd', rfl⟩ := List.mem_map.1 hp
  have hv' := valid_walk gen g roots'
  have hv := valid_walk gen g roots
  have hreach' := (hv'.reachable d' hd').mono hsub
  have hname' := Graph.name_eq_of_rawName (hv'.rawName_element hd')
  obtain ⟨d, hd, hname⟩ := mem_visited_iff.1 (name_mem_visited hgen hg hreach')
  have hreach := hv.reachable d hd
  have hsame : g.name d.element = g.name d'.element :=
    (Graph.name_eq_of_rawName (hv.rawName_element hd)).trans hname
  have hshape := hg.alike _ _ hreach hreach' (hg.rawName_eq_of_name_eq hreach hreach' hsame)
  -- both texts are given by the name and the shape
  have htext' := Except.ok.inj ((hv'.genuine d' hd').symm.trans (hg.declaration?_eq hgen hreach'))
  have htext := Except.ok.inj ((hv.genuine d hd).symm.trans (hg.declaration?_eq hgen hreach))
  refine List.mem_map.2 ⟨d, hd, Prod.ext (hname.trans hname') ?_⟩
  rw [htext, htext']
  exact hsame ▸ StructTemplates.declarationText_congr hshape (hg.shape_textual hreach')

/-- **Walks of coherent schemas are complete.**  A walk of a schema without cycles that has one
shape for each name comes to its end without warnings, declares the names of the unfolding of its
roots in the order of their first occurrences, and thereby all reachable names; and the order of the
roots does not matter for what is declared. -/
theorem complete (gen : Generator) (g : Graph) (roots : List ElementId) (hgen : gen.Standard)
    (hg : g.Coherent roots) :
    (gen.walk g roots).failure = none ∧ warnings (gen.walk g roots).events = [] ∧
      (∃ out, g.Unfolds roots out) ∧
      (∀ out, g.Unfolds roots out →
        visited (gen.walk g roots).events = (out.map g.name).eraseDups) ∧
      (∀ i, g.Reachable roots i → g.name i ∈ visited (gen.walk g roots).events) ∧
      ∀ roots', roots'.Perm roots → (gen.walk g roots').failure = none ∧
        ∀ p, p ∈ namedTexts (gen.walk g roots').events ↔
          p ∈ namedTexts (gen.walk g roots).events := by
  obtain ⟨out, hout⟩ := hg.acyclic.exists_unfolds
  have hc := completed_walk hgen hg hout
  refine ⟨hc.success, ?_, ⟨out, hout⟩, fun out' hout' => ?_, fun i => name_mem_visited hgen hg,
    fun roots' hperm => ?_⟩
  · rw [warnings, hc.agreed]
    rfl
  · rw [(completed_walk hgen hg hout').names]
    exact record_nil _
  · have hsub : ∀ r ∈ roots', r ∈ roots := fun r hr => hperm.mem_iff.1 hr
    have hsup : ∀ r ∈ roots, r ∈ roots' := fun r hr => hperm.mem_iff.2 hr
    have hg' := hg.mono hsub
    obtain ⟨out', hout'⟩ := hg'.acyclic.exists_unfolds
    exact ⟨(completed_walk hgen hg' hout').success, fun p =>
      ⟨namedTexts_subset hgen hg hsub, namedTexts_subset hgen hg' hsup⟩⟩

/-- An order and a gift.  The order has a shared item and the gift, which has a copy of the item
with a copy of its price. -/
def gifts : Graph :=
  ⟨#[withAttribute "price" "currency",
    { name := .str "item", type := .str "item", children := [0] },
    withAttribute "price" "currency",
    { name := .str "item", type := .str "item", children := [2] },
    { name := .str "gift", type := .str "gift", children := [3] },
    { name := .str "order", type := .str "order", children := [1, 4, 1] }]⟩

theorem coherent_gifts : gifts.Coherent [5, 4] := by
  have hlayered : gifts.Layered := Graph.layered_of_forall_lt (by decide)
  have hbound : ∀ i, gifts.Occurs [5, 4] i → i < 6 := fun i hi =>
    hi.of_closed (P := (· < 6)) (by decide) fun i hi c hc => Nat.lt_trans (hlayered i c hc) hi
  have htextual : ∀ i < 6, (gifts.get i).Textual := by decide
  have halike : ∀ i < 6, ∀ j < 6, gifts.name i = gifts.name j →
      (gifts.shape i).alike (gifts.shape j) = true := by decide
  exact
    { acyclic := hlayered.acyclic
      textual := fun i hi => htextual i (hbound i hi)
      alike := fun i j hi hj h => halike i (hbound i hi.occurs) j (hbound j hj.occurs)
        (congrArg Json.display h) }

theorem complete_gifts :
    ((plainGenerator .error).walk gifts [5, 4]).failure = none ∧
      visited ((plainGenerator .error).walk gifts [5, 4]).events =
        Text.ofStrings ["order", "item", "price", "gift"] ∧
      ∀ p, p ∈ namedTexts ((plainGenerator .error).walk gifts [4, 5]).events ↔
        p ∈ namedTexts ((plainGenerator .error).walk gifts [5, 4]).events := by
  obtain ⟨hsuccess, -, -, hvisited, -, hperm⟩ :=
    complete (plainGenerator .error) gifts [5, 4] (standard_plainGenerator .error) coherent_gifts
  refine ⟨hsuccess, ?_, (hperm [4, 5] (.swap 5 4 [])).2⟩
  have hunfolds : ∃ out, gifts.Unfolds [5, 4] out ∧ (out.map gifts.name).eraseDups =
      Text.ofStrings ["order", "item", "price", "gift"] :=
    ⟨_, .visit rfl (.visit rfl (.visit rfl .nil .nil)
      (.visit rfl (.visit rfl (.visit rfl .nil .nil) .nil)
        (.visit rfl (.visit rfl .nil .nil) .nil)))
      (.visit rfl (.visit rfl (.visit rfl .nil .nil) .nil) .nil), by decide⟩
  obtain ⟨out, hout, hnames⟩ := hunfolds
  exact (hvisited out hout).trans hnames

end Walk

end SchemaStructs
