import SchemaStructs.Generator.Validation
import SchemaStructs.Proofs.Generator.Declaration
import SchemaStructs.Proofs.Template.Congruence
import SchemaStructs.Proofs.Walk.Account

/-!
# Elements of one shape

The shape of an element sums up what its declaration depends on besides its name.  Elements of one
name and of alike shapes resemble each other (`Graph.Resembles`): their own parts are the same, and
their children have the same fields, one by one (`Graph.SameField`).  What is below the children may
be anything.  Neither the templates nor the validation look further, so the elements have the same
declaration, or fail for the same reason, and the same warnings.

* `Graph.resembles_of_alike`: names and shapes decide what resembles;
* `Generator.render_eq_of_resembles`: the declarations are the same;
* `Generator.elementWarnings?_eq_of_resembles`: so are the warnings;
* `Generator.shape_decides`: all this of two elements of one name and alike shapes.
-/

namespace SchemaStructs

namespace Graph

/-- Two elements have the same field in a struct. -/
structure SameField (g : Graph) (c d : ElementId) : Prop where
  /-- They have the same name. -/
  name : g.rawName c = g.rawName d
  /-- They have the same type. -/
  type : (g.get c).type = (g.get d).type
  /-- Both may occur several times, or neither. -/
  repeated : (g.get c).repeated.truthy = (g.get d).repeated.truthy
  /-- Both carry character data, or neither does. -/
  characterData : (g.get c).characterData.truthy = (g.get d).characterData.truthy

/-- Two elements that have the same own parts and the same fields. -/
structure Resembles (g : Graph) (i j : ElementId) : Prop where
  /-- They have the same name. -/
  name : g.rawName i = g.rawName j
  /-- They have the same type. -/
  type : (g.get i).type = (g.get j).type
  /-- They have the same attributes. -/
  attributes : (g.get i).attributes = (g.get j).attributes
  /-- Both carry character data, or neither does. -/
  characterData : (g.get i).characterData.truthy = (g.get j).characterData.truthy
  /-- Their children have the same fields, one by one. -/
  children : List.Forall₂ g.SameField (g.children i) (g.children j)

variable {g : Graph} {i j c d : ElementId}

theorem SameField.isPrimitive_eq (h : g.SameField c d) :
    (g.get c).isPrimitive = (g.get d).isPrimitive := by
  rw [Element.isPrimitive, Element.isPrimitive, h.characterData, h.type]

theorem SameField.fieldType_eq (h : g.SameField c d) :
    (g.get c).fieldType = (g.get d).fieldType := by
  have hname : (g.get c).name = (g.get d).name := h.name
  rw [Element.fieldType, Element.fieldType, h.characterData, h.type, hname]

/-- **Elements of one name and of alike shapes resemble each other.** -/
theorem resembles_of_alike (htext : (g.shape j).Textual) (hname : g.rawName i = g.rawName j)
    (hshape : (g.shape i).alike (g.shape j) = true) : g.Resembles i j := by
  have hplain := Shape.plain_eq_of_alike hshape htext
  simp only [Shape.plain, shape, List.map_map, Shape.mk.injEq, Json.bool.injEq] at hplain
  obtain ⟨htype, hdata, hattributes, hchildren⟩ := hplain
  refine ⟨hname, htype, ?_, hdata, ?_⟩
  · refine List.map_injective_iff.2 (fun a b hab => ?_) hattributes
    obtain ⟨hn, ht⟩ := Prod.mk.inj hab
    cases a
    cases b
    simp_all
  · rw [← List.forall₂_eq_eq_eq, List.forall₂_map_left_iff, List.forall₂_map_right_iff] at hchildren
    refine hchildren.imp fun c d hcd => ?_
    simp only [Function.comp, Shape.plainChild, Prod.mk.injEq, Json.bool.injEq] at hcd
    exact ⟨hcd.1, hcd.2.1, hcd.2.2.1, hcd.2.2.2⟩

/-- What the shape of an element says of texts. -/
theorem textual_of_shape (h : (g.shape i).Textual) (hname : (g.rawName i).isText = true) :
    (g.get i).Textual ∧ ∀ c ∈ g.children i, (g.get c).Named := by
  refine ⟨⟨hname, h.type, fun a ha => ?_⟩, fun c hc => ?_⟩
  · exact h.attributes (a.name, a.type) (List.mem_map_of_mem ha)
  · obtain ⟨hn, ht⟩ := h.children
      ((g.get c).name, (g.get c).type, (g.get c).repeated, (g.get c).characterData)
      (List.mem_map.2 ⟨c, hc, rfl⟩)
    exact ⟨hn, ht⟩

end Graph

namespace StructTemplates

open Template

variable {g : Graph} {i j c d : ElementId} {s : Settings} {reach : Reach} {depth : Nat}
variable {scope scope' : Scope} {e : Expr} {v w comments structName : Value}
variable {owner field filter form arg : Text}

/-! ### Expressions -/

theorem eval_part_congr (hv : scope.value owner = v) (hw : scope'.value owner = w)
    (h : v.member g field = w.member g field) :
    (part owner field).eval (context s g) reach scope =
      (part owner field).eval (context s g) reach scope' := by
  rw [part, eval_member (eval_named hv), eval_member (eval_named hw)]
  exact h

theorem eval_through_congr
    (he : e.eval (context s g) reach scope = e.eval (context s g) reach scope') :
    (through filter e).eval (context s g) reach scope =
      (through filter e).eval (context s g) reach scope' := by
  rw [through, Expr.eval, Expr.eval, he]
  rfl

theorem eval_named_congr (h : scope.value field = scope'.value field) :
    (Expr.named field).eval (context s g) reach scope =
      (Expr.named field).eval (context s g) reach scope' :=
  congrArg Except.ok h

/-- A flag of two elements that counts the same. -/
theorem truthy_part_congr {j j' : Json} (hv : scope.value owner = v)
    (hw : scope'.value owner = w) (hj : v.member g field = .ok (.json j))
    (hj' : w.member g field = .ok (.json j')) (h : j.truthy = j'.truthy) :
    ((part owner field).eval (context s g) reach scope >>= Value.truthy) =
      ((part owner field).eval (context s g) reach scope' >>= Value.truthy) := by
  rw [eval_part hv hj, eval_part hw hj']
  exact congrArg Except.ok h

/-! ### Forms -/

theorem member_name_eq (h : g.rawName c = g.rawName d) :
    (Value.element c).member g "name" = (Value.element d).member g "name" :=
  congrArg (fun j => Except.ok (Value.json j)) h

/-- The body of the form for a child prints the same for two elements of the same field. -/
theorem sameRun_childForm (h : g.SameField c d) (hc : scope.value "c" = .element c)
    (hd : scope'.value "c" = .element d) :
    SameRun scope scope' (runAll (context s g) reach scope childForm.body)
      (runAll (context s g) reach scope' childForm.body) := by
  have hname : (part "c" "name").eval (context s g) reach scope =
      (part "c" "name").eval (context s g) reach scope' :=
    eval_part_congr hc hd (member_name_eq h.name)
  have htype : (through "field_type" (.named "c")).eval (context s g) reach scope =
      (through "field_type" (.named "c")).eval (context s g) reach scope' := by
    rw [through, eval_filtered (eval_named hc) rfl, eval_filtered (eval_named hd) rfl]
    exact congrArg (fun j => Except.ok (Value.json j)) h.fieldType_eq
  have hbrackets : SameRun scope scope'
      ((Statement.choose (part "c" "list") [.text "[]"] []).run (context s g) reach scope)
      ((Statement.choose (part "c" "list") [.text "[]"] []).run (context s g) reach scope') :=
    sameRun_choose (truthy_part_congr hc hd rfl rfl h.repeated)
      (.cons (sameRun_text _) (.prints []))
  exact .cons (sameRun_output (eval_through_congr hname)) (.cons (sameRun_text _)
    (.cons hbrackets (.cons (sameRun_output (eval_through_congr htype)) (.cons (sameRun_text _)
    (.cons (sameRun_output hname) (.cons (sameRun_text _) (.prints [])))))))

/-- So does that of the form for character data, for two elements that resemble each other. -/
theorem sameRun_characterForm (h : g.Resembles i j) (hi : scope.value "n" = .element i)
    (hj : scope'.value "n" = .element j) :
    SameRun scope scope' (runAll (context s g) reach scope characterForm.body)
      (runAll (context s g) reach scope' characterForm.body) := by
  have hname : (part "n" "name").eval (context s g) reach scope =
      (part "n" "name").eval (context s g) reach scope' :=
    eval_part_congr hi hj (member_name_eq h.name)
  have htype : (part "n" "type").eval (context s g) reach scope =
      (part "n" "type").eval (context s g) reach scope' :=
    eval_part_congr hi hj (congrArg (fun j => Except.ok (Value.json j)) h.type)
  exact .cons (sameRun_output (eval_through_congr hname)) (.cons (sameRun_text _)
    (.cons (sameRun_output (eval_through_congr htype)) (.cons (sameRun_text _) (.prints []))))

theorem apply_childForm_congr (h : g.SameField c d) :
    (reachTo (context s g) (depth + 1)).apply childForm [.element c] =
      (reachTo (context s g) (depth + 1)).apply childForm [.element d] :=
  apply_congr rfl (fun _ => rfl)
    (sameRun_childForm h Scope.value_cons_self Scope.value_cons_self)

theorem apply_characterForm_congr (h : g.Resembles i j) :
    (reachTo (context s g) (depth + 1)).apply characterForm [.element i] =
      (reachTo (context s g) (depth + 1)).apply characterForm [.element j] :=
  apply_congr rfl (fun _ => rfl)
    (sameRun_characterForm h Scope.value_cons_self Scope.value_cons_self)

/-- A line with a form that prints the same for two arguments. -/
theorem sameRun_formed {r : Routine} (hfields : scope.value "fields" = fieldsModule)
    (hfields' : scope'.value "fields" = fieldsModule)
    (hform : fieldsModule.member g form = .ok (.routine r)) (hv : scope.value arg = v)
    (hw : scope'.value arg = w) (h : reach.apply r [v] = reach.apply r [w]) :
    SameRun scope scope'
      (runAll (context s g) reach scope [.text "\t", .output (formed form arg), .text "\n"])
      (runAll (context s g) reach scope' [.text "\t", .output (formed form arg), .text "\n"]) := by
  have hcall : (formed form arg).eval (context s g) reach scope =
      (formed form arg).eval (context s g) reach scope' := by
    rw [formed, eval_call_eq (eval_part hfields hform) (eval_named hv),
      eval_call_eq (eval_part hfields' hform) (eval_named hw), h]
  exact .cons (sameRun_text _) (.cons (sameRun_output hcall) (.cons (sameRun_text _) (.prints [])))

/-! ### The declaration -/

/-- The values that the lines of a declaration are printed with. -/
structure Primed (i : ElementId) (comments structName : Value) (scope : Scope) : Prop where
  /-- The element. -/
  node : scope.value "node" = .element i
  /-- Whether there is a comment. -/
  comments : scope.value "add_comments" = comments
  /-- The forms of a field. -/
  fields : scope.value "fields" = fieldsModule
  /-- The Go name of the element. -/
  structName : scope.value "struct_name" = structName

theorem primed_cons_cons (hnode : scope.value "node" = .element i)
    (hcomments : scope.value "add_comments" = comments) : Primed i comments structName
      (("struct_name", some structName) :: ("fields", some fieldsModule) :: scope) where
  node := (Scope.value_cons_of_ne rfl).trans ((Scope.value_cons_of_ne rfl).trans hnode)
  comments := (Scope.value_cons_of_ne rfl).trans ((Scope.value_cons_of_ne rfl).trans hcomments)
  fields := (Scope.value_cons_of_ne rfl).trans Scope.value_cons_self
  structName := Scope.value_cons_self

theorem sameRun_comment (h : Primed i comments structName scope)
    (h' : Primed j comments structName scope') :
    SameRun scope scope'
      ((Statement.choose (.named "add_comments")
        [.output (through "comment" (.binary .join (.named "struct_name")
          (.literal (.str " is generated from an XSD element")))), .text "\n"] []).run
        (context s g) reach scope)
      ((Statement.choose (.named "add_comments")
        [.output (through "comment" (.binary .join (.named "struct_name")
          (.literal (.str " is generated from an XSD element")))), .text "\n"] []).run
        (context s g) reach scope') := by
  have hcomments : ((Expr.named "add_comments").eval (context s g) reach scope >>= Value.truthy) =
      ((Expr.named "add_comments").eval (context s g) reach scope' >>= Value.truthy) := by
    rw [eval_named_congr (h.comments.trans h'.comments.symm)]
  have hname : (Expr.binary .join (.named "struct_name")
        (.literal (.str " is generated from an XSD element"))).eval (context s g) reach scope =
      (Expr.binary .join (.named "struct_name")
        (.literal (.str " is generated from an XSD element"))).eval (context s g) reach scope' := by
    rw [Expr.eval, Expr.eval, eval_named_congr (h.structName.trans h'.structName.symm)]
    rfl
  exact sameRun_choose hcomments (.cons (sameRun_output (eval_through_congr hname))
    (.cons (sameRun_text _) (.prints [])))

theorem sameRun_attributes (hr : g.Resembles i j) (h : Primed i comments structName scope)
    (h' : Primed j comments structName scope') :
    SameRun scope scope'
      ((Statement.each "a" (part "node" "attribs")
        [.text "\t", .output (formed "attr" "a"), .text "\n"]).run (context s g) reach scope)
      ((Statement.each "a" (part "node" "attribs")
        [.text "\t", .output (formed "attr" "a"), .text "\n"]).run (context s g) reach scope') := by
  refine sameRun_each (eval_part h.node rfl) (eval_part h'.node rfl) ?_
  rw [hr.attributes]
  refine List.forall₂_same.2 fun a _ => ?_
  exact sameRun_formed ((Scope.value_cons_of_ne rfl).trans h.fields)
    ((Scope.value_cons_of_ne rfl).trans h'.fields) rfl Scope.value_cons_self Scope.value_cons_self
    rfl

theorem sameRun_children (hr : g.Resembles i j) (h : Primed i comments structName scope)
    (h' : Primed j comments structName scope') :
    SameRun scope scope'
      ((Statement.each "c" (part "node" "children")
        [.text "\t", .output (formed "child" "c"), .text "\n"]).run (context s g)
        (reachTo (context s g) (depth + 1)) scope)
      ((Statement.each "c" (part "node" "children")
        [.text "\t", .output (formed "child" "c"), .text "\n"]).run (context s g)
        (reachTo (context s g) (depth + 1)) scope') := by
  refine sameRun_each (eval_part h.node rfl) (eval_part h'.node rfl) ?_
  rw [List.forall₂_map_left_iff, List.forall₂_map_right_iff]
  refine hr.children.imp fun c d hcd => ?_
  exact sameRun_formed ((Scope.value_cons_of_ne rfl).trans h.fields)
    ((Scope.value_cons_of_ne rfl).trans h'.fields) rfl Scope.value_cons_self Scope.value_cons_self
    (apply_childForm_congr hcd)

theorem sameRun_characterData (hr : g.Resembles i j) (h : Primed i comments structName scope)
    (h' : Primed j comments structName scope') :
    SameRun scope scope'
      ((Statement.choose (part "node" "cdata")
        [.text "\t", .output (formed "chardata" "node"), .text "\n"] []).run (context s g)
        (reachTo (context s g) (depth + 1)) scope)
      ((Statement.choose (part "node" "cdata")
        [.text "\t", .output (formed "chardata" "node"), .text "\n"] []).run (context s g)
        (reachTo (context s g) (depth + 1)) scope') :=
  sameRun_choose (truthy_part_congr h.node h'.node rfl rfl hr.characterData)
    (sameRun_formed h.fields h'.fields rfl h.node h'.node (apply_characterForm_congr hr))

/-- The program of a declaration prints the same for two elements that resemble each other. -/
theorem printed_recordProgram_eq (hr : g.Resembles i j) (hi : scope.value "node" = .element i)
    (hj : scope'.value "node" = .element j)
    (hcomments : scope.value "add_comments" = scope'.value "add_comments") :
    (runAll (context s g) (reachTo (context s g) (depth + 1)) scope recordProgram).map (·.1) =
      (runAll (context s g) (reachTo (context s g) (depth + 1)) scope' recordProgram).map
        (·.1) := by
  have hname : (through "type_name" (part "node" "name")).eval (context s g)
        (reachTo (context s g) (depth + 1)) (("fields", some fieldsModule) :: scope) =
      (through "type_name" (part "node" "name")).eval (context s g)
        (reachTo (context s g) (depth + 1)) (("fields", some fieldsModule) :: scope') :=
    eval_through_congr (eval_part_congr ((Scope.value_cons_of_ne rfl).trans hi)
      ((Scope.value_cons_of_ne rfl).trans hj) (member_name_eq hr.name))
  refine printed_eq_of_bound (run_load _ _) (run_load _ _) fun fields hfields => ?_
  obtain rfl : fieldsModule = fields := Except.ok.inj (load_fieldsFile.symm.trans hfields)
  refine printed_eq_of_bound (run_assign_eq _ _) ((run_assign_eq _ _).trans (by rw [hname]))
    fun structName _ => ?_
  let bound : Scope := [("struct_name", some structName), ("fields", some fieldsModule)]
  have h : Primed i (scope.value "add_comments") structName (bound ++ scope) :=
    primed_cons_cons hi rfl
  have h' : Primed j (scope.value "add_comments") structName (bound ++ scope') :=
    primed_cons_cons hj hcomments.symm
  have hstruct : (Expr.named "struct_name").eval (context s g) (reachTo (context s g) (depth + 1))
        (bound ++ scope) =
      (Expr.named "struct_name").eval (context s g) (reachTo (context s g) (depth + 1))
        (bound ++ scope') :=
    eval_named_congr (h.structName.trans h'.structName.symm)
  exact SameRun.printed_eq (.cons (sameRun_comment h h') (.cons (sameRun_text _)
    (.cons (sameRun_output hstruct) (.cons (sameRun_text _)
    (.cons (sameRun_attributes hr h h') (.cons (sameRun_children hr h h')
    (.cons (sameRun_characterData hr h h') (.cons (sameRun_text _) (.prints [])))))))))

end StructTemplates

namespace Generator

open Validation StructTemplates

variable {gen : Generator} {g : Graph} {i j : ElementId}

/-- **Elements that resemble each other have the same declaration**, or fail for the same reason. -/
theorem render_eq_of_resembles (hlibrary : gen.library = libraryFor gen.settings)
    (h : g.Resembles i j) : gen.render g i = gen.render g j := by
  have hname : g.name i = g.name j := congrArg Json.display h.name
  have hrender : gen.library.render g recordFile
        [("node", .element i), ("add_comments", .json gen.settings.comments)] =
      gen.library.render g recordFile
        [("node", .element j), ("add_comments", .json gen.settings.comments)] := by
    rw [hlibrary]
    exact Template.Library.render_congr program?_recordFile rfl rfl
      (printed_recordProgram_eq h rfl rfl rfl)
  rw [render, render, hrender, hname]

/-! ### Warnings -/

theorem members?_eq_of_resembles (h : g.Resembles i j) : members? g i = members? g j := by
  have hname : (g.get i).name = (g.get j).name := h.name
  have hchildren : ((g.get i).children.map g.get).map (·.name) =
      ((g.get j).children.map g.get).map (·.name) := by
    rw [List.map_map, List.map_map, ← List.forall₂_eq_eq_eq, List.forall₂_map_left_iff,
      List.forall₂_map_right_iff]
    exact h.children.imp fun c d hcd => hcd.name
  rw [members?, members?, hname, h.attributes, h.characterData, hchildren]

theorem danglingWarning?_eq_of_sameField {c d : ElementId} (h : g.SameField c d)
    (declared : List Text) (struct : Text) :
    gen.danglingWarning? declared struct (g.get c) =
      gen.danglingWarning? declared struct (g.get d) := by
  have hname : (g.get c).name = (g.get d).name := h.name
  rw [danglingWarning?, danglingWarning?, h.isPrimitive_eq, h.fieldType_eq, hname]

/-- **Elements that resemble each other have the same warnings.** -/
theorem elementWarnings?_eq_of_resembles (h : g.Resembles i j) (declared : List Text) :
    gen.elementWarnings? g declared i = gen.elementWarnings? g declared j := by
  have hname : (g.get i).name = (g.get j).name := h.name
  have hchildren : ∀ struct,
      ((g.get i).children.map g.get).mapM (gen.danglingWarning? declared struct) =
        ((g.get j).children.map g.get).mapM (gen.danglingWarning? declared struct) := by
    intro struct
    refine mapM_eq_of_forall₂ ?_
    rw [List.forall₂_map_left_iff, List.forall₂_map_right_iff]
    exact h.children.imp fun c d hcd => danglingWarning?_eq_of_sameField hcd declared struct
  simp only [elementWarnings?, hchildren, members?_eq_of_resembles h, hname, Graph.name]

/-! ### Shapes -/

/-- **The shape decides the declaration.**  If two elements have the same name and alike shapes of
texts, they have the same declaration and the same warnings, whatever types were declared and
whatever is below their children; and their children that are not primitive have the same names in
the same order.  If the name and the prefix of all types are texts as well, there is a
declaration. -/
theorem shape_decides (gen : Generator) (g : Graph) (i j : ElementId)
    (hlibrary : gen.library = libraryFor gen.settings) (htext : (g.shape j).Textual)
    (hname : g.rawName i = g.rawName j) (hshape : (g.shape i).alike (g.shape j) = true) :
    gen.render g i = gen.render g j ∧
    (∀ declared, gen.elementWarnings? g declared i = gen.elementWarnings? g declared j) ∧
    (g.inner (g.children i)).map g.rawName = (g.inner (g.children j)).map g.rawName ∧
    (gen.settings.lead.isText = true → (g.rawName j).isText = true →
      ∃ t, gen.render g i = .ok t) := by
  have h : g.Resembles i j := Graph.resembles_of_alike htext hname hshape
  have hrender : gen.render g i = gen.render g j := render_eq_of_resembles hlibrary h
  refine ⟨hrender, elementWarnings?_eq_of_resembles h, Graph.map_rawName_inner_eq hshape htext,
    fun hlead hj => ?_⟩
  have hgen : gen.Standard := ⟨hlibrary, hlead⟩
  obtain ⟨hown, hchildren⟩ := Graph.textual_of_shape htext hj
  exact ⟨_, hrender.trans (hgen.render_eq hown hchildren)⟩

section Editions

/-- Two editions of a book, with authors of the same field; only the second author has a title,
which is not seen from the book. -/
def editions : Graph :=
  ⟨#[{ name := .str "title", type := .str "string" },
    { name := .str "author", type := .str "person", repeated := .bool true },
    { name := .str "author", type := .str "person", repeated := .bool true, children := [0] },
    { name := .str "book", type := .str "work", characterData := .bool true,
      attributes := [{ name := .str "isbn", type := .str "int" }], children := [0, 1, 0] },
    { name := .str "book", type := .str "work", characterData := .bool true,
      attributes := [{ name := .str "isbn", type := .str "int" }], children := [0, 2, 0] }]⟩

theorem shape_decides_editions :
    (editions.shape 4).Textual ∧ (editions.shape 3).alike (editions.shape 4) = true ∧
    editions.children 1 ≠ editions.children 2 ∧
    ∃ t, (Walk.plainGenerator .first).render editions 3 = .ok t ∧
      (Walk.plainGenerator .first).render editions 4 = .ok t := by
  have htext : (editions.shape 4).Textual := Graph.shape_textual (by decide) (by decide)
  have hshape : (editions.shape 3).alike (editions.shape 4) = true :=
    Shape.alike_refl (editions.shape 4)
  obtain ⟨hrender, -, -, hexists⟩ :=
    shape_decides (Walk.plainGenerator .first) editions 3 4 rfl htext rfl hshape
  obtain ⟨t, ht⟩ := hexists rfl rfl
  exact ⟨htext, hshape, by decide, t, ht, hrender.symm.trans ht⟩

end Editions

end Generator

end SchemaStructs
