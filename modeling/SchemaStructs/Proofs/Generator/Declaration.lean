import SchemaStructs.Generator.Walk
import SchemaStructs.Proofs.Generator.Programs
import SchemaStructs.Proofs.Schema.Shape
import SchemaStructs.Proofs.Template.Steps

/-!
# The text of a declaration

What the templates of the generator print for an element whose names and types are texts, as a
function of its name and its shape (`declarationText`): the comment if the settings ask for one,
the head, and one line for each attribute, for each child and for the character data.

* `render_eq`: rendering succeeds and gives this text;
* the three forms of a field, `attributeField`, `childField` and `characterField`, are what the
  routines of the templates print (`apply_attributeForm`, `apply_childForm`, `apply_characterForm`).
-/

namespace SchemaStructs

/-- How a run with the settings names its types. -/
def Settings.style (s : Settings) : Naming.TypeStyle :=
  { lead := s.lead.display, exported := s.exported.truthy }

/-- The generator has the templates that come with it, and the prefix of its type names is a
text. -/
structure Generator.Standard (gen : Generator) : Prop where
  /-- The library is the one for the settings. -/
  library_eq : gen.library = Generator.libraryFor gen.settings
  /-- The prefix is a text. -/
  lead_isText : gen.settings.lead.isText = true

namespace StructTemplates

open Template

/-! ### What is printed -/

/-- The field of an attribute. -/
def attributeField (style : Naming.TypeStyle) (name type : Text) : Text :=
  Naming.normalizeTitle name ++ " " ++ style.typeName type ++ " `xml:\"" ++ name ++ ",attr\"`"

/-- The field of a child element. -/
def childField (style : Naming.TypeStyle) (repeated : Bool) (name type : Text) : Text :=
  Naming.normalizeTitle name ++ " " ++ (if repeated then "[]" else "" : Text)
    ++ style.typeName type ++ " `xml:\"" ++ name ++ "\"`"

/-- The field of the character data of an element. -/
def characterField (name type : Text) : Text :=
  Naming.normalizeTitle name ++ " " ++ Naming.normalize type ++ " `xml:\",chardata\"`"

/-- A field on a line of its own. -/
def fieldLine (field : Text) : Text := "\t" ++ field ++ "\n"

/-- The declaration of an element with the given name and shape. -/
def declarationText (s : Settings) (name : Text) (shape : Shape) : Text :=
  (if s.comments.truthy then
      commented "//" (s.style.typeName name ++ " is generated from an XSD element") ++ "\n"
    else [])
    ++ "type " ++ s.style.typeName name ++ " struct \x7b\n"
    ++ (shape.attributes.flatMap fun (n, t) =>
      fieldLine (attributeField s.style n.display t.display))
    ++ (shape.children.flatMap fun (n, t, repeated, characterData) =>
      fieldLine (childField s.style repeated.truthy n.display
        (if characterData.truthy then n else t).display))
    ++ (if shape.characterData.truthy then
        fieldLine (characterField name shape.type.display)
      else [])
    ++ "\x7d"

/-- The text does not depend on how flags are given. -/
theorem declarationText_plain (s : Settings) (name : Text) (shape : Shape) :
    declarationText s name shape.plain = declarationText s name shape := by
  simp only [declarationText, Shape.plain, List.flatMap_map]
  rfl

/-- Alike shapes of texts have the same declaration. -/
theorem declarationText_congr {s : Settings} {name : Text} {a b : Shape} (h : a.alike b = true)
    (hb : b.Textual) : declarationText s name a = declarationText s name b := by
  rw [← declarationText_plain s name a, ← declarationText_plain s name b,
    Shape.plain_eq_of_alike h hb]

/-! ### Filters -/

variable {g : Graph} {i : ElementId} {s : Settings} {scope : Scope} {reach : Reach} {e : Expr}
variable {lead t n : Text} {exported : Bool} {depth : Nat}

theorem apply_typeName : Filter.apply g (.typeName (.str lead) exported) (.json (.str t)) [] =
    .ok (.ofText (Naming.TypeStyle.typeName { lead, exported } t)) := by
  have hrun : Filter.apply g (.typeName (.str lead) exported) (.json (.str t)) [] =
      (Filter.typeNameWith? (.str lead) exported [] t).map .ofText := rfl
  have hname : Filter.typeNameWith? (.str lead) exported [] t =
      .ok (Naming.TypeStyle.typeName { lead, exported } t) := by
    unfold Filter.typeNameWith?
    split
    · rw [Naming.TypeStyle.typeName, if_pos ‹_›]
      rfl
    · rfl
  rw [hrun, hname]
  rfl

/-- The context in which the templates of the generator run. -/
abbrev context (s : Settings) (g : Graph) : Context := (Generator.libraryFor s).context g

theorem eval_typeName (hlead : s.lead.isText = true)
    (he : e.eval (context s g) reach scope = .ok (.ofText t)) :
    (through "type_name" e).eval (context s g) reach scope =
      .ok (.ofText (s.style.typeName t)) := by
  rw [through, eval_filtered he rfl, Json.eq_str_display hlead]
  exact apply_typeName

theorem eval_normalizeTitle (he : e.eval (context s g) reach scope = .ok (.ofText t)) :
    (through "lint_title" e).eval (context s g) reach scope =
      .ok (.ofText (Naming.normalizeTitle t)) := by
  rw [through, eval_filtered he rfl]
  rfl

theorem apply_comment (h : t.all Text.isBlank = false) :
    Filter.apply g .comment (.ofText t) [] = .ok (.ofText (commented "//" t)) := by
  have hrun : Filter.apply g .comment (.ofText t) [] = (do
      return .ofText (← Filter.commentedWith g (.ofText "//") t)) := rfl
  rw [hrun, Filter.commentedWith, h]
  rfl

theorem eval_normalize (he : e.eval (context s g) reach scope = .ok (.ofText t)) :
    (through "lint" e).eval (context s g) reach scope = .ok (.ofText (Naming.normalize t)) := by
  rw [through, eval_filtered he rfl]
  rfl

/-! ### Members -/

variable {owner field : Text} {v w : Value} {j : Json}

theorem eval_part (hv : scope.value owner = v) (hw : v.member g field = .ok w) :
    (part owner field).eval (context s g) reach scope = .ok w :=
  (eval_member (eval_named hv)).trans hw

theorem eval_part_text (hv : scope.value owner = v) (hj : j = .str t)
    (hw : v.member g field = .ok (.json j)) :
    (part owner field).eval (context s g) reach scope = .ok (.ofText t) := by
  rw [eval_part hv hw, hj]
  rfl

theorem eval_fieldType (hv : scope.value owner = .element i)
    (ht : (g.get i).fieldType = .str t) :
    (through "field_type" (.named owner)).eval (context s g) reach scope = .ok (.ofText t) := by
  have happly : Filter.apply g .fieldType (.element i) [] = .ok (.json (g.get i).fieldType) := rfl
  rw [through, eval_filtered (eval_named hv) rfl]
  refine happly.trans ?_
  rw [ht]
  rfl

/-! ### Forms -/

/-- What the template of the fields offers to those who run it. -/
def fieldsModule : Value :=
  .template fieldsFile "\n\n" [("chardata", .routine characterForm), ("child", .routine childForm),
    ("attr", .routine attributeForm)]

/-- Running the template of the fields defines the three forms. -/
theorem load_fieldsFile :
    (reachTo (context s g) (depth + 1)).load fieldsFile = .ok fieldsModule := by
  have hrun : runWith (context s g) (reachTo (context s g) depth)
      (selfNamed (Json.quoted fieldsFile)) fieldsProgram =
      .ok ("\n\n", [("chardata", some (.routine characterForm)),
        ("child", some (.routine childForm)), ("attr", some (.routine attributeForm))]) := rfl
  have hprogram : (context s g).program? fieldsFile = .ok fieldsProgram := program?_fieldsFile
  rw [load_of_run hprogram hrun]
  rfl

/-- The body of the first form prints the field of an attribute. -/
theorem run_attributeForm {a : Attribute} (hlead : s.lead.isText = true)
    (hname : a.name = .str n) (htype : a.type = .str t) (ha : scope.value "a" = .attr a) :
    runAll (context s g) reach scope attributeForm.body =
      .ok (attributeField s.style n t, scope) := by
  have hn : (part "a" "name").eval (context s g) reach scope = .ok (.ofText n) :=
    eval_part_text ha hname rfl
  have ht : (part "a" "type").eval (context s g) reach scope = .ok (.ofText t) :=
    eval_part_text ha htype rfl
  refine Eq.trans (runAll_cons (run_output (eval_normalizeTitle hn)) (runAll_cons run_text
    (runAll_cons (run_output (eval_typeName hlead ht)) (runAll_cons run_text
    (runAll_cons (run_output hn) (runAll_cons run_text runAll_nil)))))) ?_
  simp [attributeField]

/-- The body of the second form prints the field of a child. -/
theorem run_childForm (hlead : s.lead.isText = true) (hname : (g.get i).name = .str n)
    (htype : (g.get i).fieldType = .str t) (hc : scope.value "c" = .element i) :
    runAll (context s g) reach scope childForm.body =
      .ok (childField s.style (g.get i).repeated.truthy n t, scope) := by
  have hn : (part "c" "name").eval (context s g) reach scope = .ok (.ofText n) :=
    eval_part_text hc hname rfl
  have hl : (part "c" "list").eval (context s g) reach scope = .ok (.json (g.get i).repeated) :=
    eval_part hc rfl
  refine Eq.trans (runAll_cons (run_output (eval_normalizeTitle hn)) (runAll_cons run_text
    (runAll_cons (run_choose hl rfl (runAll_cons run_text runAll_nil))
    (runAll_cons (run_output (eval_typeName hlead (eval_fieldType hc htype)))
    (runAll_cons run_text (runAll_cons (run_output hn) (runAll_cons run_text runAll_nil))))))) ?_
  simp [childField]

/-- The body of the third form prints the field of the character data. -/
theorem run_characterForm (hname : (g.get i).name = .str n) (htype : (g.get i).type = .str t)
    (hc : scope.value "n" = .element i) :
    runAll (context s g) reach scope characterForm.body = .ok (characterField n t, scope) := by
  have hn : (part "n" "name").eval (context s g) reach scope = .ok (.ofText n) :=
    eval_part_text hc hname rfl
  have ht : (part "n" "type").eval (context s g) reach scope = .ok (.ofText t) :=
    eval_part_text hc htype rfl
  refine Eq.trans (runAll_cons (run_output (eval_normalizeTitle hn)) (runAll_cons run_text
    (runAll_cons (run_output (eval_normalize ht)) (runAll_cons run_text runAll_nil)))) ?_
  simp [characterField]

/-- A routine of one parameter prints what its body prints for the argument. -/
theorem apply_form {r : Routine} {param : Text} {scope' : Scope}
    (hparams : r.params = [param]) (hopened : Scope.opened [(param, v)] r.body = [(param, some v)])
    (hbody : runAll (context s g) (reachTo (context s g) depth) [(param, some v)] r.body =
      .ok (t, scope')) :
    (reachTo (context s g) (depth + 1)).apply r [v] = .ok t := by
  rw [apply_eq hparams hopened, hbody]
  rfl

theorem apply_attributeForm {a : Attribute} (hlead : s.lead.isText = true)
    (hname : a.name = .str n) (htype : a.type = .str t) :
    (reachTo (context s g) (depth + 1)).apply attributeForm [.attr a] =
      .ok (attributeField s.style n t) :=
  apply_form rfl rfl (run_attributeForm hlead hname htype Scope.value_cons_self)

theorem apply_childForm (hlead : s.lead.isText = true) (hname : (g.get i).name = .str n)
    (htype : (g.get i).fieldType = .str t) :
    (reachTo (context s g) (depth + 1)).apply childForm [.element i] =
      .ok (childField s.style (g.get i).repeated.truthy n t) :=
  apply_form rfl rfl (run_childForm hlead hname htype Scope.value_cons_self)

theorem apply_characterForm (hname : (g.get i).name = .str n) (htype : (g.get i).type = .str t) :
    (reachTo (context s g) (depth + 1)).apply characterForm [.element i] =
      .ok (characterField n t) :=
  apply_form rfl rfl (run_characterForm hname htype Scope.value_cons_self)

/-! ### The declaration -/

/-- The names that the lines of a declaration are printed with. -/
structure Ready (s : Settings) (g : Graph) (i : ElementId) (scope : Scope) : Prop where
  /-- The element. -/
  node : scope.value "node" = .element i
  /-- Whether there is a comment. -/
  comments : scope.value "add_comments" = .json s.comments
  /-- The forms of a field. -/
  fields : scope.value "fields" = fieldsModule
  /-- The Go name of the element. -/
  structName : scope.value "struct_name" = .ofText (s.style.typeName (g.name i))

/-- A form that is applied in the template of a declaration. -/
theorem run_formed {r : Routine} {form arg : Text} (hfields : scope.value "fields" = fieldsModule)
    (hform : fieldsModule.member g form = .ok (.routine r)) (harg : scope.value arg = v)
    (hr : reach.apply r [v] = .ok t) :
    runAll (context s g) reach scope [.text "\t", .output (formed form arg), .text "\n"] =
      .ok (fieldLine t, scope) := by
  have hcall : (formed form arg).eval (context s g) reach scope = .ok (.ofText t) :=
    eval_call (eval_part hfields hform) (eval_named harg) hr
  refine Eq.trans (runAll_cons run_text (runAll_cons (run_output hcall)
    (runAll_cons run_text runAll_nil))) ?_
  simp [fieldLine]

/-- The comment before a declaration, as far as the settings ask for one. -/
theorem run_comment (h : Ready s g i scope) :
    (Statement.choose (.named "add_comments")
      [.output (through "comment" (.binary .join (.named "struct_name")
        (.literal (.str " is generated from an XSD element")))), .text "\n"] []).run
      (context s g) reach scope =
    .ok (if s.comments.truthy then
        commented "//" (s.style.typeName (g.name i) ++ " is generated from an XSD element") ++ "\n"
      else [], scope) := by
  have hblank : ((s.style.typeName (g.name i)) ++ " is generated from an XSD element").all
      Text.isBlank = false := by
    rw [List.all_append, Bool.and_eq_false_iff]
    exact .inr rfl
  have hcomment : (through "comment" (.binary .join (.named "struct_name")
      (.literal (.str " is generated from an XSD element")))).eval (context s g) reach scope =
      .ok (.ofText (commented "//"
        (s.style.typeName (g.name i) ++ " is generated from an XSD element"))) := by
    rw [through, eval_filtered (eval_join (eval_named h.structName) rfl) rfl]
    exact apply_comment hblank
  refine Eq.trans (run_choose (eval_named h.comments) rfl
    (runAll_cons (run_output hcomment) (runAll_cons run_text runAll_nil))) ?_
  simp only [List.append_nil]

theorem run_attributes (hlead : s.lead.isText = true) (h : Ready s g i scope)
    (hattributes : ∀ a ∈ (g.get i).attributes, a.name.isText = true ∧ a.type.isText = true) :
    (Statement.each "a" (part "node" "attribs")
      [.text "\t", .output (formed "attr" "a"), .text "\n"]).run (context s g)
      (reachTo (context s g) (depth + 1)) scope =
    .ok ((g.get i).attributes.flatMap fun a =>
      fieldLine (attributeField s.style a.name.display a.type.display), scope) :=
  run_each (eval_part h.node rfl) fun a ha =>
    ⟨_, run_formed ((Scope.value_cons_of_ne rfl).trans h.fields) rfl Scope.value_cons_self
      (apply_attributeForm hlead (Json.eq_str_display (hattributes a ha).1)
        (Json.eq_str_display (hattributes a ha).2))⟩

theorem run_children (hlead : s.lead.isText = true) (h : Ready s g i scope)
    (hchildren : ∀ c ∈ g.children i, (g.get c).Named) :
    (Statement.each "c" (part "node" "children")
      [.text "\t", .output (formed "child" "c"), .text "\n"]).run (context s g)
      (reachTo (context s g) (depth + 1)) scope =
    .ok ((g.children i).flatMap fun c =>
      fieldLine (childField s.style (g.get c).repeated.truthy (g.get c).name.display
        (g.get c).fieldType.display), scope) :=
  run_each (eval_part h.node rfl) fun c hc =>
    ⟨_, run_formed ((Scope.value_cons_of_ne rfl).trans h.fields) rfl Scope.value_cons_self
      (apply_childForm hlead (Json.eq_str_display (hchildren c hc).name)
        (Json.eq_str_display (hchildren c hc).fieldType))⟩

theorem run_characterData (h : Ready s g i scope) (hi : (g.get i).Textual) :
    (Statement.choose (part "node" "cdata")
      [.text "\t", .output (formed "chardata" "node"), .text "\n"] []).run (context s g)
      (reachTo (context s g) (depth + 1)) scope =
    .ok (if (g.get i).characterData.truthy then
      fieldLine (characterField (g.name i) (g.get i).type.display) else [], scope) :=
  run_choose (eval_part h.node rfl) rfl (run_formed h.fields rfl h.node
    (apply_characterForm (Json.eq_str_display hi.name) (Json.eq_str_display hi.type)))

/-- The scope in which the forms and the Go name of an element are bound. -/
def readied (s : Settings) (g : Graph) (i : ElementId) (scope : Scope) : Scope :=
  ("struct_name", some (.ofText (s.style.typeName (g.name i)))) ::
    ("fields", some fieldsModule) :: scope

theorem ready_readied (hnode : scope.value "node" = .element i)
    (hcomments : scope.value "add_comments" = .json s.comments) :
    Ready s g i (readied s g i scope) where
  node := (Scope.value_cons_of_ne rfl).trans ((Scope.value_cons_of_ne rfl).trans hnode)
  comments := (Scope.value_cons_of_ne rfl).trans ((Scope.value_cons_of_ne rfl).trans hcomments)
  fields := (Scope.value_cons_of_ne rfl).trans Scope.value_cons_self
  structName := Scope.value_cons_self

/-- The program of a declaration prints its text. -/
theorem run_recordProgram (hlead : s.lead.isText = true) (hi : (g.get i).Textual)
    (hchildren : ∀ c ∈ g.children i, (g.get c).Named)
    (hnode : scope.value "node" = .element i)
    (hcomments : scope.value "add_comments" = .json s.comments) :
    runAll (context s g) (reachTo (context s g) (depth + 1)) scope recordProgram =
      .ok (declarationText s (g.name i) (g.shape i), readied s g i scope) := by
  have hload : (Statement.load fieldsFile "fields").run (context s g)
      (reachTo (context s g) (depth + 1)) scope =
      .ok ([], (("fields" : Text), some fieldsModule) :: scope) := by
    rw [Statement.run, load_fieldsFile]
    rfl
  have hname : (part "node" "name").eval (context s g) (reachTo (context s g) (depth + 1))
      ((("fields" : Text), some fieldsModule) :: scope) = .ok (.ofText (g.name i)) :=
    eval_part_text ((Scope.value_cons_of_ne rfl).trans hnode) (Json.eq_str_display hi.name) rfl
  have hready : Ready s g i (readied s g i scope) := ready_readied hnode hcomments
  refine Eq.trans (runAll_cons hload (runAll_cons (run_assign (eval_typeName hlead hname))
    (runAll_cons (run_comment hready)
    (runAll_cons run_text (runAll_cons (run_output (eval_named hready.structName))
    (runAll_cons run_text (runAll_cons (run_attributes hlead hready hi.attributes)
    (runAll_cons (run_children hlead hready hchildren)
    (runAll_cons (run_characterData hready hi) (runAll_cons run_text runAll_nil)))))))))) ?_
  simp only [declarationText, Graph.shape, List.flatMap_map, List.append_assoc, List.append_nil,
    List.nil_append, Element.fieldType]
  rfl

end StructTemplates

open StructTemplates in
/-- **The templates print the declaration text.**  Rendering an element whose names and types are
texts succeeds, if the names and types of its children are texts as well. -/
theorem Generator.Standard.render_eq {gen : Generator} (hgen : gen.Standard) {g : Graph}
    {i : ElementId} (hi : (g.get i).Textual) (hchildren : ∀ c ∈ g.children i, (g.get c).Named) :
    gen.render g i = .ok (declarationText gen.settings (g.name i) (g.shape i)) := by
  have hrender : (Generator.libraryFor gen.settings).render g recordFile
      [("node", .element i), ("add_comments", .json gen.settings.comments)] =
      .ok (declarationText gen.settings (g.name i) (g.shape i)) :=
    Template.Library.render_of_run program?_recordFile rfl
      (run_recordProgram hgen.lead_isText hi hchildren rfl rfl)
  rw [Generator.render, hgen.library_eq]
  exact congrArg _ hrender

open StructTemplates in
theorem Generator.Standard.declare_eq {gen : Generator} (hgen : gen.Standard) {g : Graph}
    {i : ElementId} (hi : (g.get i).Textual) (hchildren : ∀ c ∈ g.children i, (g.get c).Textual) :
    gen.declare g i = .ok (declarationText gen.settings (g.name i) (g.shape i),
      gen.settings.style.typeName (g.name i)) := by
  have hname : (g.get i).name = .str (g.name i) := Json.eq_str_display hi.name
  have htype : gen.typeName? (g.get i).name =
      .ok (gen.settings.style.typeName (g.name i)) := by
    rw [Generator.typeName?, Json.eq_str_display hgen.lead_isText, hname]
    rfl
  rw [Generator.declare, hgen.render_eq hi fun c hc => (hchildren c hc).named, htype]
  rfl

open StructTemplates in
/-- An element whose names and types are texts can be declared. -/
theorem Generator.Standard.declaration?_eq {gen : Generator} (hgen : gen.Standard) {g : Graph}
    {i : ElementId} (hi : (g.get i).Textual) (hchildren : ∀ c ∈ g.children i, (g.get c).Textual) :
    Walk.declaration? g (gen.declare g) i = .ok
      { element := i, name := g.name i, typeName := gen.settings.style.typeName (g.name i)
        shape := g.shape i, text := declarationText gen.settings (g.name i) (g.shape i) } := by
  have hname : (g.get i).name = .str (g.name i) := Json.eq_str_display hi.name
  rw [Walk.declaration?, hgen.declare_eq hi hchildren, hname]

open StructTemplates in
/-- How declarations are made, with the templates run only where names or types are no texts. -/
def Generator.printed (gen : Generator) (g : Graph) : Walk.Declare := fun i =>
  if (g.get i).Textual ∧ ∀ c ∈ g.children i, (g.get c).Textual then
    .ok (declarationText gen.settings (g.name i) (g.shape i),
      gen.settings.style.typeName (g.name i))
  else gen.declare g i

theorem Generator.Standard.declare_eq_printed {gen : Generator} (hgen : gen.Standard) (g : Graph) :
    gen.declare g = gen.printed g := by
  funext i
  unfold Generator.printed
  split
  · exact hgen.declare_eq ‹_ ∧ _›.1 ‹_ ∧ _›.2
  · rfl

end SchemaStructs
