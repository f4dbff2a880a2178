import SchemaStructs.Proofs.Generator.Package
import SchemaStructs.Proofs.Schema.Forest
import SchemaStructs.Proofs.Source.Page
import SchemaStructs.Proofs.Walk.Account

/-!
# The printer

The code of a schema of plain names is the text of a page, which can be written down without
templates, and without reading any line again to format it (`Printer.page`):

* a field is a row of three columns, with a tag of its own for each kind of field
  (`Printer.attributeRow`, `Printer.childRow`, `Printer.characterRow`);
* the struct of an element has a row for each attribute, for each child and for the character data
  (`Printer.structOf`);
* the page has the struct of each element that the walk declared, in order.

`Generator.generate_eq_text` says that generating succeeds after every walk that does, and gives
this text.
-/

namespace SchemaStructs

open Naming Source

/-! ### The page of a schema -/

namespace Printer

/-- The tag of a field, with what it says of the XML form. -/
def xmlTag (form : Text) : Text := "`xml:\"" ++ form ++ "\"`"

/-- The field of an attribute. -/
def attributeRow (style : TypeStyle) (a : Attribute) : Row :=
  { name := normalizeTitle a.name.display
    type := style.typeName a.type.display
    tag := xmlTag (a.name.display ++ ",attr") }

/-- The field of a child element. -/
def childRow (style : TypeStyle) (e : Element) : Row :=
  { name := normalizeTitle e.name.display
    type := (if e.repeated.truthy then "[]" else "" : Text) ++ style.typeName e.fieldType.display
    tag := xmlTag e.name.display }

/-- The field of the character data of an element. -/
def characterRow (e : Element) : Row :=
  { name := normalizeTitle e.name.display
    type := normalize e.type.display
    tag := xmlTag ",chardata" }

/-- The fields of an element. -/
def rowsOf (style : TypeStyle) (g : Graph) (e : Element) : List Row :=
  e.attributes.map (attributeRow style)
    ++ e.children.map (fun c => childRow style (g.get c))
    ++ if e.characterData.truthy then [characterRow e] else []

/-- The struct of an element. -/
def structOf (style : TypeStyle) (g : Graph) (i : ElementId) : Struct :=
  { name := style.typeName (g.name i), rows := rowsOf style g (g.get i) }

/-- The page of some elements. -/
def page (s : Settings) (g : Graph) (es : List ElementId) : Page :=
  { package := if s.packageName.truthy then some s.packageName.display else none
    comments := s.comments.truthy
    structs := es.map (structOf s.style g) }

end Printer

/-! ### Plain schemas -/

/-- The names of an element and of its attributes are plain, and so are the types. -/
structure Element.Plain (e : Element) : Prop where
  /-- The name is plain. -/
  name : e.name.text?.any isPlain = true
  /-- The type is plain. -/
  type : e.type.text?.any isPlainType = true
  /-- The names and types of the attributes are plain. -/
  attributes : ∀ a ∈ e.attributes,
    a.name.text?.any isPlain = true ∧ a.type.text?.any isPlainType = true

instance (e : Element) : Decidable e.Plain :=
  decidable_of_iff (e.name.text?.any isPlain = true ∧ e.type.text?.any isPlainType = true ∧
      ∀ a ∈ e.attributes, a.name.text?.any isPlain = true ∧ a.type.text?.any isPlainType = true)
    ⟨fun ⟨hname, htype, hattributes⟩ => ⟨hname, htype, hattributes⟩,
      fun h => ⟨h.name, h.type, h.attributes⟩⟩

/-- The settings ask for formatted code with plain names. -/
structure Settings.Plain (s : Settings) : Prop where
  /-- The code is formatted. -/
  format : s.format.truthy = true
  /-- The prefix is empty or plain. -/
  lead : s.style.lead = [] ∨ isPlain s.style.lead = true
  /-- The package has a proper name, if there is one. -/
  package : s.packageName.truthy = true → s.packageName.text?.any isPackageName = true

variable {s : Settings} {g : Graph} {e : Element} {i : ElementId} {es : List ElementId}
variable {style : TypeStyle} {j : Json} {t : Text} {p : Text → Bool}

theorem Json.of_any_text? (h : j.text?.any p = true) : j.isText = true ∧ p j.display = true := by
  cases j with
  | str t => exact ⟨rfl, h⟩
  | _ => cases h

theorem Element.Plain.textual (h : e.Plain) : e.Textual where
  name := (Json.of_any_text? h.name).1
  type := (Json.of_any_text? h.type).1
  attributes a ha := ⟨(Json.of_any_text? (h.attributes a ha).1).1,
    (Json.of_any_text? (h.attributes a ha).2).1⟩

theorem Element.Plain.isPlainType_fieldType (h : e.Plain) :
    isPlainType e.fieldType.display = true := by
  rw [Element.fieldType]
  split
  · rw [isPlainType, (Json.of_any_text? h.name).2, Bool.true_or]
  · exact (Json.of_any_text? h.type).2

theorem not_mem_of_isPlain {c : Char} (h : isPlain t = true) (hc : c.isAlphanum = false)
    (hsep : isSeparator c = false) : c ∉ t := by
  intro hm
  rcases (isRaw_of_isPlain h).chars c hm with h | h
  · rw [hc] at h; cases h
  · have hseps : [' ', '-', '_'].all isSeparator = true := rfl
    rw [List.all_eq_true.1 hseps c h] at hsep; cases hsep

namespace Printer

/-! ### Rows of words -/

theorem xmlTag_eq (form : Text) : xmlTag form = "`xml:\"" ++ form ++ "\"`" := rfl

/-- A tag stands between backticks. -/
theorem xmlTag_eq_cons (form : Text) :
    xmlTag form = '`' :: ("xml:\"" ++ form ++ "\"" ++ ['`'] : Text) :=
  (List.append_assoc (("`xml:\"" : Text) ++ form) ("\"" : Text) ['`']).symm

/-- A tag is a raw string, if what it says has no backticks. -/
theorem exists_xmlTag_eq (htick : '`' ∉ t) (hnewline : '\n' ∉ t) :
    ∃ u, xmlTag t = '`' :: (u ++ ['`']) ∧ '`' ∉ u ∧ '\n' ∉ u := by
  refine ⟨"xml:\"" ++ t ++ "\"", xmlTag_eq_cons t, ?_, ?_⟩
  all_goals
    simp only [List.mem_append, not_or]
    exact ⟨⟨by decide, by assumption⟩, by decide⟩

theorem fit_attributeRow (hlead : style.lead = [] ∨ isPlain style.lead = true) {a : Attribute}
    (hname : isPlain a.name.display = true) (htype : isPlainType a.type.display = true) :
    (attributeRow style a).Fit where
  name := isGoWord_normalizeTitle hname
  type := ⟨_, isGoType_typeName hlead htype, .inl rfl⟩
  tag := by
    have hform : ∀ c, c.isAlphanum = false → isSeparator c = false → c ∉ (",attr" : Text) →
        c ∉ a.name.display ++ (",attr" : Text) := fun c hc hsep hout hm =>
      (List.mem_append.1 hm).elim (not_mem_of_isPlain hname hc hsep) hout
    exact exists_xmlTag_eq (hform _ rfl rfl (by decide)) (hform _ rfl rfl (by decide))

theorem fit_childRow (hlead : style.lead = [] ∨ isPlain style.lead = true) (h : e.Plain) :
    (childRow style e).Fit where
  name := isGoWord_normalizeTitle (Json.of_any_text? h.name).2
  type := by
    refine ⟨_, isGoType_typeName hlead h.isPlainType_fieldType, ?_⟩
    rw [childRow]
    cases e.repeated.truthy with
    | false => exact .inl rfl
    | true => exact .inr rfl
  tag := exists_xmlTag_eq (not_mem_of_isPlain (Json.of_any_text? h.name).2 rfl rfl)
    (not_mem_of_isPlain (Json.of_any_text? h.name).2 rfl rfl)

theorem fit_characterRow (h : e.Plain) : (characterRow e).Fit where
  name := isGoWord_normalizeTitle (Json.of_any_text? h.name).2
  type := ⟨_, isGoType_normalize (Json.of_any_text? h.type).2, .inl rfl⟩
  tag := exists_xmlTag_eq (by decide) (by decide)

/-- The struct of a plain element with plain children is made of words. -/
theorem fit_structOf (hlead : style.lead = [] ∨ isPlain style.lead = true)
    (hi : (g.get i).Plain) (hchildren : ∀ c ∈ g.children i, (g.get c).Plain) :
    (structOf style g i).Fit := by
  refine ⟨isGoWord_typeName hlead (Json.of_any_text? hi.name).2, fun r hr => ?_⟩
  -- attributes, children and character data
  rcases List.mem_append.1 hr with hr | hr
  · rcases List.mem_append.1 hr with hr | hr
    · obtain ⟨a, ha, rfl⟩ := List.mem_map.1 hr
      exact fit_attributeRow hlead (Json.of_any_text? (hi.attributes a ha).1).2
        (Json.of_any_text? (hi.attributes a ha).2).2
    · obtain ⟨c, hc, rfl⟩ := List.mem_map.1 hr
      exact fit_childRow hlead (hchildren c hc)
  · split at hr
    · exact List.mem_singleton.1 hr ▸ fit_characterRow hi
    · cases hr

/-- The page of plain elements with plain children is made of words. -/
theorem fit_page (hs : s.Plain)
    (hes : ∀ i ∈ es, (g.get i).Plain ∧ ∀ c ∈ g.children i, (g.get c).Plain) :
    (page s g es).Fit where
  package name hname := by
    dsimp only [page] at hname
    split at hname
    · obtain rfl := Option.some.inj hname
      exact (Json.of_any_text? (hs.package ‹_›)).2
    · cases hname
  structs st hst := by
    obtain ⟨i, hi, rfl⟩ := List.mem_map.1 hst
    exact fit_structOf hs.lead (hes i hi).1 (hes i hi).2

/-! ### What the templates print -/

open StructTemplates

theorem fieldLine_attributeField (style : TypeStyle) (a : Attribute) :
    fieldLine (attributeField style a.name.display a.type.display) =
      (attributeRow style a).rawLine ++ ['\n'] := by
  have hopen : (" `xml:\"" : Text) = " " ++ "`xml:\"" := rfl
  have hclose : (",attr\"`" : Text) = ",attr" ++ "\"`" := rfl
  simp [fieldLine, attributeField, attributeRow, Row.rawLine, xmlTag_eq, hopen, hclose]

theorem fieldLine_childField (style : TypeStyle) (e : Element) :
    fieldLine (childField style e.repeated.truthy e.name.display e.fieldType.display) =
      (childRow style e).rawLine ++ ['\n'] := by
  have hopen : (" `xml:\"" : Text) = " " ++ "`xml:\"" := rfl
  simp [fieldLine, childField, childRow, Row.rawLine, xmlTag_eq, hopen]

theorem fieldLine_characterField (e : Element) :
    fieldLine (characterField e.name.display e.type.display) =
      (characterRow e).rawLine ++ ['\n'] := by
  have htag : (" `xml:\",chardata\"`" : Text) = " " ++ xmlTag ",chardata" := rfl
  simp [fieldLine, characterField, characterRow, Row.rawLine, htag]

/-- A comment of one line. -/
theorem commented_eq (hnewline : '\n' ∉ t) (hblank : t.all Text.isBlank = false) :
    Template.commented "//" t = "// " ++ t := by
  have hline : Text.lines t = [t] := Text.splitOn_eq_singleton hnewline
  rw [Template.commented, hline, List.map_singleton, hblank, if_neg Bool.false_ne_true,
    Text.unlines, Text.joinWith, List.intercalate_singleton]
  rfl

theorem ended_rowsOf (style : TypeStyle) (g : Graph) (e : Element) :
    Text.ended ((rowsOf style g e).map Row.rawLine) =
      (e.attributes.flatMap fun a =>
        fieldLine (attributeField style a.name.display a.type.display))
      ++ (e.children.flatMap fun c => fieldLine (childField style (g.get c).repeated.truthy
        (g.get c).name.display (g.get c).fieldType.display))
      ++ if e.characterData.truthy then
          fieldLine (characterField e.name.display e.type.display)
        else [] := by
  simp only [rowsOf, List.map_append, Text.ended_append, List.map_map, Text.ended_map,
    Function.comp_apply, fieldLine_attributeField, fieldLine_childField,
    fieldLine_characterField]
  cases e.characterData.truthy <;> simp

/-- **The declaration of an element is its struct.** -/
theorem declarationText_eq (hlead : s.style.lead = [] ∨ isPlain s.style.lead = true)
    (hi : (g.get i).Plain) :
    declarationText s (g.name i) (g.shape i) ++ ['\n'] =
      Text.ended ((structOf s.style g i).rawLines s.comments.truthy) := by
  have hname : IsGoWord (s.style.typeName (g.name i)) :=
    isGoWord_typeName hlead (Json.of_any_text? hi.name).2
  -- what is commented is one line, so the mark is printed once
  have hcomment : Template.commented "//"
      (s.style.typeName (g.name i) ++ " is generated from an XSD element") =
      (structOf s.style g i).comment := by
    rw [commented_eq, Struct.comment_eq, List.append_assoc]
    · rfl
    · intro hm
      rcases List.mem_append.1 hm with hm | hm
      · exact hname.not_mem rfl hm
      · exact absurd hm (by decide)
    · rw [List.all_append, Bool.and_eq_false_iff]
      exact .inr rfl
  have hhead : ("type " : Text) ++ s.style.typeName (g.name i) ++ (" struct \x7b\n" : Text) =
      (structOf s.style g i).head ++ ['\n'] :=
    (List.append_assoc (("type " : Text) ++ s.style.typeName (g.name i)) " struct \x7b" ['\n']).symm
  have htext : declarationText s (g.name i) (g.shape i) =
      (if s.comments.truthy then (structOf s.style g i).comment ++ ['\n'] else [])
        ++ ((structOf s.style g i).head ++ ['\n'])
        ++ Text.ended ((structOf s.style g i).rows.map Row.rawLine) ++ ("\x7d" : Text) := by
    have hrows : (structOf s.style g i).rows = rowsOf s.style g (g.get i) := rfl
    rw [hrows, ended_rowsOf, ← hhead, ← hcomment]
    simp only [declarationText, Graph.shape, List.flatMap_map, List.append_assoc]
    rfl
  rw [htext, Struct.rawLines, Struct.around]
  cases s.comments.truthy <;> simp

/-! ### The source -/

/-- What the templates print before the declarations of a page. -/
def clause? (pg : Page) : Option Text :=
  pg.package.map fun name => headerLine ++ "\n\n" ++ packageLine name

/-- **The declarations of a page are joined to its paragraphs.** -/
theorem joinWith_declarations {pg : Page} {texts : List Text}
    (h : List.Forall₂ (fun t p => t ++ ['\n'] = Text.ended p) texts
      (pg.structs.map (Struct.rawLines pg.comments))) (hne : pg.rawParagraphs ≠ []) :
    Text.joinWith "\n\n" ((clause? pg).toList ++ texts) ++ ['\n'] =
      Text.ended (Text.spaced pg.rawParagraphs) := by
  rw [clause?]
  rw [Page.rawParagraphs, Page.heading] at hne ⊢
  cases hpackage : pg.package with
  | none =>
    rw [hpackage] at hne
    exact Text.joinWith_newlines h hne
  | some name =>
    -- the comment and the clause are printed together
    have hclause : headerLine ++ "\n\n" ++ packageLine name ++ ['\n'] =
        Text.ended ([headerLine] ++ [] :: [packageLine name]) := by
      have hgap : ("\n\n" : Text) = ['\n', '\n'] := rfl
      simp [hgap]
    rw [List.cons_append, List.singleton_append, ← Text.spaced_append_cons]
    exact Text.joinWith_newlines (.cons hclause h) (List.cons_ne_nil _ _)

/-- **What is joined is formatted to the page**, also if there is nothing to join. -/
theorem format_joinWith {pg : Page} {texts : List Text} (hfit : pg.Fit)
    (h : List.Forall₂ (fun t p => t ++ ['\n'] = Text.ended p) texts
      (pg.structs.map (Struct.rawLines pg.comments))) :
    format (Text.joinWith "\n\n" ((clause? pg).toList ++ texts) ++ ['\n']) = .ok pg.text := by
  by_cases hne : pg.rawParagraphs = []
  · -- only the newline at the end is there, and it goes
    obtain ⟨hheading, hstructs⟩ := List.append_eq_nil_iff.1 hne
    have hpackage : pg.package = none := by
      rw [Page.heading] at hheading
      cases hpackage : pg.package with
      | none => rfl
      | some name => rw [hpackage] at hheading; cases hheading
    rw [hstructs, List.forall₂_nil_right_iff] at h
    have htext : pg.text = [] := by
      rw [Page.text, Page.imports, hheading, List.map_eq_nil_iff.1 hstructs]
      rfl
    rw [clause?, hpackage, h, htext]
    rfl
  · rw [joinWith_declarations h hne, hfit.format_eq]

theorem clause?_page (s : Settings) (g : Graph) (es : List ElementId) :
    clause? (page s g es) = if s.packageName.truthy then
      some (headerLine ++ "\n\n" ++ packageLine s.packageName.display) else none := by
  rw [clause?, page]
  cases s.packageName.truthy <;> rfl

end Printer

/-! ### Generated code -/

namespace Generator

variable {gen : Generator} {roots : List ElementId}

open Printer

theorem packageClause?_eq_clause? (hgen : gen.Standard) (hs : gen.settings.Plain)
    (es : List ElementId) :
    gen.packageClause? = .ok (clause? (page gen.settings g es)) := by
  rw [clause?_page]
  cases htruthy : gen.settings.packageName.truthy with
  | false =>
    rw [packageClause?, htruthy]
    rfl
  | true =>
    obtain ⟨htext, hname⟩ := Json.of_any_text? (hs.package htruthy)
    exact hgen.packageClause?_eq (Json.eq_str_display htext) (of_isPackageName hname).1

theorem source_eq (hgen : gen.Standard) (hs : gen.settings.Plain)
    (ho : (gen.walk g roots).failure = none) :
    gen.source g roots = .ok (Text.joinWith "\n\n"
      ((clause? (page gen.settings g (Walk.elements (gen.walk g roots).events))).toList
        ++ declarationTexts (gen.walk g roots).events) ++ ['\n']) := by
  rw [source_eq_assemble ho, assemble, packageClause?_eq_clause? hgen hs]
  rfl

/-- The texts that a walk declares are those of the structs of its page. -/
theorem forall₂_declarationTexts (hgen : gen.Standard) (hs : gen.settings.Plain)
    (hplain : ∀ i, g.Occurs roots i → (g.get i).Plain)
    (ho : (gen.walk g roots).failure = none) :
    List.Forall₂ (fun t p => t ++ ['\n'] = Text.ended p)
      (declarationTexts (gen.walk g roots).events)
      ((page gen.settings g (Walk.elements (gen.walk g roots).events)).structs.map
        (Struct.rawLines gen.settings.comments.truthy)) := by
  have haccount := Walk.account_of_success ho
  have hreachable : ∀ e ∈ Walk.elements (gen.walk g roots).events, g.Reachable roots e :=
    fun e he => (haccount.reachable e he).2
  rw [page, List.map_map, List.forall₂_map_right_iff]
  refine (((List.forall₂_and_left _ _).2 ⟨hreachable, haccount.texts⟩).imp ?_).flip
  rintro e t ⟨he, hrender⟩
  have hi := hplain e he.occurs
  have hchildren : ∀ c ∈ g.children e, (g.get c).Named := fun c hc =>
    (hplain c (.inr ⟨e, he, hc⟩)).textual.named
  rw [hgen.render_eq hi.textual hchildren] at hrender
  obtain rfl := Except.ok.inj hrender
  exact declarationText_eq hs.lead hi

/-- **Generated code is a printed page.**  After a walk that succeeds on a schema of plain names,
generating gives the text of the page of the declared elements. -/
theorem generate_eq_text (hgen : gen.Standard) (hs : gen.settings.Plain)
    (hplain : ∀ i, g.Occurs roots i → (g.get i).Plain)
    (ho : (gen.walk g roots).failure = none) :
    gen.generate g roots =
      .ok (page gen.settings g (Walk.elements (gen.walk g roots).events)).text := by
  have haccount := Walk.account_of_success ho
  have hfit : (page gen.settings g (Walk.elements (gen.walk g roots).events)).Fit :=
    fit_page hs fun e he => by
      have he := (haccount.reachable e he).2
      exact ⟨hplain e he.occurs, fun c hc => hplain c (.inr ⟨e, he, hc⟩)⟩
  have htexts := forall₂_declarationTexts hgen hs hplain ho
  rw [generate, source_eq hgen hs ho]
  refine Eq.trans (if_pos hs.format) ?_
  rw [format_joinWith hfit htexts]
  rfl

/-! ### A calendar -/

/-- A calendar with an owner, its dates and a note. -/
def calendarTrees : List Tree :=
  [.node (.str "calendar") (.str "calendar") [{ name := .str "owner-id", type := .str "string" }]
    [.node (.str "date") (.str "time.Time") [] [] (.bool true) (.bool false),
      .node (.str "note") (.str "string") [{ name := .str "lang", type := .str "string" }] []
        (.bool false) (.bool true)]
    (.bool false) (.bool false)]

/-- The graph of the calendar: the date and the note come first. -/
abbrev calendar : Graph := (Graph.ofTrees calendarTrees).1

/-- A generator of exported types in a package. -/
def agendaGenerator : Generator :=
  let settings : Settings := { packageName := .str "agenda", exported := .bool true }
  { settings, strategy := .error, library := libraryFor settings }

theorem standard_agendaGenerator : agendaGenerator.Standard := ⟨rfl, rfl⟩

theorem plain_agendaGenerator : agendaGenerator.settings.Plain := ⟨rfl, .inl rfl, fun _ => rfl⟩

theorem plain_calendar (h : calendar.Occurs [2] i) : (calendar.get i).Plain := by
  have hplain : ∀ i < 3, (calendar.get i).Plain := by decide +kernel
  exact hplain i (Graph.lt_size_of_occurs calendarTrees h)

theorem elements_calendar : (agendaGenerator.walk calendar [2]).failure = none ∧
    Walk.elements (agendaGenerator.walk calendar [2]).events = [2, 1] := by
  have h : ((agendaGenerator.walk calendar [2]).failure.isNone &&
      Walk.elements (agendaGenerator.walk calendar [2]).events == [2, 1]) = true :=
    Walk.walk_of_outcome? (p := fun o => o.failure.isNone && Walk.elements o.events == [2, 1])
      standard_agendaGenerator 20 (by decide +kernel)
  simpa using h

theorem generate_eq_text_calendar :
    agendaGenerator.Standard ∧ agendaGenerator.settings.Plain ∧
    (∀ i, calendar.Occurs [2] i → (calendar.get i).Plain) ∧
    (agendaGenerator.walk calendar [2]).failure = none ∧
    agendaGenerator.generate calendar [2] = .ok (Text.unlines (Text.ofStrings
      ["// Code generated by xsdgen. DO NOT EDIT.",
        "",
        "package agenda",
        "",
        "import \"time\"",
        "",
        "// Calendar is generated from an XSD element",
        "type Calendar struct \x7b",
        "\tOwnerID string      `xml:\"owner-id,attr\"`",
        "\tDate    []time.Time `xml:\"date\"`",
        "\tNote    Note        `xml:\"note\"`",
        "\x7d",
        "",
        "// Note is generated from an XSD element",
        "type Note struct \x7b",
        "\tLang string `xml:\"lang,attr\"`",
        "\tNote string `xml:\",chardata\"`",
        "\x7d",
        ""])) := by
  refine ⟨standard_agendaGenerator, plain_agendaGenerator, fun _ => plain_calendar,
    elements_calendar.1, ?_⟩
  rw [generate_eq_text standard_agendaGenerator plain_agendaGenerator (fun _ => plain_calendar)
    elements_calendar.1, elements_calendar.2]
  refine congrArg Except.ok ?_
  simp (disch := exact rfl) only [Text.ofStrings, List.map, StructTemplates.toList_of_eq_ofList]
  decide +kernel

end Generator

end SchemaStructs
