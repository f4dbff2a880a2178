import SchemaStructs.Proofs.Computation
import SchemaStructs.Proofs.Generator.Printer

/-!
# Balance of generated source

Source that is assembled from the declarations of a walk has balanced braces and closed raw strings,
whatever its names and types are, if none of their characters counts in a source: the backtick, the
slash and the braces (`Source.isInert`).  Newlines and blanks in names do not matter, although they
break the lines of a declaration.

* `Naming.forall_mem_typeName`: the naming passes bring in capital letters, digits and characters of
  upper-case forms only, and none of these counts (`Naming.upperClosed_isInert`);
* `StructTemplates.passes_declarationText`: so the check passes over a declaration from code to
  code, because a comment ends with its line and a tag at its second backtick;
* `Generator.check_of_inert`: the check accepts the whole source, so it is formatted.
-/

namespace SchemaStructs

open Source

/-! ### Names -/

namespace Naming

variable {P : Char → Prop} {t : Text}

theorem forall_mem_normalize (hP : UpperClosed P)
    (hcapital : ∀ c : Char, c.isUpper = true ∨ c.isDigit = true → P c) (ht : ∀ c ∈ t, P c) :
    ∀ c ∈ normalize t, P c := by
  have hsquished : ∀ c ∈ squish (replaceInitialisms t), P c := fun c hc =>
    forall_mem_capitalize hcapital 0 ht c (List.mem_filter.1 hc).1
  have hdashed : ∀ c ∈ dashToCamel (squish (replaceInitialisms t)), P c :=
    forall_mem_foldSeparator hP fun c hc => .inr (hsquished c hc)
  exact forall_mem_foldSeparator hP fun c hc => .inr (hdashed c hc)

theorem forall_mem_normalizeTitle (hP : UpperClosed P)
    (hcapital : ∀ c : Char, c.isUpper = true ∨ c.isDigit = true → P c) (ht : ∀ c ∈ t, P c) :
    ∀ c ∈ normalizeTitle t, P c :=
  forall_mem_normalize hP hcapital (forall_mem_title hP ht)

/-- **A type name has no characters but those of the prefix and the raw name**, and those that the
naming passes bring in. -/
theorem forall_mem_typeName {style : TypeStyle} (hP : UpperClosed P)
    (hcapital : ∀ c : Char, c.isUpper = true ∨ c.isDigit = true → P c)
    (hlead : ∀ c ∈ style.lead, P c) (ht : ∀ c ∈ t, P c) : ∀ c ∈ style.typeName t, P c := by
  have hled : ∀ c ∈ (if style.lead.isEmpty then t else style.lead ++ title t), P c := by
    split
    · exact ht
    · exact List.forall_mem_append.2 ⟨hlead, forall_mem_title hP ht⟩
  rw [TypeStyle.typeName]
  split
  · exact ht
  · dsimp only
    split
    · exact forall_mem_normalize hP hcapital (forall_mem_title hP hled)
    · exact forall_mem_normalize hP hcapital hled

/-- The characters that count in a source are ASCII ones, and neither letters nor digits. -/
theorem eq_of_not_isInert {c : Char} (h : isInert c = false) :
    c = '`' ∨ c = '/' ∨ c = '\x7b' ∨ c = '\x7d' := by
  by_contra hc
  simp only [not_or] at hc
  obtain ⟨htick, hslash, hopen, hclose⟩ := hc
  simp [isInert, htick, hslash, hopen, hclose] at h

theorem isInert_of_avoids {c : Char} {P : Char → Prop}
    (hcounts : ¬ P '`' ∧ ¬ P '/' ∧ ¬ P '\x7b' ∧ ¬ P '\x7d') (hc : P c) : isInert c = true := by
  rw [← Bool.not_eq_false]
  intro h
  rcases eq_of_not_isInert h with rfl | rfl | rfl | rfl
  · exact hcounts.1 hc
  · exact hcounts.2.1 hc
  · exact hcounts.2.2.1 hc
  · exact hcounts.2.2.2 hc

theorem isInert_of_isUpper_or_isDigit (c : Char) (h : c.isUpper = true ∨ c.isDigit = true) :
    isInert c = true :=
  isInert_of_avoids (P := fun c => c.isUpper = true ∨ c.isDigit = true) (by decide) h

/-- Upper-casing brings in no character that counts in a source. -/
theorem upperClosed_isInert : UpperClosed fun c => isInert c = true := by
  intro c hc d hd
  rcases Text.eq_or_isUpper_of_mem_upperChar hd with rfl | hupper | hbeyond
  · exact hc
  · exact isInert_of_isUpper_or_isDigit d (.inl hupper)
  · exact isInert_of_avoids (P := fun d => 128 ≤ d.toNat) (by decide) hbeyond

end Naming

/-! ### Inert names -/

section Inert

variable {t : Text} {j : Json} {style : Naming.TypeStyle}

theorem Naming.all_isInert_normalize (ht : t.all isInert = true) :
    (Naming.normalize t).all isInert = true := by
  rw [List.all_eq_true] at ht ⊢
  exact forall_mem_normalize upperClosed_isInert isInert_of_isUpper_or_isDigit ht

theorem Naming.all_isInert_normalizeTitle (ht : t.all isInert = true) :
    (Naming.normalizeTitle t).all isInert = true := by
  rw [List.all_eq_true] at ht ⊢
  exact forall_mem_normalizeTitle upperClosed_isInert isInert_of_isUpper_or_isDigit ht

theorem Naming.all_isInert_typeName (hlead : style.lead.all isInert = true)
    (ht : t.all isInert = true) : (style.typeName t).all isInert = true := by
  rw [List.all_eq_true] at hlead ht ⊢
  exact forall_mem_typeName upperClosed_isInert isInert_of_isUpper_or_isDigit hlead ht

end Inert

/-- The value is a text of which no character counts in a source. -/
def Json.Inert (j : Json) : Prop := j.text?.any (·.all isInert) = true

instance (j : Json) : Decidable j.Inert := inferInstanceAs (Decidable (_ = _))

/-- The names and types of an element and of its attributes are inert texts. -/
structure Element.Inert (e : Element) : Prop where
  /-- The name is inert. -/
  name : e.name.Inert
  /-- The type is inert. -/
  type : e.type.Inert
  /-- The names and types of the attributes are inert. -/
  attributes : ∀ a ∈ e.attributes, a.name.Inert ∧ a.type.Inert

instance (e : Element) : Decidable e.Inert :=
  decidable_of_iff (e.name.Inert ∧ e.type.Inert ∧ ∀ a ∈ e.attributes, a.name.Inert ∧ a.type.Inert)
    ⟨fun ⟨hname, htype, hattributes⟩ => ⟨hname, htype, hattributes⟩,
      fun h => ⟨h.name, h.type, h.attributes⟩⟩

/-- The prefix of type names and the name of the package are inert texts. -/
structure Settings.Inert (s : Settings) : Prop where
  /-- The prefix is inert. -/
  lead : s.lead.Inert
  /-- The name of the package is inert. -/
  packageName : s.packageName.Inert

variable {s : Settings} {g : Graph} {e : Element} {i : ElementId} {j : Json} {n : Nat} {t : Text}
variable {style : Naming.TypeStyle}

theorem Json.Inert.isText (h : j.Inert) : j.isText = true := (Json.of_any_text? h).1

theorem Json.Inert.all_display (h : j.Inert) : j.display.all isInert = true :=
  (Json.of_any_text? h).2

theorem Element.Inert.textual (h : e.Inert) : e.Textual where
  name := h.name.isText
  type := h.type.isText
  attributes a ha := ⟨(h.attributes a ha).1.isText, (h.attributes a ha).2.isText⟩

theorem Element.Inert.fieldType (h : e.Inert) : e.fieldType.Inert := by
  rw [Element.fieldType]
  split
  · exact h.name
  · exact h.type

/-! ### Parts of a declaration -/

namespace Source

theorem not_mem_of_all_isInert (h : t.all isInert = true) : '`' ∉ t := fun hm =>
  Bool.false_ne_true (List.all_eq_true.1 h _ hm)

/-- What is commented passes: each of its lines is blank or a comment. -/
theorem passes_commented (h : t.all isInert = true) :
    Passes .code n (Template.commented "//" t ++ ['\n']) .code n := by
  have hne : Text.lines t ≠ [] := by
    rw [Text.lines, Text.splitOn_eq_splitOn]
    exact List.splitOn_ne_nil _ _
  rw [Template.commented, Text.unlines_append_newline (by simpa using hne), Text.ended_map]
  refine Passes.flatMap fun line hline => ?_
  have hnewline : '\n' ∉ line := fun hm => by
    simpa using (Text.of_mem_splitWhere hline hm).2
  split
  · have hinert : line.all isInert = true := List.all_eq_true.2 fun c hc =>
      List.all_eq_true.1 h c (Text.of_mem_splitWhere hline hc).1
    exact passes_inert_append hinert (passes_inert_char rfl)
  · have hcomment : '\n' ∉ ' ' :: line := by simpa using hnewline
    exact passes_comment hcomment

/-- Parts that pass from code to code do so with blank lines in between. -/
theorem passes_joinWith {parts : List Text} (h : ∀ p ∈ parts, Passes .code n p .code n) :
    Passes .code n (Text.joinWith "\n\n" parts) .code n := by
  have hgap : Passes .code n ("\n\n" : Text) .code n := passes_inert rfl
  induction parts with
  | nil => exact .nil
  | cons p parts ih =>
    obtain ⟨hp, hparts⟩ := List.forall_mem_cons.1 h
    cases parts with
    | nil => rw [Text.joinWith, List.intercalate_singleton]; exact hp
    | cons q parts =>
      rw [Text.joinWith, List.intercalate_cons_cons]
      exact (hp.append hgap).append (ih hparts)

end Source

namespace Printer

open Naming

/-- A tag whose form has no backtick is a raw string. -/
theorem exists_xmlTag_raw (htick : '`' ∉ t) :
    ∃ u, xmlTag t = '`' :: (u ++ ['`']) ∧ '`' ∉ u := by
  refine ⟨"xml:\"" ++ t ++ "\"", xmlTag_eq_cons t, ?_⟩
  simp only [List.mem_append, not_or]
  exact ⟨⟨by decide, htick⟩, by decide⟩

/-- The fields of an inert element with inert children pass, each on its line. -/
theorem passes_rowsOf (hlead : style.lead.all isInert = true) (he : e.Inert)
    (hchildren : ∀ c ∈ e.children, (g.get c).Inert) :
    Passes .code n (Text.ended ((rowsOf style g e).map Row.rawLine)) .code n := by
  rw [Text.ended_map]
  refine Passes.flatMap fun r hr => ?_
  -- attributes, children and character data
  rcases List.mem_append.1 hr with hr | hr
  · rcases List.mem_append.1 hr with hr | hr
    · obtain ⟨a, ha, rfl⟩ := List.mem_map.1 hr
      obtain ⟨hname, htype⟩ := he.attributes a ha
      have hform : (a.name.display ++ (",attr" : Text)).all isInert = true := by
        rw [List.all_append, hname.all_display]
        rfl
      obtain ⟨u, htag, hu⟩ := exists_xmlTag_raw (not_mem_of_all_isInert hform)
      exact Row.passes_rawLine (all_isInert_normalizeTitle hname.all_display)
        (all_isInert_typeName hlead htype.all_display) htag hu
    · obtain ⟨c, hc, rfl⟩ := List.mem_map.1 hr
      have hc := hchildren c hc
      have htype : (childRow style (g.get c)).type.all isInert = true := by
        rw [childRow, List.all_append, all_isInert_typeName hlead hc.fieldType.all_display]
        cases (g.get c).repeated.truthy <;> rfl
      obtain ⟨u, htag, hu⟩ := exists_xmlTag_raw (not_mem_of_all_isInert hc.name.all_display)
      exact Row.passes_rawLine (all_isInert_normalizeTitle hc.name.all_display) htype htag hu
  · split at hr
    · obtain rfl := List.mem_singleton.1 hr
      obtain ⟨u, htag, hu⟩ := exists_xmlTag_raw (t := ",chardata") (by decide)
      exact Row.passes_rawLine (all_isInert_normalizeTitle he.name.all_display)
        (all_isInert_normalize he.type.all_display) htag hu
    · cases hr

end Printer

open StructTemplates Printer in
/-- **A declaration takes the check from code to code** and leaves the depth of braces as it is. -/
theorem StructTemplates.passes_declarationText (hs : s.style.lead.all isInert = true)
    (hi : (g.get i).Inert) (hchildren : ∀ c ∈ g.children i, (g.get c).Inert) :
    Passes .code n (declarationText s (g.name i) (g.shape i)) .code n := by
  have hname : (s.style.typeName (g.name i)).all isInert = true :=
    Naming.all_isInert_typeName hs hi.name.all_display
  have hcomment : (s.style.typeName (g.name i) ++ " is generated from an XSD element").all
      isInert = true := by
    rw [List.all_append, hname]
    rfl
  have hhead : ("type " : Text) ++ s.style.typeName (g.name i) ++ (" struct \x7b\n" : Text) =
      (structOf s.style g i).head ++ ['\n'] :=
    (List.append_assoc (("type " : Text) ++ s.style.typeName (g.name i)) " struct \x7b" ['\n']).symm
  have htext : declarationText s (g.name i) (g.shape i) =
      (if s.comments.truthy then
          Template.commented "//"
            (s.style.typeName (g.name i) ++ " is generated from an XSD element") ++ ['\n']
        else [])
      ++ (((structOf s.style g i).head ++ ['\n'])
      ++ (Text.ended ((rowsOf s.style g (g.get i)).map Row.rawLine) ++ ("\x7d" : Text))) := by
    rw [ended_rowsOf, ← hhead]
    simp only [declarationText, Graph.shape, List.flatMap_map, List.append_assoc]
    rfl
  rw [htext]
  refine Passes.append ?_ ((Struct.passes_head hname).append
    ((passes_rowsOf hs hi hchildren).append passes_close))
  split
  · exact passes_commented hcomment
  · exact .nil

/-! ### The source -/

namespace Generator

variable {gen : Generator} {roots : List ElementId}

/-- The package clause of an inert name passes, and there is none without a name. -/
theorem exists_packageClause (hgen : gen.Standard) (hs : gen.settings.packageName.Inert) :
    ∃ clause, gen.packageClause? = .ok clause ∧
      ∀ p ∈ clause.toList, Passes .code 0 p .code 0 := by
  cases htruthy : gen.settings.packageName.truthy with
  | false => exact ⟨none, by rw [packageClause?, htruthy]; rfl, fun p hp => by cases hp⟩
  | true =>
    have htext := Json.eq_str_display hs.isText
    have hne : gen.settings.packageName.display ≠ [] := fun hnil => by
      rw [htext, hnil] at htruthy
      cases htruthy
    have hline : (packageLine gen.settings.packageName.display).all isInert = true :=
      (List.all_append ..).trans (Bool.and_eq_true_iff.2 ⟨rfl, hs.all_display⟩)
    have hlines (l : Text) : headerLine ++ "\n\n" ++ l = headerLine ++ ['\n'] ++ (['\n'] ++ l) := by
      rw [List.append_assoc, List.append_assoc]
      rfl
    have hpasses : Passes .code 0
        (headerLine ++ "\n\n" ++ packageLine gen.settings.packageName.display) .code 0 := by
      rw [hlines]
      exact passes_headerLine.append (passes_inert_append rfl (passes_inert hline))
    refine ⟨_, hgen.packageClause?_eq htext hne, fun p hp => ?_⟩
    exact List.mem_singleton.1 hp ▸ hpasses

/-- The declarations of a walk over inert elements pass, each by itself. -/
theorem passes_of_mem_declarationTexts (hgen : gen.Standard)
    (hlead : gen.settings.lead.Inert)
    (hinert : ∀ i, g.Occurs roots i → (g.get i).Inert)
    (ho : (gen.walk g roots).failure = none) :
    ∀ t ∈ declarationTexts (gen.walk g roots).events, Passes .code 0 t .code 0 := by
  have haccount := Walk.account_of_success ho
  intro t ht
  obtain ⟨e, he, hrender⟩ := exists_of_forall₂ haccount.texts.flip ht
  have he := (haccount.reachable e he).2
  have hi := hinert e he.occurs
  have hchildren : ∀ c ∈ g.children e, (g.get c).Inert := fun c hc => hinert c (.inr ⟨e, he, hc⟩)
  rw [hgen.render_eq hi.textual fun c hc => (hchildren c hc).textual.named] at hrender
  obtain rfl := Except.ok.inj hrender
  exact StructTemplates.passes_declarationText hlead.all_display hi hchildren

/-- **The check accepts whatever is generated from inert names.**  After a walk that succeeds, the
source is assembled, its braces are balanced and its raw strings closed, and there is code. -/
theorem check_of_inert (hgen : gen.Standard) (hs : gen.settings.Inert)
    (hinert : ∀ i, g.Occurs roots i → (g.get i).Inert)
    (ho : (gen.walk g roots).failure = none) :
    ∃ source code, gen.source g roots = .ok source ∧ Source.check source = .ok () ∧
      gen.generate g roots = .ok code := by
  obtain ⟨clause, hclause, hpasses⟩ := exists_packageClause hgen hs.packageName
  have hparts : ∀ p ∈ clause.toList ++ declarationTexts (gen.walk g roots).events,
      Passes .code 0 p .code 0 := fun p hp => (List.mem_append.1 hp).elim (hpasses p)
    (passes_of_mem_declarationTexts hgen hs.lead hinert ho p)
  have hcheck := ((passes_joinWith hparts).append (passes_inert_char (c := '\n') rfl)).check_eq
  have hsource : gen.source g roots = .ok (Text.joinWith "\n\n"
      (clause.toList ++ declarationTexts (gen.walk g roots).events) ++ ['\n']) := by
    rw [source_eq_assemble ho, assemble, hclause]
    rfl
  have hformatted : ∃ code, gen.formatted (Text.joinWith "\n\n"
      (clause.toList ++ declarationTexts (gen.walk g roots).events) ++ ['\n']) = .ok code := by
    rw [formatted]
    split
    · exact ⟨_, by rw [format, hcheck]; rfl⟩
    · exact ⟨_, rfl⟩
  obtain ⟨code, hcode⟩ := hformatted
  exact ⟨_, code, hsource, hcheck, by rw [generate, hsource]; exact hcode⟩

/-! ### Crooked names -/

/-- Names that break lines, with quotes, blanks and characters beyond ASCII. -/
def crookedTrees : List Tree :=
  [.node (.str "a\nb-c") (.str "t\r\n") [{ name := .str "\"x\" y", type := .str "ß\n\n" }]
    [.node (.str "q_\t\"") (.str "[]string") [] [] (.bool true) (.bool true)]
    (.bool false) (.bool true)]

/-- The graph of the crooked names: the child comes first. -/
abbrev crooked : Graph := (Graph.ofTrees crookedTrees).1

/-- A generator with a crooked prefix and a crooked package. -/
def crookedGenerator : Generator :=
  let settings : Settings := { packageName := .str "my\npackage ", lead := .str "\n'é" }
  { settings, strategy := .first, library := libraryFor settings }

theorem standard_crookedGenerator : crookedGenerator.Standard := ⟨rfl, rfl⟩

theorem inert_crookedGenerator : crookedGenerator.settings.Inert :=
  ⟨by decide +kernel, by decide +kernel⟩

theorem inert_crooked (h : crooked.Occurs [1] i) : (crooked.get i).Inert := by
  have hinert : ∀ i < 2, (crooked.get i).Inert := by decide +kernel
  exact hinert i (Graph.lt_size_of_occurs crookedTrees h)

theorem failure_crooked : (crookedGenerator.walk crooked [1]).failure = none := by
  have h : (crookedGenerator.walk crooked [1]).failure.isNone = true :=
    Walk.walk_of_outcome? (p := fun o => o.failure.isNone) standard_crookedGenerator 20
      (by decide +kernel)
  simpa using h

theorem check_of_inert_crooked :
    crookedGenerator.Standard ∧ crookedGenerator.settings.Inert ∧
    (∀ i, crooked.Occurs [1] i → (crooked.get i).Inert) ∧
    (crookedGenerator.walk crooked [1]).failure = none ∧
    ∃ source code, crookedGenerator.source crooked [1] = .ok source ∧
      Source.check source = .ok () ∧ crookedGenerator.generate crooked [1] = .ok code :=
  ⟨standard_crookedGenerator, inert_crookedGenerator, fun _ => inert_crooked, failure_crooked,
    check_of_inert standard_crookedGenerator inert_crookedGenerator (fun _ => inert_crooked)
      failure_crooked⟩

end Generator

end SchemaStructs
