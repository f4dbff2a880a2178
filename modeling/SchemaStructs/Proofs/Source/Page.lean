import SchemaStructs.Proofs.Source.Imports

/-!
# Formatting a page

What the templates print is formatted to the page as it is to look (`Source.Page.Fit.format_eq`):
its braces are balanced, its structs are aligned, its paragraphs stay as they are, and the import
that they need goes after the package clause or to the top.
-/

namespace SchemaStructs

namespace Source

open Naming

variable {r : Row} {s : Struct} {pg : Page} {ps : List (List Text)} {name : Text} {n : Nat}

/-! ### Braces -/

theorem passes_spaced (h : ∀ p ∈ ps, Passes .code n (Text.ended p) .code n) :
    Passes .code n (Text.ended (Text.spaced ps)) .code n := by
  induction ps with
  | nil => exact .nil
  | cons p ps ih =>
    have hp := h p List.mem_cons_self
    have hrest := ih fun q hq => h q (List.mem_cons_of_mem p hq)
    cases ps with
    | nil => rw [Text.spaced_singleton]; exact hp
    | cons q ps =>
      rw [Text.spaced_cons_cons, Text.ended_append, Text.ended_cons, List.nil_append]
      exact hp.append ((passes_inert_char (c := '\n') rfl).append hrest)

theorem IsCode.isInert {t : Text} (h : IsCode t) : t.all isInert = true :=
  List.all_eq_true.2 fun c hc => (of_isCodeChar (h.isCodeChar c hc)).2.1

/-- The line of a field passes if its tag is a raw string and nothing else in it counts. -/
theorem Row.passes_rawLine {t : Text} (hname : r.name.all Source.isInert = true)
    (htype : r.type.all Source.isInert = true) (htag : r.tag = '`' :: (t ++ ['`']))
    (ht : '`' ∉ t) : Passes .code n (r.rawLine ++ ['\n']) .code n := by
  have hline : r.rawLine ++ ['\n'] =
      ("\t" : Text) ++ (r.name ++ ((" " : Text) ++ (r.type ++ ((" " : Text) ++
        ('`' :: (t ++ ['`']) ++ ['\n']))))) := by
    simp [Row.rawLine, htag]
  rw [hline]
  exact passes_inert_append rfl (passes_inert_append hname (passes_inert_append rfl
    (passes_inert_append htype (passes_inert_append rfl
      ((passes_raw ht).append (passes_inert_char rfl))))))

theorem Row.Fit.passes_rawLine (h : r.Fit) :
    Passes .code n (r.rawLine ++ ['\n']) .code n := by
  obtain ⟨t, htag, ht, -⟩ := h.tag
  exact Row.passes_rawLine h.isCode_name.isInert h.isCode_type.isInert htag ht

/-- The head of a struct opens a brace. -/
theorem Struct.passes_head (hname : s.name.all Source.isInert = true) :
    Passes .code n (s.head ++ ['\n']) .code (n + 1) := by
  have hline : s.head ++ ['\n'] =
      ("type " : Text) ++ (s.name ++ (" struct " : Text)) ++ (['\x7b'] ++ ['\n']) := by
    simp [Struct.head_eq]
  rw [hline]
  exact (passes_inert_append rfl (passes_inert_append hname (passes_inert rfl))).append
    (passes_open.append (passes_inert_char rfl))

theorem Struct.Fit.passes_head (h : s.Fit) :
    Passes .code n (s.head ++ ['\n']) .code (n + 1) :=
  Struct.passes_head (isCode_of_isGoWord h.name).isInert

theorem Struct.Fit.passes_comment (h : s.Fit) :
    Passes .code n (s.comment ++ ['\n']) .code n := by
  have hslashes : ("// " : Text) = "//" ++ " " := rfl
  have hline : s.comment ++ ['\n'] =
      "//" ++ (" " ++ (s.name ++ " is generated from an XSD element") : Text) ++ ['\n'] := by
    rw [Struct.comment_eq, hslashes]
    simp only [List.append_assoc]
  have hnewline : '\n' ∉ (" " ++ (s.name ++ " is generated from an XSD element") : Text) := by
    simp only [List.mem_append, not_or]
    exact ⟨by decide, h.name.not_mem rfl, by decide⟩
  rw [hline]
  exact Source.passes_comment hnewline

/-- A struct leaves the depth of braces as it is: its head opens one, which its last line closes. -/
theorem Struct.Fit.passes_rawLines (h : s.Fit) (comments : Bool) :
    Passes .code n (Text.ended (s.rawLines comments)) .code n := by
  have hrows : Passes .code (n + 1) (Text.ended (s.rows.map Row.rawLine)) .code (n + 1) :=
    Passes.flatMap fun l hl => by
      obtain ⟨r, hr, rfl⟩ := List.mem_map.1 hl
      exact (h.rows r hr).passes_rawLine
  have hbrace : Passes .code (n + 1) ("\x7d" ++ ['\n'] : Text) .code n :=
    passes_close.append (passes_inert_char rfl)
  have hended : Text.ended (s.rawLines comments) =
      (if comments then s.comment ++ ['\n'] else []) ++ ((s.head ++ ['\n']) ++
        (Text.ended (s.rows.map Row.rawLine) ++ ("\x7d" ++ ['\n'] : Text))) := by
    rw [Struct.rawLines, Struct.around]
    cases comments <;> simp
  rw [hended]
  -- the tags are raw strings and the comment is one line, so the braces in them do not count
  refine Passes.append ?_ (h.passes_head.append (hrows.append hbrace))
  cases comments with
  | false => exact .nil
  | true => exact h.passes_comment

/-! ### The heading -/

theorem passes_headerLine : Passes .code n (headerLine ++ ['\n']) .code n := by
  have hslashes : headerLine = "//" ++ (" Code generated by xsdgen. DO NOT EDIT." : Text) := rfl
  rw [hslashes]
  exact passes_comment (by decide)

/-- What is known of the line of a heading. -/
structure HeadingLine (l : Text) : Prop where
  /-- It is one line. -/
  not_mem : '\n' ∉ l
  /-- It has no blanks at its end. -/
  tidy : Text.Tidy l
  /-- It opens no struct. -/
  opensStruct_eq : opensStruct (Text.trim l) = false
  /-- Its braces are balanced. -/
  passes : Passes .code 0 (l ++ ['\n']) .code 0
  /-- It does not refer to the `time` package. -/
  refersToTime_eq : refersToTime l = false
  /-- It does not import anything. -/
  importsTime_eq : importsTime l = false

theorem headingLine_headerLine : HeadingLine headerLine where
  not_mem := by decide
  tidy := ⟨by decide, by decide +kernel⟩
  opensStruct_eq := by decide +kernel
  passes := passes_headerLine
  refersToTime_eq := by decide +kernel
  importsTime_eq := by decide +kernel

theorem headingLine_packageLine (h : isPackageName name = true) :
    HeadingLine (packageLine name) := by
  have hname := isCode_of_isPackageName h
  have hline : packageLine name = ("package" : Text) ++ ' ' :: name := rfl
  have hlong : packageLine name = ("package " : Text) ++ name := rfl
  have hdot : '.' ∉ packageLine name := fun hm => by
    rcases List.mem_append.1 (hlong ▸ hm) with hm | hm
    · exact absurd hm (by decide)
    · rcases (of_isPackageName h).2 '.' hm with hc | hc <;> cases hc
  have hpackage : Text.Unbroken "package" := Text.unbroken_of_any (by decide) rfl
  have hwords : Text.words (packageLine name) = [("package" : Text), name] := by
    rw [hline, hpackage.words_append_cons rfl, hname.unbroken.words_eq]
  have htidy : Text.Tidy (packageLine name) := hname.unbroken.tidy_append "package "
  have hout : ∀ c, isCodeChar c = false → c ∉ ("package " : Text) → c ∉ packageLine name :=
    fun c hc hbefore hm => (List.mem_append.1 hm).elim hbefore fun hm => by
      rw [hname.isCodeChar c hm] at hc; cases hc
  have htrim : Text.trim (packageLine name) = packageLine name := by
    have hleft : Text.trimLeft (packageLine name) = packageLine name := rfl
    rw [Text.trim, hleft, htidy.trimRight_eq]
  exact
    { not_mem := hout _ rfl (by decide)
      tidy := htidy
      opensStruct_eq := by rw [htrim]; exact opensStruct_eq_false hwords (by decide)
      passes := by
        rw [hlong, List.append_assoc]
        exact passes_inert_append rfl
          (passes_inert_append hname.isInert (passes_inert_char rfl))
      refersToTime_eq := refersToTime_eq_false hdot (hout _ rfl (by decide))
      importsTime_eq := importsTime_of_first hwords (by decide) (by decide) }

theorem headingLine_of_mem (h : pg.Fit) {p : List Text} (hp : p ∈ pg.heading) :
    ∃ l, p = [l] ∧ HeadingLine l := by
  rw [Page.heading] at hp
  cases hpackage : pg.package with
  | none => rw [hpackage] at hp; cases hp
  | some name =>
    rw [hpackage] at hp
    rcases List.mem_cons.1 hp with rfl | hp
    · exact ⟨_, rfl, headingLine_headerLine⟩
    · exact ⟨_, List.mem_singleton.1 hp, headingLine_packageLine (h.package name hpackage)⟩

/-! ### Lines of structs -/

theorem Row.rawLine_eq_line (r : Row) : r.rawLine = r.line 0 0 := by
  simp [Row.rawLine, Row.line, Text.padRight]

theorem Row.Fit.not_mem_line (h : r.Fit) (m n : Nat) : '\n' ∉ r.line m n := by
  obtain ⟨t, htag, -, ht⟩ := h.tag
  rw [Row.line_eq, htag]
  intro hm
  rcases List.mem_append.1 hm with hm | hm
  · exact h.not_mem_columns m n rfl (by decide) (by decide) hm
  · simp [ht] at hm

/-- The lines of a struct are lines, whatever its columns are padded to. -/
theorem Struct.Fit.not_mem_around (h : s.Fit) (comments : Bool) (m n : Nat) :
    ∀ l ∈ s.around comments (s.rows.map (Row.line m n)), '\n' ∉ l := by
  have hcomment : '\n' ∉ s.comment := by
    simp only [Struct.comment_eq, List.mem_append, not_or]
    exact ⟨⟨by decide, h.name.not_mem rfl⟩, by decide⟩
  refine Struct.forall_around hcomment (h.not_mem_head rfl (by decide) (by decide))
    (fun l hl => ?_) (by decide)
  obtain ⟨r, hr, rfl⟩ := List.mem_map.1 hl
  exact (h.rows r hr).not_mem_line m n

theorem Struct.Fit.not_mem_rawLines (h : s.Fit) (comments : Bool) :
    ∀ l ∈ s.rawLines comments, '\n' ∉ l := by
  rw [Struct.rawLines, List.map_congr_left fun r _ => r.rawLine_eq_line]
  exact h.not_mem_around comments 0 0

/-- The aligned lines of a struct have no blanks at their ends. -/
theorem Struct.Fit.tidy_lines (h : s.Fit) (comments : Bool) :
    ∀ l ∈ s.lines comments, Text.Tidy l := by
  have hbrace : Text.Tidy ("\x7d" : Text) := ⟨by decide, rfl⟩
  refine Struct.forall_around s.tidy_comment s.tidy_head (fun l hl => ?_) hbrace
  obtain ⟨r, hr, rfl⟩ := List.mem_map.1 hl
  rw [Row.line_eq]
  exact tidy_append_of_isTag ((h.rows r hr).proper_field.tag _ rfl) _

/-! ### Paragraphs -/

/-- The paragraphs of the page but for the import. -/
def Page.paragraphs (pg : Page) : List (List Text) :=
  pg.heading ++ pg.structs.map (Struct.lines pg.comments)

/-- What holds of the paragraphs of a page, one kind of paragraph at a time. -/
theorem Page.Fit.forall_paragraphs {P : List Text → Prop} {f : Struct → List Text} (h : pg.Fit)
    (hheading : ∀ l, HeadingLine l → P [l]) (hstructs : ∀ s, s.Fit → P (f s)) :
    ∀ p ∈ pg.heading ++ pg.structs.map f, P p := by
  intro p hp
  rcases List.mem_append.1 hp with hp | hp
  · obtain ⟨l, rfl, hl⟩ := headingLine_of_mem h hp
    exact hheading l hl
  · obtain ⟨s, hs, rfl⟩ := List.mem_map.1 hp
    exact hstructs s (h.structs s hs)

/-- The braces of a page are balanced. -/
theorem Page.Fit.check_eq (h : pg.Fit) :
    check (Text.ended (Text.spaced pg.rawParagraphs)) = .ok () := by
  have hparagraphs : ∀ p ∈ pg.rawParagraphs, Passes .code 0 (Text.ended p) .code 0 :=
    h.forall_paragraphs (fun l hl => by simpa using hl.passes)
      fun s hs => hs.passes_rawLines pg.comments
  exact (passes_spaced hparagraphs).check_eq

/-- Every paragraph is aligned on its own. -/
theorem Page.Fit.aligns (h : pg.Fit) : List.Forall₂ Aligns pg.rawParagraphs pg.paragraphs := by
  have hheading : List.Forall₂ Aligns pg.heading pg.heading := List.forall₂_same.2 fun p hp => by
    obtain ⟨l, rfl, hl⟩ := headingLine_of_mem h hp
    exact aligns_line hl.opensStruct_eq
  have hstructs : List.Forall₂ Aligns (pg.structs.map (Struct.rawLines pg.comments))
      (pg.structs.map (Struct.lines pg.comments)) := by
    rw [List.forall₂_map_left_iff, List.forall₂_map_right_iff, List.forall₂_same]
    exact fun s hs => (h.structs s hs).alignFrom_rawLines pg.comments
  exact List.rel_append hheading hstructs

/-- The lines of the paragraphs have no blanks at their ends. -/
theorem Page.Fit.tidy_paragraphs (h : pg.Fit) :
    ∀ p ∈ pg.paragraphs, p ≠ [] ∧ ∀ l ∈ p, Text.Tidy l := by
  refine h.forall_paragraphs (fun l hl => ⟨List.cons_ne_nil l [], fun l' hl' => ?_⟩)
    fun s hs => ⟨by simp [Struct.lines, Struct.around], hs.tidy_lines pg.comments⟩
  rw [List.mem_singleton.1 hl']
  exact hl.tidy

/-- **A page is laid out paragraph by paragraph.** -/
theorem Page.Fit.layout_eq (h : pg.Fit) :
    layout (Text.ended (Text.spaced pg.rawParagraphs)) =
      Text.ended (Text.spaced pg.paragraphs) := by
  have hlines : ∀ raw ∈ pg.rawParagraphs, ∀ l ∈ raw, '\n' ∉ l :=
    h.forall_paragraphs (fun l hl l' hl' => List.mem_singleton.1 hl' ▸ hl.not_mem)
      fun s hs => hs.not_mem_rawLines pg.comments
  exact layout_ended_spaced hlines h.aligns h.tidy_paragraphs

/-! ### The import -/

theorem Page.Fit.lines_eq (h : pg.Fit) :
    Text.lines (Text.ended (Text.spaced pg.paragraphs)) = Text.spaced pg.paragraphs ++ [[]] := by
  have hlines : ∀ p ∈ pg.paragraphs, ∀ l ∈ p, '\n' ∉ l := by
    refine h.forall_paragraphs (fun l hl l' hl' => List.mem_singleton.1 hl' ▸ hl.not_mem)
      fun s hs => hs.not_mem_around pg.comments _ _
  refine Text.lines_ended fun l hl => ?_
  rcases Text.mem_spaced hl with rfl | ⟨p, hp, hl⟩
  · exact List.not_mem_nil
  · exact hlines p hp l hl

/-- What some line of a laid out page has, one of its heading or of its structs has. -/
theorem Page.Fit.any_lines (h : pg.Fit) {f : Text → Bool} (hblank : f [] = false) :
    (Text.lines (Text.ended (Text.spaced pg.paragraphs))).any f =
      (pg.heading.any (·.any f) || pg.structs.any fun s => (s.lines pg.comments).any f) := by
  rw [h.lines_eq, List.any_append, Text.any_spaced hblank, Page.paragraphs, List.any_append,
    List.any_map, List.any_cons, hblank, List.any_nil, Bool.or_false, Bool.or_false]
  rfl

theorem Page.Fit.any_heading_eq_false (h : pg.Fit) {f : Text → Bool}
    (hf : ∀ l, HeadingLine l → f l = false) : pg.heading.any (·.any f) = false := by
  rw [List.any_eq_false]
  intro p hp
  obtain ⟨l, rfl, hl⟩ := headingLine_of_mem h hp
  rw [List.any_cons, List.any_nil, hf l hl]
  exact Bool.false_ne_true

theorem any_structs_eq_false {f : Text → Bool}
    (hf : ∀ s ∈ pg.structs, ∀ l ∈ s.lines pg.comments, f l = false) :
    (pg.structs.any fun s => (s.lines pg.comments).any f) = false := by
  rw [List.any_eq_false]
  intro s hs
  rw [Bool.not_eq_true, List.any_eq_false]
  exact fun l hl => Bool.not_eq_true _ ▸ hf s hs l hl

/-- **The laid out page refers to the `time` package if a struct needs it.** -/
theorem Page.Fit.usesTime_eq (h : pg.Fit) :
    usesTime (Text.ended (Text.spaced pg.paragraphs)) = pg.structs.any Struct.needsTime := by
  have huses : ∀ source, usesTime source = (Text.lines source).any refersToTime := fun _ => rfl
  rw [huses, h.any_lines rfl, h.any_heading_eq_false fun l hl => hl.refersToTime_eq,
    Bool.false_or, Bool.eq_iff_iff, List.any_eq_true, List.any_eq_true]
  refine exists_congr fun s => and_congr_right fun hs => ?_
  rw [(h.structs s hs).any_refersToTime]

/-- There is no import yet. -/
theorem Page.Fit.any_importsTime (h : pg.Fit) :
    (Text.lines (Text.ended (Text.spaced pg.paragraphs))).any importsTime = false := by
  rw [h.any_lines rfl, h.any_heading_eq_false fun l hl => hl.importsTime_eq, Bool.false_or]
  exact any_structs_eq_false fun s hs => (h.structs s hs).importsTime_eq_false pg.comments

theorem isPackageClause_headerLine : isPackageClause headerLine = false := by decide +kernel

theorem isPackageClause_packageLine (name : Text) : isPackageClause (packageLine name) = true := by
  have hline : packageLine name = ("package " : Text) ++ name := rfl
  rw [isPackageClause, hline, List.isPrefixOf_iff_prefix]
  exact List.prefix_append _ _

/-- A page without a package has no package clause. -/
theorem Page.Fit.any_isPackageClause (h : pg.Fit) :
    (Text.lines (Text.ended (Text.spaced pg.paragraphs))).any isPackageClause =
      pg.package.isSome := by
  rw [h.any_lines rfl,
    any_structs_eq_false fun s _ => s.isPackageClause_eq_false pg.comments, Bool.or_false,
    Page.heading]
  cases pg.package with
  | none => rfl
  | some name => simp [isPackageClause_headerLine, isPackageClause_packageLine]

/-- The place of the import. -/
theorem Page.Fit.importPlace_eq (h : pg.Fit) :
    importPlace (Text.ended (Text.spaced pg.paragraphs)) =
      if pg.structs.any Struct.needsTime then
        if pg.package.isSome then .afterPackage else .top
      else .nowhere := by
  rw [importPlace, h.usesTime_eq, h.any_importsTime, h.any_isPackageClause, Bool.or_false]
  cases pg.structs.any Struct.needsTime <;> rfl

/-- **The import that the structs need** is put at its place. -/
theorem Page.Fit.resolveImports_eq (h : pg.Fit) :
    resolveImports (Text.ended (Text.spaced pg.paragraphs)) = pg.text := by
  have himport : timeImport = importLine := rfl
  rw [resolveImports, h.importPlace_eq, Page.text, Page.imports, h.lines_eq, Page.paragraphs]
  cases hneeds : pg.structs.any Struct.needsTime with
  | false => simp
  | true =>
    -- a struct that needs the import comes after it
    obtain ⟨s, ss, hss⟩ : ∃ s ss, pg.structs = s :: ss := by
      cases hstructs : pg.structs with
      | nil => rw [hstructs] at hneeds; cases hneeds
      | cons s ss => exact ⟨s, ss, rfl⟩
    rw [hss, Page.heading, himport, if_pos rfl, if_pos rfl, List.map_cons]
    cases pg.package with
    | none =>
      simp [Text.spaced_cons_cons]
    | some name =>
      have hinsert : ∀ rest, insertAfterPackage [[], importLine]
          (headerLine :: [] :: packageLine name :: rest) =
          headerLine :: [] :: packageLine name :: [] :: importLine :: rest := by
        intro rest
        simp only [insertAfterPackage, isPackageClause_headerLine, isPackageClause_packageLine]
        rfl
      simp [Text.spaced_cons_cons, hinsert, ← Text.unlines_append_nil]

/-- **Formatting gives the page**: what the templates print for a page of words is formatted to its
text. -/
theorem Page.Fit.format_eq (h : pg.Fit) :
    format (Text.ended (Text.spaced pg.rawParagraphs)) = .ok pg.text := by
  rw [format, h.check_eq, h.layout_eq, h.resolveImports_eq]
  rfl

end Source

end SchemaStructs
