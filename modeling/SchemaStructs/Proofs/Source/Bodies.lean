import SchemaStructs.Proofs.Source.Content

/-!
# How formatted source looks

Formatted source is laid out (`Source.format_laidOut`), whatever the source was:

* it is empty, or it starts with a line that is not blank and ends in one newline; no line has
  blanks at its end, and no two blank lines follow each other (`Source.Collapsed.isChain`);
* in a struct body that is closed, every line starts with one tab, the types of all fields start in
  one column and the tags in another (`Source.inColumns_alignBody`).

The columns are found in the lines themselves: the widths are those of the fields that are read in
the body as it was put out, not of those that were read in the source.

A struct that is not closed is the last one, since all that follows belongs to it
(`Source.exists_last_head`).  So the lines are in columns up to it (`Source.ClosedColumned`), and
they stay so when blank lines are collapsed and the import is put in, even if its place is in the
open body.
-/

namespace SchemaStructs

namespace Source

/-! ### Struct bodies -/

/-- The lines of each struct body that is closed; `body` holds the lines of one that is open. -/
def bodiesFrom (body : Option (List Text)) : List Text → List (List Text)
  | [] => []
  | line :: rest =>
    match body with
    | none => bodiesFrom (if opensStruct (Text.trim line) then some [] else none) rest
    | some body =>
      if Text.trim line = ['\x7d'] then body :: bodiesFrom none rest
      else bodiesFrom (some (body ++ [line])) rest

/-- The lines of each struct body that is closed.  A body is what stands between a line that opens a
struct, outside of other bodies, and the next line that is a closing brace. -/
def bodies (lines : List Text) : List (List Text) := bodiesFrom none lines

/-- The fields that are read in the lines of a body. -/
def fieldsOf (body : List Text) : List Field := (body.map Text.trim).filterMap Field.ofLine?

/-- Where the types of the fields of a body start: after the tab, the longest name and a space. -/
def typeColumn (body : List Text) : Nat := 1 + longest ((fieldsOf body).map (·.name)) + 1

/-- Where the tags of the fields of a body start: after the longest type of a field that has one,
and a space. -/
def tagColumn (body : List Text) : Nat :=
  typeColumn body + longest (((fieldsOf body).filter (·.tag.isSome)).map (·.type)) + 1

/-- The line is the field after a tab, with spaces up to its type and up to its tag, so that these
start at the given places. -/
def Field.StandsAt (typeAt tagAt : Nat) (f : Field) (line : Text) : Prop :=
  ∃ gap gap' : Nat,
    line = '\t' :: (f.name ++ (List.replicate gap ' ' ++
      (f.type ++ (List.replicate gap' ' ' ++ f.tag.getD [])))) ∧
    1 + f.name.length + gap = typeAt ∧
    (f.tag ≠ none → typeAt + f.type.length + gap' = tagAt)

/-- The lines of a struct body are in columns. -/
structure InColumns (body : List Text) : Prop where
  /-- Every line starts with one tab, and then comes what is no blank. -/
  tab : ∀ l ∈ body, ∃ c rest, l = '\t' :: c :: rest ∧ Text.isBlank c = false
  /-- Types and tags of all fields start in their columns. -/
  fields : ∀ l ∈ body, ∀ f, Field.ofLine? (Text.trim l) = some f →
    f.StandsAt (typeColumn body) (tagColumn body) l

/-- The source is laid out. -/
structure LaidOut (t : Text) : Prop where
  /-- It is empty, or ends in one newline. -/
  ends : t = [] ∨ ∃ s c, t = s ++ [c, '\n'] ∧ c ≠ '\n'
  /-- It is empty, or its first line is not blank. -/
  starts : t = [] ∨ ∃ l ls, Text.lines t = l :: ls ∧ ¬ Text.IsGap l
  /-- No line has blanks at its end. -/
  trailing : ∀ l ∈ Text.lines t, Text.trimRight l = l
  /-- Of two lines that follow each other one is not blank. -/
  spacing : (Text.lines t).IsChain fun l l' => ¬ (Text.IsGap l ∧ Text.IsGap l')
  /-- The struct bodies that are closed are in columns. -/
  columns : ∀ body ∈ bodies (Text.lines t), InColumns body

variable {source t l : Text} {ls rest done tail body new : List Text} {started gap : Bool}
variable {f : Field} {m n : Nat} {place : ImportPlace}

/-! ### Lines without superfluous blanks -/

/-- After a line that is not blank, collapsed lines have no two blank lines that follow each other,
also with the empty line after the last newline. -/
theorem Collapsed.isChain_cons (h : Collapsed started ls) {before : Text}
    (hbefore : Text.Tidy before) :
    (before :: (ls ++ [[]])).IsChain fun l l' => ¬ (Text.IsGap l ∧ Text.IsGap l') := by
  have hleft {l l' : Text} (hl : Text.Tidy l) : ¬ (Text.IsGap l ∧ Text.IsGap l') := fun hgaps =>
    hl.not_isGap hgaps.1
  have hright {l l' : Text} (hl : Text.Tidy l') : ¬ (Text.IsGap l ∧ Text.IsGap l') := fun hgaps =>
    hl.not_isGap hgaps.2
  induction h generalizing before with
  | nil => exact .cons_cons (hleft hbefore) (.singleton [])
  | line hl hrest ih => exact .cons_cons (hleft hbefore) (ih hl)
  | gap hl hrest ih => exact .cons_cons (hleft hbefore) (.cons_cons (hright hl) (ih hl))

theorem Collapsed.isChain (h : Collapsed false ls) :
    (ls ++ [[]]).IsChain fun l l' => ¬ (Text.IsGap l ∧ Text.IsGap l') := by
  cases h with
  | nil => exact .singleton []
  | line hl hrest => exact hrest.isChain_cons hl

/-- The last one of collapsed lines is not blank. -/
theorem Collapsed.eq_nil_or_concat (h : Collapsed started ls) :
    ls = [] ∨ ∃ before l, ls = before ++ [l] ∧ Text.Tidy l := by
  -- a line after which there are no more is the last one
  have hstep {l : Text} {rest : List Text} (hl : Text.Tidy l)
      (ih : rest = [] ∨ ∃ before l, rest = before ++ [l] ∧ Text.Tidy l) :
      ∃ before last, l :: rest = before ++ [last] ∧ Text.Tidy last := by
    obtain rfl | ⟨before, last, rfl, hlast⟩ := ih
    · exact ⟨[], l, rfl, hl⟩
    · exact ⟨l :: before, last, rfl, hlast⟩
  induction h with
  | nil => exact .inl rfl
  | line hl hrest ih => exact .inr (hstep hl ih)
  | gap hl hrest ih =>
    obtain ⟨before, last, heq, hlast⟩ := hstep hl ih
    exact .inr ⟨[] :: before, last, by rw [heq]; rfl, hlast⟩

theorem Collapsed.trimRight_eq (h : Collapsed started ls) : ∀ l ∈ ls, Text.trimRight l = l := by
  induction h with
  | nil => exact fun l hl => by cases hl
  | line hl hrest ih => exact List.forall_mem_cons.2 ⟨hl.trimRight_eq, ih⟩
  | gap hl hrest ih =>
    exact List.forall_mem_cons.2 ⟨rfl, List.forall_mem_cons.2 ⟨hl.trimRight_eq, ih⟩⟩

/-- A text of collapsed lines ends in one newline. -/
theorem Collapsed.ended_cases (h : Collapsed started ls) (hlines : ∀ l ∈ ls, '\n' ∉ l) :
    Text.ended ls = [] ∨ ∃ s c, Text.ended ls = s ++ [c, '\n'] ∧ c ≠ '\n' := by
  obtain rfl | ⟨before, l, rfl, hl⟩ := h.eq_nil_or_concat
  · exact .inl rfl
  · obtain ⟨init, c, rfl⟩ := (List.eq_nil_or_concat' l).resolve_left hl.ne_nil
    refine .inr ⟨Text.ended before ++ init, c, by simp, ?_⟩
    rintro rfl
    exact hlines _ (List.mem_append_right _ List.mem_cons_self) (by simp)

/-! ### Columns of a body -/

theorem length_le_longest {ts : List Text} (h : t ∈ ts) : t.length ≤ longest ts :=
  List.le_max?_getD_of_mem (List.mem_map_of_mem h)

/-- A field that is put in columns stands there. -/
theorem Field.standsAt_render (hname : f.name.length ≤ m)
    (htype : f.tag ≠ none → f.type.length ≤ n) :
    f.StandsAt (1 + m + 1) (1 + m + 1 + n + 1) (f.render m n) := by
  refine ⟨m - f.name.length + 1, if f.tag = none then 0 else n - f.type.length + 1, ?_, ?_, ?_⟩
  · rw [render_eq, columns, lastGap, gapAfter, gapAfter]
    split_ifs <;> rfl
  · omega
  · intro htag
    have hle := htype htag
    rw [if_neg htag]
    omega

/-- **The lines of an aligned body are in columns.** -/
theorem inColumns_alignBody (h : ∀ l ∈ body, IsBodyLine l) : InColumns (alignBody body) := by
  have hfields : fieldsOf (alignBody body) = body.filterMap Field.ofLine? :=
    filterMap_trim_alignBody fun l hl => (h l hl).trim_eq
  have hnames : nameWidth body = longest ((fieldsOf (alignBody body)).map (·.name)) := by
    rw [nameWidth, hfields, ← widest_map_length, List.map_map]
    rfl
  have htypes : typeWidth body =
      longest (((fieldsOf (alignBody body)).filter (·.tag.isSome)).map (·.type)) := by
    rw [typeWidth, hfields, ← widest_map_length, List.map_map]
    rfl
  refine ⟨fun l' hl' => ?_, fun l' hl' f hf => ?_⟩
  · obtain ⟨l, hl, rfl⟩ := List.mem_map.1 (alignBody_eq body ▸ hl')
    have hline := h l hl
    obtain ⟨u, hu, htrim, hread, htext⟩ :=
      exists_alignLine_eq (nameWidth body) (typeWidth body) hline.trim_eq
    have hne : u ≠ [] := by
      rintro rfl
      exact hline.ne_nil (htext hread.symm).symm
    obtain ⟨c, rest, rfl, hc⟩ := Text.exists_eq_cons_of_trim htrim hne
    exact ⟨c, rest, hu, hc⟩
  · have hmem : f ∈ fieldsOf (alignBody body) :=
      List.mem_filterMap.2 ⟨_, List.mem_map_of_mem hl', hf⟩
    obtain ⟨l, hl, rfl⟩ := List.mem_map.1 (alignBody_eq body ▸ hl')
    rw [ofLine?_trim_alignLine (h l hl).trim_eq] at hf
    rw [tagColumn, typeColumn, ← hnames, ← htypes, alignLine, hf]
    refine Field.standsAt_render ?_ fun htag => ?_
    · rw [hnames]
      exact length_le_longest (List.mem_map_of_mem hmem)
    · rw [htypes]
      refine length_le_longest (List.mem_map_of_mem (List.mem_filter.2 ⟨hmem, ?_⟩))
      exact Option.isSome_iff_ne_none.2 htag

/-! ### Bodies of lines in columns -/

/-- The lines of a body that is open are taken up to the closing brace. -/
theorem bodiesFrom_body {lines : List Text} (h : ∀ l ∈ lines, Text.trim l ≠ ['\x7d'])
    (body rest : List Text) : bodiesFrom (some body) (lines ++ ['\x7d'] :: rest) =
      (body ++ lines) :: bodiesFrom none rest := by
  induction lines generalizing body with
  | nil =>
    have hbrace : Text.trim ['\x7d'] = ['\x7d'] := rfl
    rw [List.nil_append, bodiesFrom, if_pos hbrace, List.append_nil]
  | cons l lines ih =>
    obtain ⟨hl, hlines⟩ := List.forall_mem_cons.1 h
    rw [List.cons_append, bodiesFrom, if_neg hl, ih hlines, List.append_assoc,
      List.singleton_append]

theorem bodiesFrom_eq_nil (h : ∀ l ∈ ls, Text.trim l ≠ ['\x7d']) (body : List Text) :
    bodiesFrom (some body) ls = [] := by
  induction ls generalizing body with
  | nil => rfl
  | cons l ls ih =>
    obtain ⟨hl, hls⟩ := List.forall_mem_cons.1 h
    rw [bodiesFrom, if_neg hl, ih hls]

/-- **The bodies of lines in columns are in columns**, and so are those of the lines that follow if
these are. -/
theorem Columned.inColumns_append (h : Columned done)
    (hrest : ∀ body ∈ bodies rest, InColumns body) :
    ∀ body ∈ bodies (done ++ rest), InColumns body := by
  induction h with
  | nil => exact hrest
  | line hl hlater ih =>
    rw [List.cons_append, bodies, bodiesFrom, hl, if_neg Bool.false_ne_true]
    exact ih
  | struct hhead htrim hbody hlater ih =>
    rename_i head body later
    have hlines : ∀ l ∈ alignBody body, Text.trim l ≠ ['\x7d'] := fun l hl =>
      (trim_ne_of_mem_alignBody hbody l hl).2
    rw [List.cons_append, List.append_assoc, List.cons_append, bodies, bodiesFrom, htrim,
      if_pos hhead, bodiesFrom_body hlines, List.nil_append]
    exact List.forall_mem_cons.2 ⟨inColumns_alignBody hbody, ih⟩

/-! ### The struct that is not closed -/

/-- No lines, or a struct that is not closed. -/
inductive Unclosed : List Text → Prop where
  /-- All structs are closed. -/
  | nil : Unclosed []
  /-- The head of a struct, and lines that do not close it. -/
  | struct {head : Text} {body : List Text} (hhead : opensStruct head = true)
      (htrim : Text.trim head = head) (hbody : ∀ l ∈ body, Text.trim l ≠ ['\x7d']) :
      Unclosed (head :: body)

/-- The struct bodies among the lines that are closed are in columns. -/
def ClosedColumned (ls : List Text) : Prop :=
  ∃ done tail, ls = done ++ tail ∧ Columned done ∧ Unclosed tail

/-- **The struct that is open at the end** is the last one: its head stands outside of structs, and
no line after it closes it. -/
theorem exists_last_head (h : endsInside false ls = true) : ∃ before head after,
    ls = before ++ head :: after ∧ endsInside false before = false ∧
      opensStruct (Text.trim head) = true ∧ ∀ l ∈ after, Text.trim l ≠ ['\x7d'] := by
  induction ls using List.reverseRecOn with
  | nil => cases h
  | append_singleton ls l ih =>
    have hlast : endsInside false (ls ++ [l]) = insideAfter (endsInside false ls) l :=
      List.foldl_concat ..
    rw [hlast] at h
    cases hinside : endsInside false ls with
    | false =>
      rw [hinside] at h
      exact ⟨ls, l, [], rfl, hinside, h, by simp⟩
    | true =>
      obtain ⟨before, head, after, rfl, hbefore, hhead, hafter⟩ := ih hinside
      rw [hinside] at h
      refine ⟨before, head, after ++ [l], by simp, hbefore, hhead, ?_⟩
      exact List.forall_mem_append.2 ⟨hafter, List.forall_mem_singleton.2 (bne_iff_ne.1 h)⟩

/-- A body that is not closed is put out as it was gathered. -/
theorem forall_mem_alignFrom_open (h : ∀ l ∈ ls, Text.trim l ≠ ['\x7d'])
    (hbody : ∀ l ∈ body, Text.trim l ≠ ['\x7d']) :
    ∀ l ∈ alignFrom (some body) ls, Text.trim l ≠ ['\x7d'] := by
  induction ls generalizing body with
  | nil => exact hbody
  | cons l ls ih =>
    obtain ⟨hl, hls⟩ := List.forall_mem_cons.1 h
    rw [alignFrom, if_neg hl]
    split
    · exact ih hls hbody
    · refine ih hls (List.forall_mem_append.2 ⟨hbody, List.forall_mem_singleton.2 ?_⟩)
      rwa [Text.trim_trim]

/-- **The alignment puts the struct bodies that are closed in columns.** -/
theorem closedColumned_align (lines : List Text) : ClosedColumned (align lines) := by
  cases hend : endsInside false lines with
  | false => exact ⟨align lines, [], by simp, closes_alignFrom none lines hend, .nil⟩
  | true =>
    obtain ⟨before, head, after, rfl, hbefore, hhead, hafter⟩ := exists_last_head hend
    obtain ⟨out, later, hlater, hout⟩ := exists_alignFrom_append none before
    -- the scan stands outside of structs before the head
    obtain rfl : later = none := by
      rw [← Option.not_isSome_iff_eq_none, hlater]
      simp [hbefore]
    have hcolumned : Columned out := by
      have hclosed := closes_alignFrom none before hbefore
      have hall := hout []
      rw [List.append_nil, alignFrom, Option.getD_none, List.append_nil] at hall
      rwa [hall] at hclosed
    refine ⟨out, Text.trim head :: alignFrom (some []) after, ?_, hcolumned,
      .struct hhead (Text.trim_trim head) (forall_mem_alignFrom_open hafter (by simp))⟩
    rw [align, hout, alignFrom, if_pos hhead]

theorem ClosedColumned.inColumns (h : ClosedColumned ls) :
    ∀ body ∈ bodies ls, InColumns body := by
  obtain ⟨done, tail, rfl, hdone, htail⟩ := h
  refine hdone.inColumns_append ?_
  cases htail with
  | nil => simp [bodies, bodiesFrom]
  | struct hhead htrim hbody =>
    rw [bodies, bodiesFrom, htrim, if_pos hhead, bodiesFrom_eq_nil hbody]
    simp

/-- The blank line after the last newline changes nothing. -/
theorem ClosedColumned.append_blank (h : ClosedColumned ls) : ClosedColumned (ls ++ [[]]) := by
  obtain ⟨done, tail, rfl, hdone, htail⟩ := h
  cases htail with
  | nil => exact ⟨done ++ [[]], [], by simp, hdone.append columned_blank, .nil⟩
  | struct hhead htrim hbody =>
    refine ⟨done, _, List.append_assoc _ _ _, hdone, .struct hhead htrim ?_⟩
    exact List.forall_mem_append.2 ⟨hbody, by decide⟩

/-- What collapsing makes of lines does not depend on the lines that follow. -/
theorem exists_collapseFrom_append (started gap : Bool) (ls : List Text) :
    ∃ started' gap', ∀ rest, collapseFrom started gap (ls ++ rest) =
      collapseFrom started gap ls ++ collapseFrom started' gap' rest := by
  induction ls generalizing started gap with
  | nil => exact ⟨started, gap, fun _ => rfl⟩
  | cons l ls ih =>
    cases htrim : Text.trimRight l with
    | nil =>
      obtain ⟨started', gap', hrest⟩ := ih started true
      refine ⟨started', gap', fun rest => ?_⟩
      simp only [List.cons_append, collapseFrom, htrim, hrest]
    | cons c kept =>
      obtain ⟨started', gap', hrest⟩ := ih true false
      refine ⟨started', gap', fun rest => ?_⟩
      simp only [List.cons_append, collapseFrom, htrim, hrest]
      split <;> simp

/-- Collapsing blank lines keeps columns. -/
theorem ClosedColumned.collapseFrom (h : ClosedColumned ls) (started gap : Bool) :
    ClosedColumned (collapseFrom started gap ls) := by
  obtain ⟨done, tail, rfl, hdone, htail⟩ := h
  obtain ⟨started', gap', hrest⟩ := exists_collapseFrom_append started gap done
  have hcollapsed := hdone.collapseFrom started gap
  rw [hrest]
  cases htail with
  | nil => exact ⟨_, [], rfl, hcollapsed, .nil⟩
  | struct hhead htrim hbody =>
    rename_i head body
    have hne : head ≠ [] := by
      rintro rfl
      cases hhead
    have hlater : Unclosed (head :: Source.collapseFrom true false body) :=
      .struct hhead htrim (forall_mem_collapseFrom
        (fun l hl => by rwa [Text.trim_trimRight]) (by decide) body true false hbody)
    rw [collapseFrom_tidy (Text.tidy_of_trim htrim hne), ← List.append_assoc]
    refine ⟨_, _, rfl, hcollapsed.append ?_, hlater⟩
    split
    · exact columned_blank
    · exact .nil

/-- The lines are put in before or after a place, according to where the package clause is. -/
theorem insertAfterPackage_append_cases (new ls rest : List Text) :
    insertAfterPackage new (ls ++ rest) = insertAfterPackage new ls ++ rest ∨
      insertAfterPackage new (ls ++ rest) = ls ++ insertAfterPackage new rest := by
  induction ls with
  | nil => exact .inr rfl
  | cons l ls ih =>
    rw [List.cons_append, insertAfterPackage, insertAfterPackage]
    split
    · exact .inl (by simp)
    · rcases ih with ih | ih
      · exact .inl (congrArg (l :: ·) ih)
      · exact .inr (congrArg (l :: ·) ih)

/-- The import is put in before an open struct, or in its body. -/
theorem ClosedColumned.insertAfterPackage (h : ClosedColumned ls) (hnew : Columned new)
    (hbrace : ∀ l ∈ new, Text.trim l ≠ ['\x7d']) : ClosedColumned (insertAfterPackage new ls) := by
  obtain ⟨done, tail, rfl, hdone, htail⟩ := h
  rcases insertAfterPackage_append_cases new done tail with hinsert | hinsert
  · exact ⟨_, tail, hinsert, hdone.insertAfterPackage hnew, htail⟩
  · refine ⟨done, _, hinsert, hdone, ?_⟩
    cases htail with
    | nil => exact .nil
    | struct hhead htrim hbody =>
      rename_i head body
      rw [Source.insertAfterPackage, isPackageClause_of_opensStruct hhead,
        if_neg Bool.false_ne_true]
      refine .struct hhead htrim fun l hl => ?_
      rcases insertAfterPackage_cases new body with ⟨-, heq⟩ | ⟨before, after, rfl, heq⟩
      · exact hbody l (heq ▸ hl)
      · rw [heq, List.mem_append, List.mem_append] at hl
        rcases hl with hl | hl | hl
        · exact hbody l (List.mem_append_left _ hl)
        · exact hbrace l hl
        · exact hbody l (List.mem_append_right _ hl)

/-- **The import keeps columns.** -/
theorem HasPlace.closedColumned_withImport (h : HasPlace place ls) (hls : ClosedColumned ls) :
    ClosedColumned (withImport place ls) := by
  cases h with
  | nowhere => exact hls
  | afterPackage => exact hls.insertAfterPackage (.line rfl (.line rfl .nil)) (by decide)
  | top =>
    obtain ⟨done, tail, rfl, hdone, htail⟩ := hls
    exact ⟨timeImport :: [] :: done, tail, rfl, .line rfl (.line rfl hdone), htail⟩

/-! ### Formatted source -/

/-- **Formatted source is laid out**, with the import or without it. -/
theorem format_laidOut (h : format source = .ok t) : LaidOut t := by
  have hlines := not_mem_outputLines source
  have hplace := hasPlace_importPlace hlines
  have hcollapsed := hplace.collapsed_withImport (collapsed_collapseFrom _ _ _)
  have hcolumned := hplace.closedColumned_withImport
    ((closedColumned_align (Text.lines source)).collapseFrom false false)
  have hnewline := hplace.not_mem_withImport hlines
  have hread := lines_of_format h
  have ht := (format_eq_ok_iff.1 h).2
  generalize withImport (importPlace (Text.ended (outputLines source))) (outputLines source) = ls
    at *
  subst ht
  refine ⟨hcollapsed.ended_cases hnewline, ?_, ?_, ?_, ?_⟩
  · cases hcollapsed with
    | nil => exact .inl rfl
    | line hl hrest => exact .inr ⟨_, _, hread, hl.not_isGap⟩
  · rw [hread]
    exact List.forall_mem_append.2 ⟨hcollapsed.trimRight_eq, List.forall_mem_singleton.2 rfl⟩
  · rw [hread]
    exact hcollapsed.isChain
  · rw [hread]
    exact hcolumned.append_blank.inColumns

/-- A package with a struct whose lines are not in columns. -/
def visits : Text := Text.unlines
  ["package clinic", "", " ", "type  Visit struct\x7b", "  Patient string", "",
    "At   time.Time   `xml:\"at\"`", "\t\tN int `xml:\"n\"`", " \x7d", "", ""]

/-- The same package, formatted. -/
def formattedVisits : Text := Text.ended
  ["package clinic", "", timeImport, "", "type  Visit struct\x7b", "\tPatient string",
    "\tAt      time.Time `xml:\"at\"`", "\tN       int       `xml:\"n\"`", "\x7d"]

theorem format_laidOut_visits : format visits = .ok formattedVisits ∧ LaidOut formattedVisits := by
  have hformat : format visits = .ok formattedVisits := rfl
  exact ⟨hformat, format_laidOut hformat⟩

end Source

end SchemaStructs
