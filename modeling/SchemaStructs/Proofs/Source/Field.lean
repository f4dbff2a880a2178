import SchemaStructs.Proofs.Text.Trim
import SchemaStructs.Source.Alignment

/-!
# Fields of any spelling

A line is read as a field if and only if it spells it (`Source.Field.ofLine?_eq_some_iff`): a name,
a type and perhaps a tag, with blanks of any kind and number between them.  Nothing is assumed about
the characters of the parts but that name and type have no blanks.

Aligning a line of a struct body keeps what can be read in it (`Source.exists_alignLine_eq`): the
words stay, a field is read as the same field again, and any other text stays as it is after the
tab.  So a body that was aligned is not changed by aligning it once more
(`Source.alignBody_trim_alignBody`).
-/

namespace SchemaStructs

namespace Source

variable {f : Field} {t line : Text} {body : List Text} {c : Char} {m n : Nat}

/-! ### Tags -/

theorem splitOn_tag (h : '`' ∉ t) : Text.splitOn '`' ('`' :: (t ++ ['`'])) = [[], t, []] := by
  have hopen : Text.splitOn '`' ('`' :: (t ++ ['`'])) = [] :: Text.splitOn '`' (t ++ ['`']) :=
    Text.splitOn_append_cons List.not_mem_nil _
  rw [hopen, Text.splitOn_append_cons h]
  rfl

/-- A tag is what stands between two backticks, and these. -/
theorem isTag_iff : isTag t = true ↔ ∃ u, t = '`' :: (u ++ ['`']) ∧ '`' ∉ u := by
  constructor
  · intro h
    rw [isTag] at h
    split at h
    · rename_i u hpieces
      have hjoined : List.intercalate ['`'] (List.splitOn '`' t) = t :=
        List.intercalate_splitOn '`'
      rw [← Text.splitOn_eq_splitOn, hpieces] at hjoined
      refine ⟨u, hjoined.symm.trans (by simp [List.intercalate_cons_cons]), fun htick => ?_⟩
      have hmem : u ∈ Text.splitOn '`' t := by rw [hpieces]; simp
      exact absurd (Text.of_mem_splitWhere hmem htick).2 (by decide)
    · cases h
  · rintro ⟨u, rfl, hu⟩
    rw [isTag, splitOn_tag hu]

/-! ### What a line spells -/

/-- The parts of the field are such as are read in a line. -/
structure Field.Proper (f : Field) : Prop where
  /-- The name has no blanks. -/
  name : Text.Unbroken f.name
  /-- The type has no blanks. -/
  type : Text.Unbroken f.type
  /-- The tag is a raw string. -/
  tag : ∀ tag, f.tag = some tag → isTag tag = true

/-- The line consists of the parts of the field, with blanks between them. -/
structure Field.Spelled (f : Field) (line : Text) : Prop where
  /-- The parts are as they are read. -/
  proper : f.Proper
  /-- There are blanks between the parts, and nothing else. -/
  gaps : ∃ gap gap', Text.IsGap gap ∧ Text.IsGap gap' ∧ gap ≠ [] ∧ (gap' = [] → f.tag = none) ∧
    line = f.name ++ (gap ++ (f.type ++ (gap' ++ f.tag.getD [])))

/-! ### Reading a field -/

/-- A text is its first word, a gap and the rest. -/
theorem exists_eq_word_append {w rest : Text} (hw : t.takeWhile (!Text.isBlank ·) = w)
    (hrest : Text.trimLeft (t.drop w.length) = rest) :
    (∀ c ∈ w, Text.isBlank c = false) ∧
      ∃ gap, Text.IsGap gap ∧ (gap = [] → rest = []) ∧ t = w ++ (gap ++ rest) := by
  have ht : w ++ t.dropWhile (!Text.isBlank ·) = t := hw ▸ List.takeWhile_append_dropWhile
  have hdrop : t.drop w.length = t.dropWhile (!Text.isBlank ·) := by
    conv_lhs => rw [← ht]
    exact List.drop_left
  rw [hdrop] at hrest
  refine ⟨fun c hc => ?_, _, Text.isGap_takeWhile (t.dropWhile (!Text.isBlank ·)),
    fun hnil => ?_, ?_⟩
  · rw [← hw] at hc
    simpa using List.mem_takeWhile_imp hc
  · have hhead := List.head?_dropWhile_not (!Text.isBlank ·) t
    cases hv : t.dropWhile (!Text.isBlank ·) with
    | nil =>
      rw [← hrest, hv]
      rfl
    | cons c v =>
      rw [hv] at hhead hnil
      have hc : Text.isBlank c = true := by simpa using hhead
      rw [List.takeWhile_cons_of_pos hc] at hnil
      cases hnil
  · rw [← hrest, Text.trimLeft, List.takeWhile_append_dropWhile, ht]

/-- What is read in a line is spelled there. -/
theorem Field.spelled_of_ofLine? (h : Field.ofLine? line = some f) : f.Spelled line := by
  obtain ⟨hname, gap, hgap, hne, hline⟩ := exists_eq_word_append (t := line) rfl rfl
  obtain ⟨htype, gap', hgap', hne', hafter⟩ := exists_eq_word_append
    (t := Text.trimLeft (line.drop (line.takeWhile (!Text.isBlank ·)).length)) rfl rfl
  rw [ofLine?] at h
  -- from now on only the parts matter, not how they were found
  generalize line.takeWhile (!Text.isBlank ·) = name at *
  generalize Text.trimLeft (line.drop name.length) = afterName at *
  generalize afterName.takeWhile (!Text.isBlank ·) = type at *
  generalize Text.trimLeft (afterName.drop type.length) = tag at *
  subst hafter
  simp only [Bool.or_eq_true, List.isEmpty_iff] at h
  split at h
  · cases h
  rename_i hwords
  obtain ⟨hname0, htype0⟩ := not_or.1 hwords
  have hgap0 : gap ≠ [] := fun hnil => htype0 (List.append_eq_nil_iff.1 (hne hnil)).1
  split at h
  · rename_i htag
    cases h
    refine ⟨⟨⟨hname0, hname⟩, ⟨htype0, htype⟩, fun _ h => by cases h⟩, gap, gap', hgap, hgap',
      hgap0, fun _ => rfl, ?_⟩
    rw [hline, htag]
    rfl
  · rename_i htag
    split at h
    · rename_i hraw
      cases h
      exact ⟨⟨⟨hname0, hname⟩, ⟨htype0, htype⟩, fun _ h => Option.some.inj h ▸ hraw⟩, gap, gap',
        hgap, hgap', hgap0, fun hnil => absurd (hne' hnil) htag, hline⟩
    · cases h

theorem takeWhile_append_gap {w gap : Text} (hw : ∀ c ∈ w, Text.isBlank c = false)
    (hgap : Text.IsGap gap) (hne : gap = [] → t = []) :
    (w ++ (gap ++ t)).takeWhile (!Text.isBlank ·) = w := by
  rw [List.takeWhile_append_of_pos (by simpa using hw)]
  cases gap with
  | nil => rw [hne rfl, List.nil_append, List.takeWhile_nil, List.append_nil]
  | cons c gap =>
    have hc := hgap c List.mem_cons_self
    simp [hc]

/-- **What can be read in a line is what it spells.** -/
theorem Field.ofLine?_eq_some_iff : Field.ofLine? line = some f ↔ f.Spelled line := by
  refine ⟨spelled_of_ofLine?, ?_⟩
  rintro ⟨⟨hname, htype, htag⟩, gap, gap', hgap, hgap', hne, hne', rfl⟩
  obtain ⟨name, type, tag⟩ := f
  simp only at hname htype htag hne'
  have hfirst : ∀ t, (name ++ (gap ++ t)).takeWhile (!Text.isBlank ·) = name :=
    fun t => takeWhile_append_gap hname.isBlank hgap fun hnil => absurd hnil hne
  have hsecond : (type ++ (gap' ++ tag.getD [])).takeWhile (!Text.isBlank ·) = type :=
    takeWhile_append_gap htype.isBlank hgap' fun hnil => by rw [hne' hnil]; rfl
  have htagLeft : Text.trimLeft (tag.getD []) = tag.getD [] := by
    cases tag with
    | none => rfl
    | some tag =>
      obtain ⟨u, rfl, -⟩ := isTag_iff.1 (htag tag rfl)
      exact Text.trimLeft_cons rfl _
  simp only [ofLine?, hfirst, hsecond, List.drop_left, Text.trimLeft_append_gap hgap,
    htype.trimLeft_append, Text.trimLeft_append_gap hgap', htagLeft,
    List.isEmpty_eq_false_iff.2 hname.ne_nil, List.isEmpty_eq_false_iff.2 htype.ne_nil]
  cases tag with
  | none => rfl
  | some tag =>
    have hraw := htag tag rfl
    obtain ⟨u, rfl, -⟩ := isTag_iff.1 hraw
    simp [hraw]

theorem Field.Spelled.words_eq (h : f.Spelled line) :
    Text.words line = f.name :: f.type :: Text.words (f.tag.getD []) := by
  obtain ⟨⟨hname, htype, -⟩, gap, gap', hgap, hgap', hne, hne', rfl⟩ := h
  rw [hname.words_append_gap hgap fun hnil => absurd hnil hne,
    htype.words_append_gap hgap' fun hnil => by rw [hne' hnil]; rfl]

/-- The tag stands at the end of the line. -/
theorem Field.Spelled.tag_suffix (h : f.Spelled line) (htag : f.tag = some t) : t <:+ line := by
  obtain ⟨-, gap, gap', -, -, -, -, rfl⟩ := h
  rw [htag, Option.getD_some, ← List.append_assoc, ← List.append_assoc, ← List.append_assoc]
  exact List.suffix_append _ t

/-! ### Aligned lines -/

theorem tidy_append_of_isTag (h : isTag t = true) (s : Text) : Text.Tidy (s ++ t) := by
  obtain ⟨u, rfl, -⟩ := isTag_iff.1 h
  have htick : Text.Unbroken ['`'] := Text.unbroken_of_any (by decide) rfl
  rw [← List.cons_append, ← List.append_assoc]
  exact htick.tidy_append _

/-- The blanks after a text that is padded to the given width. -/
def gapAfter (n : Nat) (t : Text) : Text := List.replicate (n - t.length + 1) ' '

theorem isGap_gapAfter (n : Nat) (t : Text) : Text.IsGap (gapAfter n t) := Text.isGap_replicate _

theorem gapAfter_ne_nil (n : Nat) (t : Text) : gapAfter n t ≠ [] := by
  rw [gapAfter, List.replicate_succ]
  exact List.cons_ne_nil _ _

theorem padRight_append (n : Nat) (s t : Text) :
    Text.padRight n s ++ ' ' :: t = s ++ (gapAfter n s ++ t) := by
  simp [Text.padRight, gapAfter, List.replicate_succ']

/-- The blanks before the tag of a field in columns: none if there is no tag. -/
def Field.lastGap (n : Nat) (f : Field) : Text := if f.tag = none then [] else gapAfter n f.type

/-- A field in columns, without the tab before it. -/
def Field.columns (m n : Nat) (f : Field) : Text :=
  f.name ++ (gapAfter m f.name ++ (f.type ++ (f.lastGap n ++ f.tag.getD [])))

theorem Field.render_eq (m n : Nat) (f : Field) : f.render m n = '\t' :: f.columns m n := by
  cases htag : f.tag with
  | none => simp [render, columns, lastGap, htag, padRight_append]
  | some tag => simp [render, columns, lastGap, htag, padRight_append]

/-- A field in columns is spelled there. -/
theorem Field.Proper.spelled_columns (h : f.Proper) (m n : Nat) : f.Spelled (f.columns m n) := by
  refine ⟨h, gapAfter m f.name, f.lastGap n, isGap_gapAfter _ _, ?_, gapAfter_ne_nil _ _, ?_, rfl⟩
  · rw [lastGap]
    split
    · exact fun c hc => by cases hc
    · exact isGap_gapAfter _ _
  · intro hnil
    by_contra htag
    rw [lastGap, if_neg htag] at hnil
    exact gapAfter_ne_nil _ _ hnil

theorem Field.Proper.trim_columns (h : f.Proper) (m n : Nat) :
    Text.trim (f.columns m n) = f.columns m n := by
  have htidy : Text.Tidy (f.columns m n) := by
    cases htag : f.tag with
    | none =>
      rw [columns, lastGap, if_pos htag, htag, Option.getD_none, List.append_nil, List.append_nil,
        ← List.append_assoc]
      exact h.type.tidy_append _
    | some tag =>
      rw [columns, htag, Option.getD_some, ← List.append_assoc, ← List.append_assoc,
        ← List.append_assoc]
      exact tidy_append_of_isTag (h.tag tag htag) _
  rw [Text.trim, columns, h.name.trimLeft_append, ← columns, htidy.trimRight_eq]

/-- A line of a struct body, aligned to the given widths. -/
def alignLine (m n : Nat) (line : Text) : Text :=
  match Field.ofLine? line with
  | some f => f.render m n
  | none => '\t' :: line

/-- **An aligned line** is what can be read in the line after a tab. -/
theorem exists_alignLine_eq (m n : Nat) (h : Text.trim line = line) : ∃ u,
    alignLine m n line = '\t' :: u ∧ Text.trim u = u ∧ Field.ofLine? u = Field.ofLine? line ∧
      (Field.ofLine? line = none → u = line) := by
  cases hread : Field.ofLine? line with
  | none => exact ⟨line, by rw [alignLine, hread], h, hread, fun _ => rfl⟩
  | some f =>
    have hproper := (Field.ofLine?_eq_some_iff.1 hread).proper
    refine ⟨f.columns m n, ?_, hproper.trim_columns m n,
      Field.ofLine?_eq_some_iff.2 (hproper.spelled_columns m n), fun hnone => by cases hnone⟩
    rw [alignLine, hread]
    exact f.render_eq m n

theorem Field.mem_columns (hc : c ∈ f.columns m n) :
    c = ' ' ∨ c ∈ f.name ∨ c ∈ f.type ∨ c ∈ f.tag.getD [] := by
  have hgap : ∀ k t, c ∈ gapAfter k t → c = ' ' := fun _ _ => List.eq_of_mem_replicate
  simp only [columns, List.mem_append] at hc
  rcases hc with hc | hc | hc | hc | hc
  · exact .inr (.inl hc)
  · exact .inl (hgap _ _ hc)
  · exact .inr (.inr (.inl hc))
  · rw [lastGap] at hc
    split at hc
    · cases hc
    · exact .inl (hgap _ _ hc)
  · exact .inr (.inr (.inr hc))

/-- Nothing but tabs and spaces is put in. -/
theorem not_mem_alignLine (hc : c ∉ line) (htab : c ≠ '\t') (hspace : c ≠ ' ') (m n : Nat) :
    c ∉ alignLine m n line := by
  rw [alignLine]
  split
  · rename_i f hread
    obtain ⟨-, gap, gap', -, -, -, -, hline⟩ := Field.ofLine?_eq_some_iff.1 hread
    simp only [hline, List.mem_append, not_or] at hc
    rw [Field.render_eq, List.mem_cons, not_or]
    refine ⟨htab, fun hmem => ?_⟩
    rcases Field.mem_columns hmem with hmem | hmem | hmem | hmem
    · exact hspace hmem
    · exact hc.1 hmem
    · exact hc.2.2.1 hmem
    · exact hc.2.2.2.2 hmem
  · rw [List.mem_cons, not_or]
    exact ⟨htab, hc⟩

theorem trim_tab_cons (t : Text) : Text.trim ('\t' :: t) = Text.trim t :=
  congrArg Text.trimRight (List.dropWhile_cons_of_pos rfl)

theorem ofLine?_trim_alignLine (h : Text.trim line = line) (m n : Nat) :
    Field.ofLine? (Text.trim (alignLine m n line)) = Field.ofLine? line := by
  obtain ⟨u, hu, htrim, hread, -⟩ := exists_alignLine_eq m n h
  rw [hu, trim_tab_cons, htrim, hread]

/-- A text that is no field is kept as it is. -/
theorem trim_alignLine_eq_iff (h : Text.trim line = line) (ht : Field.ofLine? t = none)
    (m n : Nat) : Text.trim (alignLine m n line) = t ↔ line = t := by
  obtain ⟨u, hu, htrim, hread, htext⟩ := exists_alignLine_eq m n h
  rw [hu, trim_tab_cons, htrim]
  constructor
  · rintro rfl
    exact (htext (hread.symm.trans ht)).symm
  · rintro rfl
    exact htext ht

theorem alignLine_trim_alignLine (h : Text.trim line = line) (m n : Nat) :
    alignLine m n (Text.trim (alignLine m n line)) = alignLine m n line := by
  cases hline : Field.ofLine? line with
  | none => rw [(trim_alignLine_eq_iff h hline m n).2 rfl]
  | some f => rw [alignLine, ofLine?_trim_alignLine h, hline, alignLine, hline]

theorem tidy_alignLine (h : Text.trim line = line) (hne : line ≠ []) (m n : Nat) :
    Text.Tidy (alignLine m n line) := by
  obtain ⟨u, hu, htrim, hread, htext⟩ := exists_alignLine_eq m n h
  have hu0 : u ≠ [] := fun hnil =>
    hne (hnil ▸ htext (by rw [← hread, hnil]; rfl)).symm
  rw [hu]
  exact (Text.tidy_of_trim htrim hu0).cons '\t'

/-! ### Bodies -/

/-- The greatest length of the names of the fields. -/
def nameWidth (body : List Text) : Nat :=
  widest ((body.filterMap Field.ofLine?).map (·.name.length))

/-- The greatest length of the types of the fields that have a tag. -/
def typeWidth (body : List Text) : Nat :=
  widest (((body.filterMap Field.ofLine?).filter (·.tag.isSome)).map (·.type.length))

theorem alignBody_eq (body : List Text) :
    alignBody body = body.map (alignLine (nameWidth body) (typeWidth body)) := rfl

/-- The fields of an aligned body are those of the body. -/
theorem filterMap_trim_alignBody (h : ∀ l ∈ body, Text.trim l = l) :
    ((alignBody body).map Text.trim).filterMap Field.ofLine? = body.filterMap Field.ofLine? := by
  rw [alignBody_eq, List.map_map, List.filterMap_map]
  exact List.filterMap_congr fun l hl => ofLine?_trim_alignLine (h l hl) _ _

/-- **A body that was aligned is not changed by aligning it once more.** -/
theorem alignBody_trim_alignBody (h : ∀ l ∈ body, Text.trim l = l) :
    alignBody ((alignBody body).map Text.trim) = alignBody body := by
  rw [alignBody_eq ((alignBody body).map Text.trim), nameWidth, typeWidth,
    filterMap_trim_alignBody h, alignBody_eq, List.map_map, List.map_map]
  exact List.map_congr_left fun l hl => alignLine_trim_alignLine (h l hl) _ _

/-- The lines of a body that is open are gathered up to the closing brace. -/
theorem alignFrom_body {lines : List Text}
    (h : ∀ l ∈ lines, Text.trim l ≠ [] ∧ Text.trim l ≠ ['\x7d']) (body rest : List Text) :
    alignFrom (some body) (lines ++ ['\x7d'] :: rest) =
      alignBody (body ++ lines.map Text.trim) ++ ['\x7d'] :: alignFrom none rest := by
  induction lines generalizing body with
  | nil =>
    have hbrace : Text.trim ['\x7d'] = ['\x7d'] := rfl
    rw [List.nil_append, alignFrom, if_pos hbrace, List.map_nil, List.append_nil]
  | cons l lines ih =>
    obtain ⟨⟨hne, hbrace⟩, hlines⟩ := List.forall_mem_cons.1 h
    rw [List.cons_append, alignFrom, if_neg hbrace, List.isEmpty_eq_false_iff.2 hne,
      if_neg Bool.false_ne_true, ih hlines, List.map_cons, List.append_assoc, List.singleton_append]

end Source

end SchemaStructs
