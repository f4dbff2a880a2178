import SchemaStructs.Proofs.Source.Layout

/-!
# The import of a printed page

Of the lines of a printed page, only those of fields whose type is that of times refer to the `time`
package (`Source.Row.Fit.refersToTime_line`): comments do not count, tags are left out, and no other
word has a dot in it.
-/

namespace SchemaStructs

namespace Source

open Naming

variable {r : Row} {s : Struct} {t rest : Text} {c : Char} {w v : Text} {ws : List Text}
variable {line : Text}

/-- The line refers to the `time` package outside of comments and tags. -/
def refersToTime (line : Text) : Bool :=
  !isCommentLine line && mentionsTime false (outsideTags (Text.splitOn '`' line))

/-! ### Mentions -/

theorem mentionsTime_eq_false (h : '.' ∉ t) (inside : Bool) : mentionsTime inside t = false := by
  induction t generalizing inside with
  | nil => rfl
  | cons c t ih =>
    have hprefix : ("time." : Text).isPrefixOf (c :: t) = false := by
      rw [Bool.eq_false_iff]
      intro hp
      exact h ((List.isPrefixOf_iff_prefix.1 hp).subset (by decide))
    rw [mentionsTime, hprefix, ih fun hm => h (List.mem_cons_of_mem c hm), Bool.and_false]
    rfl

theorem mentionsTime_append (hc : Text.isWord c = false) (inside : Bool) (t rest : Text) :
    mentionsTime inside (t ++ c :: (("time." : Text) ++ rest)) = true := by
  induction t generalizing inside with
  | nil =>
    rw [List.nil_append, mentionsTime, hc, Bool.or_eq_true]
    exact .inr rfl
  | cons d t ih => rw [List.cons_append, mentionsTime, ih, Bool.or_true]

/-! ### Lines of fields -/

/-- What stands before the tag in the line of a field. -/
def Row.columns (nameWidth typeWidth : Nat) (r : Row) : Text :=
  "\t" ++ Text.padRight nameWidth r.name ++ " " ++ Text.padRight typeWidth r.type ++ " "

theorem Row.line_eq (m n : Nat) (r : Row) : r.line m n = r.columns m n ++ r.tag := rfl

theorem mem_padRight {n : Nat} (h : c ∈ Text.padRight n t) : c ∈ t ∨ c = ' ' :=
  (List.mem_append.1 h).imp_right List.eq_of_mem_replicate

theorem Row.mem_columns {m n : Nat} (h : c ∈ r.columns m n) :
    c = '\t' ∨ c = ' ' ∨ c ∈ r.name ∨ c ∈ r.type := by
  simp only [Row.columns, List.mem_append] at h
  rcases h with (((h | h) | h) | h) | h
  · exact .inl (List.mem_singleton.1 h)
  · exact .inr ((mem_padRight h).symm.imp_right .inl)
  · exact .inr (.inl (List.mem_singleton.1 h))
  · exact .inr ((mem_padRight h).symm.imp_right .inr)
  · exact .inr (.inl (List.mem_singleton.1 h))

theorem Row.Fit.isCode_name (h : r.Fit) : IsCode r.name := isCode_of_isGoWord h.name

theorem Row.Fit.isCode_type (h : r.Fit) : IsCode r.type := isCode_of_isFieldType h.type

theorem Row.Fit.not_mem_columns (h : r.Fit) (m n : Nat) (hc : isCodeChar c = false)
    (htab : c ≠ '\t') (hspace : c ≠ ' ') : c ∉ r.columns m n := by
  intro hmem
  rcases Row.mem_columns hmem with hm | hm | hm | hm
  · exact htab hm
  · exact hspace hm
  · rw [h.isCode_name.isCodeChar c hm] at hc; cases hc
  · rw [h.isCode_type.isCodeChar c hm] at hc; cases hc

/-- Outside of its tag the line of a field consists of its columns. -/
theorem Row.Fit.outsideTags_line (h : r.Fit) (m n : Nat) :
    outsideTags (Text.splitOn '`' (r.line m n)) = r.columns m n := by
  obtain ⟨t, htag, ht, -⟩ := h.tag
  have hcolumns : '`' ∉ r.columns m n := h.not_mem_columns m n rfl (by decide) (by decide)
  rw [Row.line_eq, htag, Text.splitOn_append_cons hcolumns, Text.splitOn_append_cons ht]
  exact List.append_nil _

theorem Row.Fit.isCommentLine_line (h : r.Fit) (m n : Nat) :
    isCommentLine (r.line m n) = false := by
  obtain ⟨hne, hcode⟩ := h.isCode_name
  have hline : r.line m n = '\t' :: (r.name ++ (List.replicate (m - r.name.length) ' ' ++
      (" " ++ Text.padRight n r.type ++ " " ++ r.tag))) := by
    simp [Row.line, Text.padRight]
  have htrim : ∀ t, Text.trimLeft ('\t' :: t) = Text.trimLeft t := fun _ => rfl
  rw [isCommentLine, hline, htrim, h.name_unbroken.trimLeft_append]
  cases hname : r.name with
  | nil => exact absurd hname hne
  | cons c name =>
    have hc := (of_isCodeChar (hcode c (hname ▸ List.mem_cons_self))).2.1
    simp only [isInert, Bool.and_eq_true, bne_iff_ne] at hc
    have hslash : ('/' == c) = false := beq_eq_false_iff_ne.2 fun heq => hc.1.1.2 heq.symm
    simp [List.isPrefixOf, hslash]

/-- There is no dot in the columns of a field whose type has none. -/
theorem Row.Fit.mentionsTime_columns (h : r.Fit) (m n : Nat) (hdot : '.' ∉ r.type) :
    mentionsTime false (r.columns m n) = false := by
  refine mentionsTime_eq_false (fun hm => ?_) false
  rcases Row.mem_columns hm with hm | hm | hm | hm
  · cases hm
  · cases hm
  · exact h.name.not_mem rfl hm
  · exact hdot hm

/-- A field mentions the `time` package if its type does so after brackets, or at its start. -/
theorem Row.mentionsTime_columns (m n : Nat) (before after : Text)
    (htype : r.type = before ++ (("time." : Text) ++ after))
    (hbefore : before = [] ∨ before = "[]") :
    mentionsTime false (r.columns m n) = true := by
  have hpad : Text.padRight n r.type =
      before ++ (("time." : Text) ++ after) ++ List.replicate (n - r.type.length) ' ' :=
    congrArg (· ++ List.replicate (n - r.type.length) ' ') htype
  have hcolumns : r.columns m n = "\t" ++ Text.padRight m r.name ++ ' ' :: (before ++
      (("time." : Text) ++ (after ++ List.replicate (n - r.type.length) ' ' ++ " "))) := by
    rw [Row.columns, hpad]
    simp
  rw [hcolumns]
  -- the character before the mention is a blank or a bracket, so no word goes on there
  rcases hbefore with rfl | rfl
  · rw [List.nil_append, mentionsTime_append rfl]
  · have hbracket : ∀ t : Text, "\t" ++ Text.padRight m r.name ++ ' ' :: (("[]" : Text) ++ t) =
        ("\t" ++ Text.padRight m r.name ++ [' ', '[']) ++ ']' :: t := by
      simp
    rw [hbracket, mentionsTime_append rfl]

/-- **Which fields refer to the `time` package.** -/
theorem Row.Fit.refersToTime_line (h : r.Fit) (m n : Nat) :
    refersToTime (r.line m n) =
      (r.type == ("time.Time" : Text) || r.type == ("[]time.Time" : Text)) := by
  rw [refersToTime, h.isCommentLine_line, h.outsideTags_line, Bool.not_false, Bool.true_and]
  obtain ⟨base, hword | rfl, htype⟩ := h.type
  · -- a word has no dot, and neither has a list of words
    have hdot : '.' ∉ r.type := by
      have hbase : '.' ∉ base := hword.not_mem rfl
      rcases htype with htype | htype
      · exact htype ▸ hbase
      · rw [htype]
        exact fun hm => (List.mem_append.1 hm).elim (by decide) hbase
    have hne : ∀ t : Text, '.' ∈ t → (r.type == t) = false := fun t ht => by
      rw [beq_eq_false_iff_ne]
      rintro rfl
      exact hdot ht
    rw [h.mentionsTime_columns m n hdot, hne _ (by decide), hne _ (by decide)]
    rfl
  · rcases htype with htype | htype
    · rw [Row.mentionsTime_columns m n [] "Time" htype (.inl rfl), htype]
      rfl
    · rw [Row.mentionsTime_columns m n "[]" "Time" htype (.inr rfl), htype]
      rfl

/-! ### Other lines -/

theorem refersToTime_eq_false (hdot : '.' ∉ line) (htick : '`' ∉ line) :
    refersToTime line = false := by
  have hpiece : outsideTags (Text.splitOn '`' line) = line := by
    rw [Text.splitOn_eq_singleton htick]
    rfl
  rw [refersToTime, hpiece, mentionsTime_eq_false hdot, Bool.and_false]

theorem Struct.refersToTime_comment (s : Struct) : refersToTime s.comment = false := by
  have hcomment : isCommentLine s.comment = true := rfl
  rw [refersToTime, hcomment]
  rfl

theorem Struct.Fit.not_mem_head (h : s.Fit) (hc : c.isAlphanum = false)
    (hbefore : c ∉ ("type " : Text)) (hafter : c ∉ (" struct \x7b" : Text)) : c ∉ s.head := by
  have hname : c ∉ s.name := h.name.not_mem hc
  simp only [Struct.head_eq, List.mem_append, not_or]
  exact ⟨⟨hbefore, hname⟩, hafter⟩

/-- **A struct refers to the `time` package if a field needs it.** -/
theorem Struct.Fit.any_refersToTime (h : s.Fit) (comments : Bool) :
    (s.lines comments).any refersToTime = s.needsTime := by
  have hhead : refersToTime s.head = false :=
    refersToTime_eq_false (h.not_mem_head rfl (by decide) (by decide))
      (h.not_mem_head rfl (by decide) (by decide))
  have hbrace : refersToTime ("\x7d" : Text) = false := rfl
  have hrows : ∀ m n, (s.rows.map (Row.line m n)).any refersToTime = s.needsTime := by
    intro m n
    rw [List.any_map, Struct.needsTime, Bool.eq_iff_iff, List.any_eq_true, List.any_eq_true]
    refine exists_congr fun r => and_congr_right fun hr => ?_
    rw [Function.comp_apply, (h.rows r hr).refersToTime_line]
  have hbody : ∀ m n, (s.head :: (s.rows.map (Row.line m n) ++
      [("\x7d" : Text)])).any refersToTime = s.needsTime := fun m n => by
    rw [List.any_cons, List.any_append, hhead, hrows, List.any_cons, hbrace, List.any_nil,
      Bool.false_or, Bool.false_or, Bool.or_false]
  cases comments with
  | false => exact hbody _ _
  | true =>
    refine Eq.trans (List.any_cons) ?_
    rw [s.refersToTime_comment, Bool.false_or]
    exact hbody _ _

/-! ### Imports that are there already -/

/-- A line that starts with another word than an import does not import. -/
theorem importsTime_of_first (hwords : Text.words line = w :: ws) (hpath : w ≠ "\"time\"")
    (hkeyword : w ≠ "import") : importsTime line = false := by
  rw [importsTime, hwords]
  split
  · rename_i heq
    rw [← (List.cons.inj heq).1, beq_eq_false_iff_ne.2 hpath]
  · rename_i heq
    rw [← (List.cons.inj heq).1, beq_eq_false_iff_ne.2 hkeyword, Bool.false_and]
  · rfl

/-- A line whose second word is no path does not import. -/
theorem importsTime_of_second (hwords : Text.words line = w :: v :: ws) (hpath : v ≠ "\"time\"") :
    importsTime line = false := by
  rw [importsTime, hwords]
  split
  · rename_i heq
    cases (List.cons.inj heq).2
  · rename_i heq
    rw [← (List.cons.inj (List.cons.inj heq).2).1, beq_eq_false_iff_ne.2 hpath, Bool.and_false]
  · rfl

/-- The words of a field are its columns, and then those of its tag. -/
theorem Row.Fit.words_line (h : r.Fit) (m n : Nat) :
    Text.words (r.line m n) = r.name :: r.type :: Text.words r.tag := by
  rw [← r.render_field, Field.render_eq, Text.words_cons_blank rfl,
    (h.proper_field.spelled_columns m n).words_eq]
  rfl

theorem Row.Fit.importsTime_line (h : r.Fit) (m n : Nat) : importsTime (r.line m n) = false := by
  refine importsTime_of_second (h.words_line m n) fun heq => ?_
  have hquote : '"' ∈ r.type := heq ▸ by decide
  exact (of_isCodeChar (h.isCode_type.isCodeChar '"' hquote)).2.2.1 rfl

/-- No line of a struct imports anything. -/
theorem Struct.Fit.importsTime_eq_false (h : s.Fit) (comments : Bool) :
    ∀ l ∈ s.lines comments, importsTime l = false := by
  have hcomment : importsTime s.comment = false := by
    obtain ⟨ws, hwords⟩ := s.words_comment
    exact importsTime_of_first hwords (by decide) (by decide)
  refine Struct.forall_around hcomment
    (importsTime_of_first h.words_head (by decide) (by decide)) (fun l hl => ?_) rfl
  obtain ⟨r, hr, rfl⟩ := List.mem_map.1 hl
  exact (h.rows r hr).importsTime_line _ _

theorem Struct.isPackageClause_eq_false (s : Struct) (comments : Bool) :
    ∀ l ∈ s.lines comments, isPackageClause l = false :=
  Struct.forall_around rfl rfl (fun l hl => by
    obtain ⟨r, -, rfl⟩ := List.mem_map.1 hl
    rfl) rfl

end Source

end SchemaStructs
