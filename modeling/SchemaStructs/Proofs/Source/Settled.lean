import SchemaStructs.Proofs.Source.Scan
import SchemaStructs.Source.Format

/-!
# Lines that are laid out

What the layout has done it does not do again.  Two conditions say that lines are laid out:

* `Source.Columned` : every struct body among the lines is in columns.  The alignment makes it so if
  its scan ends outside of struct bodies (`Source.closes_alignFrom`), and leaves such lines as
  they are (`Source.Columned.alignFrom_eq`).
* `Source.Collapsed` : the lines have no blanks at their ends, and no more than one of them in a row
  is blank.  Collapsing makes it so (`Source.collapsed_collapseFrom`), and leaves such lines as they
  are (`Source.Collapsed.collapseFrom_eq`).

Both stay true when an import is put in: after a package clause, which is no line of a struct, or at
the top.
-/

namespace SchemaStructs

namespace Source

variable {l head : Text} {ls rest body new : List Text} {started gap : Bool}

/-! ### Package clauses -/

theorem opensStruct_of_isPackageClause (h : isPackageClause l = true) : opensStruct l = false := by
  obtain ⟨t, rfl⟩ := List.isPrefixOf_iff_prefix.1 h
  have hkeyword : Text.Unbroken "package" := Text.unbroken_of_any (by decide) rfl
  have hwords : Text.words (("package " : Text) ++ t) = ("package" : Text) :: Text.words t :=
    hkeyword.words_append_cons rfl t
  exact opensStruct_eq_false hwords (by decide)

theorem isPackageClause_of_opensStruct (h : opensStruct l = true) : isPackageClause l = false := by
  by_contra hclause
  rw [opensStruct_of_isPackageClause (Bool.not_eq_false _ ▸ hclause)] at h
  cases h

/-- Lines that are no package clauses are passed over. -/
theorem insertAfterPackage_append (h : ∀ l ∈ ls, isPackageClause l = false) (rest : List Text) :
    insertAfterPackage new (ls ++ rest) = ls ++ insertAfterPackage new rest := by
  induction ls with
  | nil => rfl
  | cons l ls ih =>
    obtain ⟨hl, hls⟩ := List.forall_mem_cons.1 h
    rw [List.cons_append, insertAfterPackage, hl, if_neg Bool.false_ne_true, ih hls,
      List.cons_append]

/-! ### Columns -/

/-- A line of a struct body, as the scan gathers it. -/
structure IsBodyLine (l : Text) : Prop where
  /-- There are no blanks at its ends. -/
  trim_eq : Text.trim l = l
  /-- It is not blank. -/
  ne_nil : l ≠ []
  /-- It does not close the body. -/
  ne_brace : l ≠ ['\x7d']

/-- The struct bodies among the lines are closed and in columns. -/
inductive Columned : List Text → Prop where
  /-- No lines. -/
  | nil : Columned []
  /-- A line outside of structs. -/
  | line {l : Text} {rest : List Text} (hl : opensStruct (Text.trim l) = false)
      (hrest : Columned rest) : Columned (l :: rest)
  /-- A struct. -/
  | struct {head : Text} {body rest : List Text} (hhead : opensStruct head = true)
      (htrim : Text.trim head = head) (hbody : ∀ l ∈ body, IsBodyLine l) (hrest : Columned rest) :
      Columned (head :: (alignBody body ++ ['\x7d'] :: rest))

theorem IsBodyLine.trim_alignLine_ne (h : IsBodyLine l) (m n : Nat) :
    Text.trim (alignLine m n l) ≠ [] ∧ Text.trim (alignLine m n l) ≠ ['\x7d'] :=
  ⟨mt (trim_alignLine_eq_iff h.trim_eq rfl m n).1 h.ne_nil,
    mt (trim_alignLine_eq_iff h.trim_eq rfl m n).1 h.ne_brace⟩

/-- No line of an aligned body is blank or closes it. -/
theorem trim_ne_of_mem_alignBody (h : ∀ l ∈ body, IsBodyLine l) :
    ∀ l ∈ alignBody body, Text.trim l ≠ [] ∧ Text.trim l ≠ ['\x7d'] := by
  rw [alignBody_eq]
  exact List.forall_mem_map.2 fun l hl => (h l hl).trim_alignLine_ne _ _

/-- **Lines in columns stay as they are.** -/
theorem Columned.alignFrom_eq (h : Columned ls) : alignFrom none ls = ls := by
  induction h with
  | nil => rfl
  | line hl hrest ih => rw [alignFrom, hl, if_neg Bool.false_ne_true, ih]
  | struct hhead htrim hbody hrest ih =>
    rename_i head body rest
    rw [alignFrom, htrim, if_pos hhead, alignFrom_body (trim_ne_of_mem_alignBody hbody), ih,
      List.nil_append, alignBody_trim_alignBody fun l hl => (hbody l hl).trim_eq]

/-- The lines after those that are put out, given the body that is open there: with the head of the
body they are in columns. -/
def Closes (body : Option (List Text)) (ls : List Text) : Prop :=
  match body with
  | none => Columned ls
  | some body => (∀ l ∈ body, IsBodyLine l) →
    ∀ head, opensStruct head = true → Text.trim head = head → Columned (head :: ls)

/-- **The alignment puts all struct bodies in columns** if its scan ends outside of them. -/
theorem closes_alignFrom (body : Option (List Text)) (lines : List Text)
    (hend : endsInside body.isSome lines = false) : Closes body (alignFrom body lines) := by
  induction lines generalizing body with
  | nil =>
    cases body with
    | none => exact .nil
    | some body => cases hend
  | cons line rest ih =>
    obtain ⟨out, later, hstep, hout⟩ := exists_scanStep body line
    rw [endsInside, List.foldl_cons, ← hstep.isSome_eq] at hend
    have hrest := ih later hend
    rw [hout]
    cases hstep with
    | opening hopen => exact hrest (by simp) _ hopen (Text.trim_trim line)
    | outside hopen => exact .line hopen hrest
    | closing hclose body =>
      intro hbody head hhead htrim
      rw [List.append_assoc]
      exact .struct hhead htrim hbody hrest
    | blank hblank body => exact hrest
    | inside hne hbrace body =>
      intro hbody
      refine hrest (List.forall_mem_append.2 ⟨hbody, fun l hl => ?_⟩)
      obtain rfl := List.mem_singleton.1 hl
      exact ⟨Text.trim_trim line, hne, hbrace⟩

theorem columned_blank : Columned [[]] := .line rfl .nil

theorem Columned.append (h : Columned ls) (hrest : Columned rest) : Columned (ls ++ rest) := by
  induction h with
  | nil => exact hrest
  | line hl _ ih => exact .line hl ih
  | struct hhead htrim hbody _ ih =>
    rw [List.cons_append, List.append_assoc, List.cons_append]
    exact .struct hhead htrim hbody ih

/-! ### Blank lines -/

/-- The lines have no blanks at their ends, and between two lines there is at most one blank line;
`started` says that there is a line before. -/
inductive Collapsed : Bool → List Text → Prop where
  /-- No lines. -/
  | nil (started : Bool) : Collapsed started []
  /-- A line that is not blank. -/
  | line {started : Bool} {l : Text} {rest : List Text} (hl : Text.Tidy l)
      (hrest : Collapsed true rest) : Collapsed started (l :: rest)
  /-- A blank line after a line, and a line that is not blank. -/
  | gap {l : Text} {rest : List Text} (hl : Text.Tidy l) (hrest : Collapsed true rest) :
      Collapsed true ([] :: l :: rest)

theorem collapsed_collapseFrom (started gap : Bool) (lines : List Text) :
    Collapsed started (collapseFrom started gap lines) := by
  induction lines generalizing started gap with
  | nil => exact .nil started
  | cons line rest ih =>
    rw [collapseFrom]
    split
    · exact ih started true
    · rename_i hne
      have htidy : Text.Tidy (Text.trimRight line) := ⟨hne, Text.trimRight_trimRight line⟩
      split
      · rename_i hgap
        obtain ⟨rfl, rfl⟩ := Bool.and_eq_true_iff.1 hgap
        exact .gap htidy (ih true false)
      · exact .line htidy (ih true false)

/-- **Collapsed lines stay as they are**, without the blank line after them. -/
theorem Collapsed.collapseFrom_eq (h : Collapsed started ls) :
    collapseFrom started false (ls ++ [[]]) = ls := by
  induction h with
  | nil started => rfl
  | line hl hrest ih =>
    rw [List.cons_append, collapseFrom_tidy hl, ih, Bool.and_false]
    rfl
  | gap hl hrest ih =>
    rename_i l rest
    have hblank : collapseFrom true false ([] :: (l :: rest ++ [[]])) =
        collapseFrom true true (l :: (rest ++ [[]])) := rfl
    rw [List.cons_append, hblank, collapseFrom_tidy hl, ih]
    rfl

/-- The lines of a struct in columns, without those after it, are tidy. -/
theorem tidy_of_mem_struct (hhead : opensStruct head = true) (htrim : Text.trim head = head)
    (hbody : ∀ l ∈ body, IsBodyLine l) :
    ∀ l ∈ head :: (alignBody body ++ [['\x7d']]), Text.Tidy l := by
  have hne : head ≠ [] := by
    rintro rfl
    cases hhead
  refine List.forall_mem_cons.2 ⟨Text.tidy_of_trim htrim hne, List.forall_mem_append.2 ⟨?_, ?_⟩⟩
  · rw [alignBody_eq]
    exact List.forall_mem_map.2 fun l hl =>
      tidy_alignLine (hbody l hl).trim_eq (hbody l hl).ne_nil _ _
  · exact List.forall_mem_singleton.2 ⟨by decide, rfl⟩

theorem struct_append (head : Text) (body rest : List Text) :
    head :: (alignBody body ++ ['\x7d'] :: rest) =
      (head :: (alignBody body ++ [['\x7d']])) ++ rest := by
  simp

/-- Collapsing blank lines keeps columns. -/
theorem Columned.collapseFrom (h : Columned ls) (started gap : Bool) :
    Columned (collapseFrom started gap ls) := by
  induction h generalizing started gap with
  | nil => exact .nil
  | line hl hrest ih =>
    rename_i l rest
    rw [Source.collapseFrom]
    split
    · exact ih started true
    · have hline : Columned (Text.trimRight l :: Source.collapseFrom true false rest) :=
        .line (by rwa [Text.trim_trimRight]) (ih true false)
      split
      · exact columned_blank.append hline
      · exact hline
  | struct hhead htrim hbody hrest ih =>
    have hbefore : ∀ b : Bool, Columned (if b then [[]] else []) := fun b => by
      cases b with
      | false => exact .nil
      | true => exact columned_blank
    -- the lines of the struct are not blank, so only lines before them and after them collapse
    rw [struct_append, collapseFrom_paragraph (List.cons_ne_nil _ _)
      (tidy_of_mem_struct hhead htrim hbody), List.append_assoc, ← struct_append]
    exact (hbefore _).append (.struct hhead htrim hbody (ih true false))

/-! ### An import that is put in -/

/-- No line of a struct is a package clause. -/
theorem isPackageClause_of_mem_struct (hhead : opensStruct head = true) :
    ∀ l ∈ head :: (alignBody body ++ [['\x7d']]), isPackageClause l = false := by
  refine List.forall_mem_cons.2 ⟨isPackageClause_of_opensStruct hhead,
    List.forall_mem_append.2 ⟨?_, ?_⟩⟩
  · rw [alignBody_eq]
    refine List.forall_mem_map.2 fun l hl => ?_
    rw [alignLine]
    split
    · rw [Field.render_eq]
      rfl
    · rfl
  · exact List.forall_mem_singleton.2 rfl

/-- An import that is put in keeps columns. -/
theorem Columned.insertAfterPackage (h : Columned ls) (hnew : Columned new) :
    Columned (insertAfterPackage new ls) := by
  induction h with
  | nil => exact .nil
  | line hl hrest ih =>
    rw [Source.insertAfterPackage]
    split
    · exact .line hl (hnew.append hrest)
    · exact .line hl ih
  | struct hhead htrim hbody hrest ih =>
    rw [struct_append, insertAfterPackage_append (isPackageClause_of_mem_struct hhead),
      ← struct_append]
    exact .struct hhead htrim hbody ih

theorem Collapsed.insertAfterPackage {new : Text} (h : Collapsed started ls)
    (hnew : Text.Tidy new) : Collapsed started (insertAfterPackage [[], new] ls) := by
  induction h with
  | nil started => exact .nil started
  | line hl hrest ih =>
    rw [Source.insertAfterPackage]
    split
    · exact .line hl (.gap hnew hrest)
    · exact .line hl ih
  | gap hl hrest ih =>
    have hblank : isPackageClause [] = false := rfl
    rw [Source.insertAfterPackage, hblank, if_neg Bool.false_ne_true, Source.insertAfterPackage]
    split
    · exact .gap hl (.gap hnew hrest)
    · exact .gap hl ih

theorem Collapsed.cons_gap {new : Text} (h : Collapsed false ls) (hne : ls ≠ [])
    (hnew : Text.Tidy new) : Collapsed false (new :: [] :: ls) := by
  cases h with
  | nil => exact absurd rfl hne
  | line hl hrest => exact .line hnew (.gap hl hrest)

end Source

end SchemaStructs
