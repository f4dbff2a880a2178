import SchemaStructs.Proofs.Source.Settled

/-!
# The lines of formatted source

Formatted source consists of lines, each ended by a newline: those that are laid out
(`Source.layout_eq`), and the import if it is put in (`Source.resolveImports_ended`).  No newline
gets into a line (`Source.not_mem_outputLines`), so these are the lines that are read when the
source is formatted again.

At most one line that is not blank is put in, and it is the import
(`Source.HasPlace.mayInsert_withImport`).  The source that has it does not get it a second time
(`Source.importPlace_withImport`).
-/

namespace SchemaStructs

namespace Source

variable {l t : Text} {ls new : List Text} {P : Text → Prop} {place : ImportPlace}

/-! ### What holds of all lines -/

/-- What the steps of the alignment keep holds of the lines that come out. -/
theorem forall_mem_alignFrom (htrim : ∀ l, P l → P (Text.trim l)) (hbrace : P ['\x7d'])
    (halign : ∀ m n l, P l → P (alignLine m n l)) (lines : List Text) (body : Option (List Text))
    (hbody : ∀ l ∈ body.getD [], P l) (h : ∀ l ∈ lines, P l) : ∀ l ∈ alignFrom body lines, P l := by
  induction lines generalizing body with
  | nil => exact hbody
  | cons line rest ih =>
    obtain ⟨hline, hrest⟩ := List.forall_mem_cons.1 h
    obtain ⟨out, later, hstep, hout⟩ := exists_scanStep body line
    rw [hout]
    cases hstep with
    | opening => exact List.forall_mem_cons.2 ⟨htrim line hline, ih (some []) hbody hrest⟩
    | outside => exact List.forall_mem_cons.2 ⟨hline, ih none hbody hrest⟩
    | closing hclose body =>
      refine List.forall_mem_append.2 ⟨List.forall_mem_append.2 ⟨?_, ?_⟩, ih none (by simp) hrest⟩
      · rw [alignBody_eq]
        exact List.forall_mem_map.2 fun l hl => halign _ _ l (hbody l hl)
      · exact List.forall_mem_singleton.2 hbrace
    | blank hblank body => exact ih (some body) hbody hrest
    | inside hne hbrace body =>
      exact ih _ (List.forall_mem_append.2
        ⟨hbody, List.forall_mem_singleton.2 (htrim line hline)⟩) hrest

theorem forall_mem_collapseFrom (htrim : ∀ l, P l → P (Text.trimRight l)) (hblank : P [])
    (lines : List Text) (started gap : Bool) (h : ∀ l ∈ lines, P l) :
    ∀ l ∈ collapseFrom started gap lines, P l := by
  induction lines generalizing started gap with
  | nil => exact fun l hl => by cases hl
  | cons line rest ih =>
    obtain ⟨hline, hrest⟩ := List.forall_mem_cons.1 h
    rw [collapseFrom]
    split
    · exact ih started true hrest
    · have hlater := List.forall_mem_cons.2 ⟨htrim line hline, ih true false hrest⟩
      split
      · exact List.forall_mem_cons.2 ⟨hblank, hlater⟩
      · exact hlater

/-! ### Lines that are laid out -/

/-- The lines of a source, laid out. -/
def outputLines (source : Text) : List Text := collapse (align (Text.lines source))

theorem layout_eq (source : Text) : layout source = Text.ended (outputLines source) := by
  rw [layout, ← outputLines]
  cases outputLines source with
  | nil => rfl
  | cons l ls => exact Text.unlines_append_newline (List.cons_ne_nil l ls)

/-- No newline gets into a line. -/
theorem not_mem_outputLines (source : Text) : ∀ l ∈ outputLines source, '\n' ∉ l := by
  have halign : ∀ l ∈ align (Text.lines source), '\n' ∉ l :=
    forall_mem_alignFrom (fun l h hmem => h (Text.mem_of_mem_trim hmem)) (by decide)
      (fun m n l h => not_mem_alignLine h (by decide) (by decide) m n) _ none (by simp)
      (Text.not_mem_lines source)
  exact forall_mem_collapseFrom (fun l h hmem => h (Text.mem_of_mem_trimRight hmem))
    List.not_mem_nil _ false false halign

/-! ### The import -/

/-- The lines with the import at the given place. -/
def withImport (place : ImportPlace) (ls : List Text) : List Text :=
  match place with
  | .nowhere => ls
  | .afterPackage => insertAfterPackage [[], timeImport] ls
  | .top => timeImport :: [] :: ls

/-- A package clause is passed over once, and the new lines follow it. -/
theorem insertAfterPackage_cases (new ls : List Text) :
    (∀ l ∈ ls, isPackageClause l = false) ∧ insertAfterPackage new ls = ls ∨
      ∃ before after, ls = before ++ after ∧
        insertAfterPackage new ls = before ++ (new ++ after) := by
  induction ls with
  | nil => exact .inl ⟨by simp, rfl⟩
  | cons l ls ih =>
    rw [insertAfterPackage]
    cases hl : isPackageClause l with
    | true => exact .inr ⟨[l], ls, rfl, rfl⟩
    | false =>
      rcases ih with ⟨hls, heq⟩ | ⟨before, after, hls, heq⟩
      · exact .inl ⟨List.forall_mem_cons.2 ⟨hl, hls⟩, by rw [heq]; rfl⟩
      · exact .inr ⟨l :: before, after, by rw [hls]; rfl, by rw [heq]; rfl⟩

/-- The blank line after the last newline is no package clause. -/
theorem insertAfterPackage_append_nil (new ls : List Text) :
    insertAfterPackage new (ls ++ [[]]) = insertAfterPackage new ls ++ [[]] := by
  have hblank : isPackageClause [] = false := rfl
  induction ls with
  | nil => simp [insertAfterPackage, hblank]
  | cons l ls ih =>
    rw [List.cons_append, insertAfterPackage, insertAfterPackage]
    split
    · simp
    · rw [ih, List.cons_append]

/-- **The import is put in as a line of its own.** -/
theorem resolveImports_ended (h : ∀ l ∈ ls, '\n' ∉ l) : resolveImports (Text.ended ls) =
    Text.ended (withImport (importPlace (Text.ended ls)) ls) := by
  rw [resolveImports, Text.lines_ended h]
  cases importPlace (Text.ended ls) with
  | nowhere => rfl
  | afterPackage =>
    simp only [insertAfterPackage_append_nil, Text.unlines_append_nil, withImport]
  | top => simp [withImport]

/-- There is a place for the import where it is put in. -/
inductive HasPlace : ImportPlace → List Text → Prop where
  /-- It is not put in. -/
  | nowhere (ls : List Text) : HasPlace .nowhere ls
  /-- There is a package clause. -/
  | afterPackage {l : Text} {ls : List Text} (hl : l ∈ ls) (hclause : isPackageClause l = true) :
      HasPlace .afterPackage ls
  /-- There is a line that it can stand before. -/
  | top {ls : List Text} (hne : ls ≠ []) : HasPlace .top ls

theorem hasPlace_importPlace (h : ∀ l ∈ ls, '\n' ∉ l) :
    HasPlace (importPlace (Text.ended ls)) ls := by
  rw [importPlace, Text.lines_ended h]
  simp only [Bool.or_eq_true, Bool.not_eq_true']
  split
  · exact .nowhere ls
  · rename_i hneeded
    split
    · rename_i hclause
      obtain ⟨l, hl, hclause⟩ := List.any_eq_true.1 hclause
      rcases List.mem_append.1 hl with hl | hl
      · exact .afterPackage hl hclause
      · rw [List.mem_singleton.1 hl] at hclause
        cases hclause
    · -- without lines the package would not be needed
      refine .top fun hnil => hneeded (.inl ?_)
      rw [hnil]
      rfl

/-- An import that is there already is not put in. -/
theorem importPlace_of_importsTime (h : ∀ l ∈ ls, '\n' ∉ l) (hl : l ∈ ls)
    (himports : importsTime l = true) : importPlace (Text.ended ls) = .nowhere := by
  have hany : (ls ++ [[]]).any importsTime = true :=
    List.any_eq_true.2 ⟨l, List.mem_append_left _ hl, himports⟩
  rw [importPlace, Text.lines_ended h, hany, Bool.or_true, if_pos rfl]

/-- The list is the other one, or has one more entry somewhere. -/
def MayInsert {α : Type} (x : α) (l l' : List α) : Prop :=
  l' = l ∨ ∃ before after, l = before ++ after ∧ l' = before ++ x :: after

theorem MayInsert.map {α β : Type} {x : α} {l l' : List α} (h : MayInsert x l l') (f : α → β) :
    MayInsert (f x) (l.map f) (l'.map f) := by
  rcases h with rfl | ⟨before, after, rfl, rfl⟩
  · exact .inl rfl
  · exact .inr ⟨before.map f, after.map f, by simp, by simp⟩

/-- What is put in: nothing, or a blank line and the import. -/
theorem HasPlace.withImport_cases (h : HasPlace place ls) :
    place = .nowhere ∧ withImport place ls = ls ∨
      ∃ before after, ls = before ++ after ∧
        (withImport place ls = before ++ [] :: timeImport :: after ∨
          withImport place ls = before ++ timeImport :: [] :: after) := by
  cases h with
  | nowhere => exact .inl ⟨rfl, rfl⟩
  | afterPackage hl hclause =>
    rcases insertAfterPackage_cases [[], timeImport] ls with ⟨hnone, -⟩ | ⟨before, after, hls, heq⟩
    · rw [hnone _ hl] at hclause
      cases hclause
    · exact .inr ⟨before, after, hls, .inl heq⟩
  | top hne => exact .inr ⟨[], ls, rfl, .inr rfl⟩

/-- **At most the import is put in**, and blank lines. -/
theorem HasPlace.mayInsert_withImport (h : HasPlace place ls) :
    MayInsert timeImport (inked ls) (inked (withImport place ls)) := by
  have himport : ∀ after, inked (timeImport :: after) = timeImport :: inked after := fun after =>
    inked_cons_of_ne (by decide) after
  have hblank : ∀ after, inked ([] :: after) = inked after := fun _ => rfl
  rcases h.withImport_cases with ⟨-, heq⟩ | ⟨before, after, rfl, heq | heq⟩
  · exact .inl (by rw [heq])
  · exact .inr ⟨inked before, inked after, inked_append _ _,
      by rw [heq, inked_append, hblank, himport]⟩
  · exact .inr ⟨inked before, inked after, inked_append _ _,
      by rw [heq, inked_append, himport, hblank]⟩

theorem HasPlace.mem_withImport (h : HasPlace place ls) (hl : l ∈ withImport place ls) :
    l ∈ ls ∨ l = [] ∨ l = timeImport := by
  rcases h.withImport_cases with ⟨-, heq⟩ | ⟨before, after, rfl, heq | heq⟩
  · exact .inl (heq ▸ hl)
  · simp only [heq, List.mem_append, List.mem_cons] at hl ⊢
    tauto
  · simp only [heq, List.mem_append, List.mem_cons] at hl ⊢
    tauto

theorem HasPlace.timeImport_mem (h : HasPlace place ls) (hplace : place ≠ .nowhere) :
    timeImport ∈ withImport place ls := by
  rcases h.withImport_cases with ⟨hnowhere, -⟩ | ⟨before, after, rfl, heq | heq⟩
  · exact absurd hnowhere hplace
  · rw [heq]
    simp
  · rw [heq]
    simp

/-- No newline comes in with the import. -/
theorem HasPlace.not_mem_withImport (h : HasPlace place ls) (hls : ∀ l ∈ ls, '\n' ∉ l) :
    ∀ l ∈ withImport place ls, '\n' ∉ l := by
  intro l hl
  rcases h.mem_withImport hl with hl | rfl | rfl
  · exact hls l hl
  · exact List.not_mem_nil
  · decide

/-- **The import is not put in twice.** -/
theorem importPlace_withImport (h : ∀ l ∈ ls, '\n' ∉ l) :
    importPlace (Text.ended (withImport (importPlace (Text.ended ls)) ls)) = .nowhere := by
  have hplace := hasPlace_importPlace h
  by_cases hnowhere : importPlace (Text.ended ls) = .nowhere
  · rw [hnowhere]
    exact hnowhere
  · exact importPlace_of_importsTime (hplace.not_mem_withImport h)
      (hplace.timeImport_mem hnowhere) rfl

/-- Lines in columns stay so. -/
theorem HasPlace.columned_withImport (h : HasPlace place ls) (hls : Columned ls) :
    Columned (withImport place ls) := by
  cases h with
  | nowhere => exact hls
  | afterPackage => exact hls.insertAfterPackage (.line rfl (.line rfl .nil))
  | top => exact .line rfl (.line rfl hls)

/-- Collapsed lines stay so. -/
theorem HasPlace.collapsed_withImport (h : HasPlace place ls) (hls : Collapsed false ls) :
    Collapsed false (withImport place ls) := by
  have htidy : Text.Tidy timeImport := ⟨by decide, rfl⟩
  cases h with
  | nowhere => exact hls
  | afterPackage => exact hls.insertAfterPackage htidy
  | top hne => exact hls.cons_gap hne htidy

end Source

end SchemaStructs
