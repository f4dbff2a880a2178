import SchemaStructs.Proofs.Source.Output

/-!
# Formatting keeps the content

What a source says is in its lines that are not blank, without their blanks (`Source.content`).
Formatting neither loses any of it nor changes its order (`Source.format_content`): the import of
the `time` package may come in, once, and nothing else does.  Blanks that matter are kept as well:
those in a tag, and those in a line of a struct body that is no field (`Source.Keeps`).  All this
also holds of struct bodies that are not closed and of structs in raw strings and comments.
-/

namespace SchemaStructs

namespace Source

variable {source t : Text}

/-- The lines that are not blank, without their blanks. -/
def content (source : Text) : List Text := (inked (Text.lines source)).map Text.squeeze

/-- What is formatted is the source as it is laid out, with the import that it needs. -/
theorem format_eq_ok_iff : format source = .ok t ↔
    check source = .ok () ∧
      t = Text.ended (withImport (importPlace (Text.ended (outputLines source)))
        (outputLines source)) := by
  rw [format, layout_eq, resolveImports_ended (not_mem_outputLines source)]
  cases check source with
  | error fault => simp [bind, Except.bind]
  | ok u => simp [bind, Except.bind, pure, Except.pure, eq_comm]

/-- The lines of formatted source, and an empty one after the last newline. -/
theorem lines_of_format (h : format source = .ok t) :
    Text.lines t = withImport (importPlace (Text.ended (outputLines source))) (outputLines source)
      ++ [[]] := by
  have hlines := not_mem_outputLines source
  rw [(format_eq_ok_iff.1 h).2,
    Text.lines_ended ((hasPlace_importPlace hlines).not_mem_withImport hlines)]

/-- The lines that are laid out keep what the lines of the source say. -/
theorem keeps_outputLines (source : Text) :
    List.Forall₂ (fun mark out => Keeps mark.1 mark.2 out) (marked false (Text.lines source))
      (inked (outputLines source)) := by
  have halign := keeps_alignFrom none (Text.lines source) [] rfl (by simp)
  rw [outputLines, collapse, inked_collapseFrom, List.forall₂_map_right_iff]
  exact halign.imp fun _ _ h => h.trimRight

/-- The words of the lines are those of the source. -/
theorem words_outputLines (source : Text) :
    (inked (outputLines source)).map Text.words = (inked (Text.lines source)).map Text.words := by
  have hwords : List.Forall₂ (· = ·)
      ((marked false (Text.lines source)).map (Text.words ∘ Prod.snd))
      ((inked (outputLines source)).map Text.words) := by
    rw [List.forall₂_map_left_iff, List.forall₂_map_right_iff]
    exact (keeps_outputLines source).imp fun _ _ h => h.words_eq.symm
  rw [List.forall₂_eq_eq_eq] at hwords
  rw [← hwords, ← map_snd_marked false, List.map_map]

theorem inked_lines_of_format (h : format source = .ok t) :
    MayInsert timeImport (inked (outputLines source)) (inked (Text.lines t)) := by
  have hblank : inked [[]] = [] := rfl
  rw [lines_of_format h, inked_append, hblank, List.append_nil]
  exact (hasPlace_importPlace (not_mem_outputLines source)).mayInsert_withImport

/-- **Formatting loses and reorders nothing.**  The lines of the output that are not blank are those
of the input up to blanks, but for one import that may come in.  A line of a struct body that is a
field keeps its tag as it is, and one that is no field keeps its text. -/
theorem format_content (h : format source = .ok t) :
    MayInsert ("import\"time\"" : Text) (content source) (content t) ∧
      ∃ kept, List.Forall₂ (fun mark out => Keeps mark.1 mark.2 out)
          (marked false (Text.lines source)) kept ∧
        MayInsert timeImport kept (inked (Text.lines t)) := by
  have hinsert := inked_lines_of_format h
  refine ⟨?_, _, keeps_outputLines source, hinsert⟩
  have hcontent : (inked (outputLines source)).map Text.squeeze = content source := by
    have hwords := congrArg (List.map List.flatten) (words_outputLines source)
    rw [content]
    simpa [Function.comp_def, Text.flatten_words] using hwords
  have himport : Text.squeeze timeImport = "import\"time\"" := rfl
  rw [← hcontent, ← himport]
  exact hinsert.map Text.squeeze

/-- A struct with a field that has a tag, and with a line that is no field. -/
def meeting : Text := Text.unlines
  ["type Meeting struct \x7b", "  At   time.Time `xml:\"at, in UTC\"`", " not a  field", "", "\x7d"]

/-- The same struct, formatted. -/
def formattedMeeting : Text := Text.ended
  [timeImport, "", "type Meeting struct \x7b", "\tAt time.Time `xml:\"at, in UTC\"`",
    "\tnot a  field", "\x7d"]

theorem format_content_meeting : format meeting = .ok formattedMeeting ∧
    MayInsert ("import\"time\"" : Text) (content meeting) (content formattedMeeting) ∧
      ∃ kept, List.Forall₂ (fun mark out => Keeps mark.1 mark.2 out)
          (marked false (Text.lines meeting)) kept ∧
        MayInsert timeImport kept (inked (Text.lines formattedMeeting)) := by
  have hformat : format meeting = .ok formattedMeeting := rfl
  exact ⟨hformat, format_content hformat⟩

end Source

end SchemaStructs
