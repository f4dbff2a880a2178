import SchemaStructs.Proofs.Source.Content
import SchemaStructs.Proofs.Source.Words

/-!
# Formatting formatted source

Formatted source is not changed by formatting it once more (`Source.format_eq_self`):

* the check accepts it, since it reads the words of its lines, and these are those of the source and
  of the import (`Source.check_of_format`);
* its lines are laid out (`Source.outputLines_of_format`);
* the import is there if it is needed (`Source.importPlace_withImport`).

For the second point the scan of the source has to end outside of struct bodies.  What is gathered
of a body that is not closed is not put in columns, and once an import was put in there it has a
blank line.
-/

namespace SchemaStructs

namespace Source

variable {source t : Text}

/-- **The check accepts what was formatted.** -/
theorem check_of_format (h : format source = .ok t) : check t = .ok () := by
  have hsource := (check_eq_ok_iff source).1 (format_eq_ok_iff.1 h).1
  have hwords := (inked_lines_of_format h).map Text.words
  rw [words_outputLines] at hwords
  rw [check_eq_ok_iff, readLines_of_mayInsert hwords, hsource]

/-- **The lines of formatted source are laid out.** -/
theorem outputLines_of_format (h : format source = .ok t)
    (hend : endsInside false (Text.lines source) = false) :
    outputLines t = withImport (importPlace (Text.ended (outputLines source)))
      (outputLines source) := by
  have hplace := hasPlace_importPlace (not_mem_outputLines source)
  have hcolumned : Columned (align (Text.lines source)) := closes_alignFrom none _ hend
  have hcollapsed : Collapsed false (outputLines source) := collapsed_collapseFrom _ _ _
  have halign := ((hplace.columned_withImport (hcolumned.collapseFrom false false)).append
    columned_blank).alignFrom_eq
  rw [outputLines, lines_of_format h, align, halign, collapse,
    (hplace.collapsed_withImport hcollapsed).collapseFrom_eq]

/-- **Formatting is idempotent** on a source whose struct bodies are closed. -/
theorem format_eq_self (h : format source = .ok t)
    (hend : endsInside false (Text.lines source) = false) : format t = .ok t := by
  have hlines := outputLines_of_format h hend
  have ht := (format_eq_ok_iff.1 h).2
  refine format_eq_ok_iff.2 ⟨check_of_format h, ?_⟩
  rw [hlines, importPlace_withImport (not_mem_outputLines source)]
  exact ht

/-- A struct body that is closed within a line, so that the scan stays in it. -/
def openBody : Text := Text.unlines
  ["type Visit struct \x7b", "package clinic", "At time.Time \x7d"]

/- The blank line before the import is lost in the second pass. -/
example : (format openBody >>= format) ≠ format openBody := by decide +kernel

end Source

end SchemaStructs
