import SchemaStructs.Proofs.Source.Alignment
import SchemaStructs.Source.Format

/-!
# Layout of paragraphs

The layout of a source of paragraphs is made paragraph by paragraph
(`Source.layout_ended_spaced`): one that is aligned on its own (`Source.Aligns`) and whose aligned
lines are tidy (`Text.Tidy`) is put in the place of the original one.
-/

namespace SchemaStructs

namespace Source

variable {raw p : List Text} {raws ps : List (List Text)} {l : Text} {rest : List Text}

/-- The lines are aligned to the given ones, whatever comes after them. -/
def Aligns (raw p : List Text) : Prop :=
  ∀ rest, alignFrom none (raw ++ rest) = p ++ alignFrom none rest

theorem aligns_line (h : opensStruct (Text.trim l) = false) : Aligns [l] [l] := fun rest => by
  rw [List.singleton_append, alignFrom, h, if_neg Bool.false_ne_true, List.singleton_append]

theorem Aligns.append {raw' p' : List Text} (h : Aligns raw p) (h' : Aligns raw' p') :
    Aligns (raw ++ raw') (p ++ p') := fun rest => by
  rw [List.append_assoc, h, h', List.append_assoc]

/-- Spaced paragraphs are aligned one by one. -/
theorem aligns_spaced (h : List.Forall₂ Aligns raws ps) :
    Aligns (Text.spaced raws) (Text.spaced ps) := by
  have hblank : Aligns [[]] [[]] := aligns_line rfl
  induction h with
  | nil => exact fun rest => rfl
  | cons hp hrest ih =>
    cases hrest with
    | nil => simpa using hp
    | cons hq hrest =>
      rw [Text.spaced_cons_cons, Text.spaced_cons_cons]
      exact hp.append (hblank.append ih)

/-! ### Blank lines -/

theorem collapseFrom_tidy (h : Text.Tidy l) (started gap : Bool) (rest : List Text) :
    collapseFrom started gap (l :: rest) =
      (if started && gap then [[]] else []) ++ l :: collapseFrom true false rest := by
  rw [collapseFrom, h.trimRight_eq]
  cases l with
  | nil => exact absurd rfl h.ne_nil
  | cons c l => cases started && gap <;> rfl

/-- The lines of a paragraph are kept, after a blank line if there was one. -/
theorem collapseFrom_paragraph (hne : p ≠ []) (h : ∀ l ∈ p, Text.Tidy l) (started gap : Bool)
    (rest : List Text) : collapseFrom started gap (p ++ rest) =
      (if started && gap then [[]] else []) ++ p ++ collapseFrom true false rest := by
  induction p generalizing started gap with
  | nil => exact absurd rfl hne
  | cons l p ih =>
    rw [List.cons_append, collapseFrom_tidy (h l List.mem_cons_self), List.append_assoc,
      List.cons_append]
    cases p with
    | nil => rfl
    | cons m p =>
      rw [ih (List.cons_ne_nil m p) (fun l' hl' => h l' (List.mem_cons_of_mem l hl'))]
      rfl

/-- Spaced paragraphs of tidy lines are as they should be. -/
theorem collapseFrom_spaced (h : ∀ p ∈ ps, p ≠ [] ∧ ∀ l ∈ p, Text.Tidy l) (hne : ps ≠ [])
    (started gap : Bool) : collapseFrom started gap (Text.spaced ps ++ [[]]) =
      (if started && gap then [[]] else []) ++ Text.spaced ps := by
  induction ps generalizing started gap with
  | nil => exact absurd rfl hne
  | cons p ps ih =>
    obtain ⟨hp, htidy⟩ := h p List.mem_cons_self
    cases ps with
    | nil =>
      -- the empty line after the last newline is dropped
      rw [Text.spaced_singleton, collapseFrom_paragraph hp htidy, collapseFrom]
      simp [Text.trimRight, collapseFrom]
    | cons q ps =>
      rw [Text.spaced_cons_cons, List.append_assoc, List.cons_append,
        collapseFrom_paragraph hp htidy, collapseFrom, List.append_assoc]
      -- the blank line between two paragraphs is put back with the first line that is kept
      have hlater := ih (fun p' hp' => h p' (List.mem_cons_of_mem p hp')) (List.cons_ne_nil q ps)
        true true
      simp only [Text.trimRight, hlater]
      rfl

theorem collapse_spaced (h : ∀ p ∈ ps, p ≠ [] ∧ ∀ l ∈ p, Text.Tidy l) :
    collapse (Text.spaced ps ++ [[]]) = Text.spaced ps := by
  cases ps with
  | nil => rfl
  | cons p ps => exact collapseFrom_spaced h (List.cons_ne_nil p ps) false false

/-! ### The layout -/

/-- **The layout of spaced paragraphs** consists of the aligned paragraphs. -/
theorem layout_ended_spaced (hlines : ∀ raw ∈ raws, ∀ l ∈ raw, '\n' ∉ l)
    (halign : List.Forall₂ Aligns raws ps) (htidy : ∀ p ∈ ps, p ≠ [] ∧ ∀ l ∈ p, Text.Tidy l) :
    layout (Text.ended (Text.spaced raws)) = Text.ended (Text.spaced ps) := by
  have hnewline : ∀ l ∈ Text.spaced raws, '\n' ∉ l := fun l hl => by
    rcases Text.mem_spaced hl with rfl | ⟨raw, hraw, hl⟩
    · exact List.not_mem_nil
    · exact hlines raw hraw l hl
  have hcollapse : collapse (align (Text.lines (Text.ended (Text.spaced raws)))) =
      Text.spaced ps := by
    have hlast : alignFrom none [[]] = [[]] := rfl
    rw [Text.lines_ended hnewline, align, aligns_spaced halign, hlast, collapse_spaced htidy]
  rw [layout, hcollapse]
  cases hps : Text.spaced ps with
  | nil => rfl
  | cons l ls => exact Text.unlines_append_newline (List.cons_ne_nil l ls)

end Source

end SchemaStructs
