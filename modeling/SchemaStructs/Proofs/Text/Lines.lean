import Mathlib.Data.List.Forall2
import SchemaStructs.Proofs.Text.Pieces

/-!
# Lines and paragraphs

A source is a sequence of lines, each ended by a newline (`Text.ended`); its lines are these and an
empty one after the last newline (`Text.lines_ended`).  A paragraph is a list of lines, and
paragraphs are set off by blank lines (`Text.spaced`); what is joined by two newlines are paragraphs
(`Text.joinWith_newlines`).
-/

namespace SchemaStructs

namespace Text

/-- The lines, each ended by a newline. -/
def ended (ls : List Text) : Text := ls.flatMap (· ++ ['\n'])

/-- The lines of the paragraphs, with a blank line between neighbours. -/
def spaced (ps : List (List Text)) : List Text := List.intercalate [[]] ps

variable {ls : List Text} {l : Text} {ps : List (List Text)} {f : Text → Bool}

@[simp] theorem ended_nil : ended [] = [] := rfl

@[simp] theorem ended_cons (l : Text) (ls : List Text) :
    ended (l :: ls) = l ++ '\n' :: ended ls := by
  simp [ended]

@[simp] theorem ended_append (ls ls' : List Text) : ended (ls ++ ls') = ended ls ++ ended ls' :=
  List.flatMap_append

theorem ended_map {α : Type} (f : α → Text) (l : List α) :
    ended (l.map f) = l.flatMap fun a => f a ++ ['\n'] := List.flatMap_map ..

@[simp] theorem spaced_singleton (p : List Text) : spaced [p] = p := List.intercalate_singleton

theorem spaced_cons_cons (p q : List Text) (ps : List (List Text)) :
    spaced (p :: q :: ps) = p ++ [] :: spaced (q :: ps) := by
  rw [spaced, List.intercalate_cons_cons, List.append_assoc]
  rfl

/-- A blank line inside a paragraph makes two of it. -/
theorem spaced_append_cons (p q : List Text) (ps : List (List Text)) :
    spaced ((p ++ [] :: q) :: ps) = spaced (p :: q :: ps) := by
  cases ps with
  | nil => rw [spaced_singleton, spaced_cons_cons, spaced_singleton]
  | cons r ps =>
    rw [spaced_cons_cons, spaced_cons_cons, spaced_cons_cons, List.append_assoc, List.cons_append]

/-- A line of spaced paragraphs is blank, or a line of one of them. -/
theorem mem_spaced (h : l ∈ spaced ps) : l = [] ∨ ∃ p ∈ ps, l ∈ p := by
  induction ps with
  | nil => cases h
  | cons p ps ih =>
    cases ps with
    | nil => exact .inr ⟨p, List.mem_cons_self, spaced_singleton p ▸ h⟩
    | cons q ps =>
      rw [spaced_cons_cons, List.mem_append, List.mem_cons] at h
      rcases h with h | h | h
      · exact .inr ⟨p, List.mem_cons_self, h⟩
      · exact .inl h
      · exact (ih h).imp_right fun ⟨r, hr, hl⟩ => ⟨r, List.mem_cons_of_mem p hr, hl⟩

/-- What blank lines do not have is had by a line of the paragraphs. -/
theorem any_spaced (hblank : f [] = false) (ps : List (List Text)) :
    (spaced ps).any f = ps.any (·.any f) := by
  induction ps with
  | nil => rfl
  | cons p ps ih =>
    cases ps with
    | nil => rw [spaced_singleton, List.any_cons, List.any_nil, Bool.or_false]
    | cons q ps =>
      rw [spaced_cons_cons, List.any_append, List.any_cons, hblank, Bool.false_or, ih]
      rfl

/-! ### Lines -/

theorem not_mem_lines (t : Text) : ∀ l ∈ lines t, '\n' ∉ l := fun _ hl hmem =>
  absurd (of_mem_splitWhere hl hmem).2 (by decide)

/-- Lines that are joined are ended by newlines, but for the last one. -/
theorem unlines_concat (ls : List Text) (l : Text) : unlines (ls ++ [l]) = ended ls ++ l := by
  induction ls with
  | nil => simp [unlines, joinWith]
  | cons m ls ih =>
    have hjoin : unlines (m :: (ls ++ [l])) = m ++ '\n' :: unlines (ls ++ [l]) := by
      rw [unlines, joinWith, List.intercalate_cons_of_ne_nil (by simp), List.append_assoc]
      rfl
    rw [List.cons_append, hjoin, ih, ended_cons, List.append_assoc, List.cons_append]

theorem unlines_append_nil (ls : List Text) : unlines (ls ++ [[]]) = ended ls := by
  rw [unlines_concat, List.append_nil]

theorem unlines_append_newline (h : ls ≠ []) : unlines ls ++ ['\n'] = ended ls := by
  induction ls with
  | nil => exact absurd rfl h
  | cons l ls ih =>
    cases ls with
    | nil => rw [unlines, joinWith, List.intercalate_singleton, ended_cons, ended_nil]
    | cons m ls =>
      rw [ended_cons, ← ih (List.cons_ne_nil m ls), unlines, joinWith, List.intercalate_cons_cons,
        List.append_assoc, List.append_assoc]
      rfl

/-- The lines of a source. -/
theorem lines_ended (h : ∀ l ∈ ls, '\n' ∉ l) : lines (ended ls) = ls ++ [[]] := by
  -- the last newline is followed by an empty line
  rw [lines, splitOn_eq_splitOn, ← unlines_append_nil, unlines, joinWith]
  refine List.splitOn_intercalate '\n' (fun l hl => ?_) (by simp)
  rcases List.mem_append.1 hl with hl | hl
  · exact h l hl
  · rw [List.mem_singleton.1 hl]
    exact List.not_mem_nil

/-! ### Paragraphs -/

/-- Texts joined by two newlines are spaced paragraphs. -/
theorem joinWith_newlines {parts : List Text}
    (h : List.Forall₂ (fun part p => part ++ ['\n'] = ended p) parts ps) (hne : ps ≠ []) :
    joinWith "\n\n" parts ++ ['\n'] = ended (spaced ps) := by
  induction h with
  | nil => exact absurd rfl hne
  | @cons part p parts ps hpart hrest ih =>
    cases hrest with
    | nil => rw [joinWith, List.intercalate_singleton, spaced_singleton, hpart]
    | @cons part' q parts ps hpart' hrest =>
      -- the first newline between two parts ends a line, the second is a blank one
      have hrest := ih (List.cons_ne_nil q ps)
      rw [joinWith] at hrest
      rw [joinWith, List.intercalate_cons_cons, spaced_cons_cons, ended_append, ended_cons, ← hrest,
        ← hpart]
      simp

end Text

end SchemaStructs
