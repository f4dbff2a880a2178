import SchemaStructs.Proofs.Source.Field
import SchemaStructs.Proofs.Source.Struct

/-!
# Aligning printed structs

The alignment reads every line of a struct again.  A line that is printed for a field of words is
read as this field (`Source.Row.Fit.ofLine?_content`), whatever its tag says, so the body of the
struct is aligned to its longest name and its longest type (`Source.alignBody_contents`), and the
struct as a whole does not depend on what comes after it (`Source.Struct.Fit.alignFrom_rawLines`).
-/

namespace SchemaStructs

namespace Source

open Naming

variable {r : Row} {s : Struct}

/-! ### Reading a field -/

/-- A field without the tab before it. -/
def Row.content (r : Row) : Text := r.name ++ ' ' :: (r.type ++ ' ' :: r.tag)

theorem Row.rawLine_eq (r : Row) : r.rawLine = '\t' :: r.content := by
  simp [Row.rawLine, Row.content]

/-- The field of a row. -/
def Row.field (r : Row) : Field := { name := r.name, type := r.type, tag := some r.tag }

theorem Row.content_eq (r : Row) : r.content = r.field.columns 0 0 := by
  simp [Row.content, Field.columns, Field.lastGap, Row.field, gapAfter]

theorem Row.Fit.name_unbroken (h : r.Fit) : Text.Unbroken r.name :=
  (isCode_of_isGoWord h.name).unbroken

theorem Row.Fit.type_unbroken (h : r.Fit) : Text.Unbroken r.type :=
  (isCode_of_isFieldType h.type).unbroken

theorem Row.Fit.proper_field (h : r.Fit) : r.field.Proper where
  name := h.name_unbroken
  type := h.type_unbroken
  tag tag htag := by
    obtain ⟨t, hr, ht, -⟩ := h.tag
    exact isTag_iff.2 ⟨t, (Option.some.inj htag).symm.trans hr, ht⟩

/-- A line is read as the field that it is printed for. -/
theorem Row.Fit.ofLine?_content (h : r.Fit) : Field.ofLine? r.content = some r.field := by
  rw [Row.content_eq, Field.ofLine?_eq_some_iff]
  exact h.proper_field.spelled_columns 0 0

theorem Row.Fit.trim_rawLine (h : r.Fit) : Text.trim r.rawLine = r.content := by
  rw [Row.rawLine_eq, trim_tab_cons, Row.content_eq, h.proper_field.trim_columns]

/-! ### Bodies -/

theorem widest_map_length (ts : List Text) : widest (ts.map List.length) = longest ts := by
  rw [widest, longest]
  cases ts.map List.length with
  | nil => rfl
  | cons n ns => rw [List.max?_cons', Option.getD_some, List.foldl_cons, Nat.zero_max]

theorem Row.render_field (m n : Nat) (r : Row) : r.field.render m n = r.line m n := by
  simp [Field.render, Row.field, Row.line]

/-- **The body of a struct is aligned to its longest name and its longest type.** -/
theorem alignBody_contents {rows : List Row} (h : ∀ r ∈ rows, r.Fit) :
    alignBody (rows.map Row.content) =
      rows.map (Row.line (longest (rows.map (·.name))) (longest (rows.map (·.type)))) := by
  have hfields : (rows.map Row.content).filterMap Field.ofLine? = rows.map Row.field := by
    rw [List.filterMap_map, ← List.filterMap_eq_map]
    exact List.filterMap_congr fun r hr => (h r hr).ofLine?_content
  have hnames : nameWidth (rows.map Row.content) = longest (rows.map (·.name)) := by
    rw [nameWidth, hfields, ← widest_map_length, List.map_map, List.map_map]
    rfl
  -- all fields have a tag, so the types of all of them count
  have htagged : (rows.map Row.field).filter (·.tag.isSome) = rows.map Row.field :=
    List.filter_eq_self.2 (List.forall_mem_map.2 fun _ _ => rfl)
  have htypes : typeWidth (rows.map Row.content) = longest (rows.map (·.type)) := by
    rw [typeWidth, hfields, htagged, ← widest_map_length, List.map_map, List.map_map]
    rfl
  rw [alignBody_eq, hnames, htypes, List.map_map]
  refine List.map_congr_left fun r hr => ?_
  rw [Function.comp_apply, alignLine, (h r hr).ofLine?_content]
  exact r.render_field _ _

/-- The lines of fields are gathered up to the closing brace. -/
theorem alignFrom_rows {rows : List Row} (h : ∀ r ∈ rows, r.Fit) (body rest : List Text) :
    alignFrom (some body) (rows.map Row.rawLine ++ ("\x7d" : Text) :: rest) =
      alignBody (body ++ rows.map Row.content) ++ ("\x7d" : Text) :: alignFrom none rest := by
  -- a line that is read as a field is neither the closing brace nor blank
  have hne : ∀ {r t}, r ∈ rows → Field.ofLine? t = none → Text.trim r.rawLine ≠ t := by
    rintro r _ hr ht rfl
    rw [(h r hr).trim_rawLine, (h r hr).ofLine?_content] at ht
    cases ht
  have hlines : ∀ l ∈ rows.map Row.rawLine, Text.trim l ≠ [] ∧ Text.trim l ≠ ['\x7d'] :=
    List.forall_mem_map.2 fun r hr => ⟨hne hr rfl, hne hr rfl⟩
  have hcontents : (rows.map Row.rawLine).map Text.trim = rows.map Row.content := by
    rw [List.map_map]
    exact List.map_congr_left fun r hr => (h r hr).trim_rawLine
  exact hcontents ▸ alignFrom_body hlines body rest

/-! ### Structs -/

theorem Struct.Fit.name_unbroken (h : s.Fit) : Text.Unbroken s.name :=
  (isCode_of_isGoWord h.name).unbroken

/-- A line that starts with another word than `type` opens no struct. -/
theorem opensStruct_eq_false {w : Text} {ws : List Text} {line : Text}
    (hwords : Text.words line = w :: ws) (hw : w ≠ "type") : opensStruct line = false := by
  rw [opensStruct, hwords]
  split
  · rename_i heq
    rw [← (List.cons.inj heq).1, beq_eq_false_iff_ne.2 hw, Bool.false_and]
  · rename_i heq
    rw [← (List.cons.inj heq).1, beq_eq_false_iff_ne.2 hw, Bool.false_and, Bool.false_and]
  · rfl

theorem Struct.Fit.words_head (h : s.Fit) :
    Text.words s.head = [("type" : Text), s.name, "struct", "\x7b"] := by
  have htype : Text.Unbroken "type" := Text.unbroken_of_any (by decide) rfl
  have hhead : s.head = ("type" : Text) ++ ' ' :: (s.name ++ ' ' :: "struct \x7b") := by
    simp [Struct.head_eq]
  rw [hhead, htype.words_append_cons rfl, h.name_unbroken.words_append_cons rfl]
  rfl

theorem Struct.Fit.opensStruct_head (h : s.Fit) : opensStruct s.head = true := by
  rw [opensStruct, h.words_head]
  rfl

theorem Struct.tidy_head (s : Struct) : Text.Tidy s.head := by
  have hbrace : Text.Unbroken "\x7b" := Text.unbroken_of_any (by decide) rfl
  have hhead : s.head = ("type " ++ s.name ++ " struct " : Text) ++ ("\x7b" : Text) := by
    simp [Struct.head_eq]
  exact hhead ▸ hbrace.tidy_append _

theorem Struct.trim_head (s : Struct) : Text.trim s.head = s.head := by
  have hleft : Text.trimLeft s.head = s.head := rfl
  rw [Text.trim, hleft, s.tidy_head.trimRight_eq]

theorem Struct.words_comment (s : Struct) : ∃ ws, Text.words s.comment = ("//" : Text) :: ws := by
  have hslashes : Text.Unbroken "//" := Text.unbroken_of_any (by decide) rfl
  exact ⟨_, hslashes.words_append_cons (c := ' ') rfl
    (s.name ++ " is generated from an XSD element")⟩

theorem Struct.tidy_comment (s : Struct) : Text.Tidy s.comment := by
  have hlast : Text.Unbroken "element" := Text.unbroken_of_any (by decide) rfl
  have hcomment : s.comment = ("// " ++ s.name ++ " is generated from an XSD " : Text) ++
      ("element" : Text) := by
    simp [Struct.comment_eq]
  exact hcomment ▸ hlast.tidy_append _

theorem Struct.trim_comment (s : Struct) : Text.trim s.comment = s.comment := by
  have hleft : Text.trimLeft s.comment = s.comment := rfl
  rw [Text.trim, hleft, s.tidy_comment.trimRight_eq]

/-- **A printed struct is aligned on its own**, whatever comes after it. -/
theorem Struct.Fit.alignFrom_rawLines (h : s.Fit) (comments : Bool) (rest : List Text) :
    alignFrom none (s.rawLines comments ++ rest) = s.lines comments ++ alignFrom none rest := by
  have hbody : alignFrom none (s.head :: (s.rows.map Row.rawLine ++ ("\x7d" : Text) :: rest)) =
      s.head :: (alignBody (s.rows.map Row.content) ++ ("\x7d" : Text) :: alignFrom none rest) := by
    rw [alignFrom, s.trim_head, h.opensStruct_head, if_pos rfl, alignFrom_rows h.rows,
      List.nil_append]
  rw [alignBody_contents h.rows] at hbody
  cases comments with
  | false => simpa [Struct.rawLines, Struct.lines, Struct.around] using hbody
  | true =>
    obtain ⟨ws, hwords⟩ := s.words_comment
    have hcomment : opensStruct (Text.trim s.comment) = false := by
      rw [s.trim_comment]
      exact opensStruct_eq_false hwords (by decide)
    have hfirst : ∀ ls, alignFrom none (s.comment :: ls) = s.comment :: alignFrom none ls :=
      fun ls => by rw [alignFrom, hcomment, if_neg Bool.false_ne_true]
    simpa [Struct.rawLines, Struct.lines, Struct.around, hfirst] using hbody

end Source

end SchemaStructs
