import SchemaStructs.Proofs.Naming.Plain
import SchemaStructs.Proofs.Source.Balance
import SchemaStructs.Proofs.Text.Blank
import SchemaStructs.Proofs.Text.Lines
import SchemaStructs.Source.Alignment

/-!
# Printed pages

A page of Go source as it is to look in the end (`Source.Page.text`).  Its paragraphs are set off by
blank lines: the comment at the top and the package clause if there is a package, the import of the
`time` package if a field needs it, and the structs.  A struct is a comment if there is to be one,
the head, a line for each field with its columns padded, and the closing brace
(`Source.Struct.lines`).

The templates print the same structs with single spaces between columns
(`Source.Struct.rawLines`), and no import.
-/

namespace SchemaStructs

namespace Source

/-! ### The page -/

/-- A field of a printed struct. -/
structure Row where
  /-- The name of the field. -/
  name : Text
  /-- Its type. -/
  type : Text
  /-- Its tag. -/
  tag : Text

/-- A printed struct. -/
structure Struct where
  /-- The name of the struct. -/
  name : Text
  /-- Its fields. -/
  rows : List Row

/-- The greatest length of some texts, zero if there is none. -/
def longest (ts : List Text) : Nat := (ts.map List.length).max?.getD 0

/-- The line of a field with its columns padded to the given widths. -/
def Row.line (nameWidth typeWidth : Nat) (r : Row) : Text :=
  "\t" ++ Text.padRight nameWidth r.name ++ " " ++ Text.padRight typeWidth r.type ++ " " ++ r.tag

/-- The line of a field with single spaces between columns. -/
def Row.rawLine (r : Row) : Text := "\t" ++ r.name ++ " " ++ r.type ++ " " ++ r.tag

namespace Struct

/-- The comment before the struct. -/
def comment (s : Struct) : Text := "// " ++ s.name ++ " is generated from an XSD element"

/-- The line that opens the struct. -/
def head (s : Struct) : Text := "type " ++ s.name ++ " struct \x7b"

-- Unfolding by a generated equation spells out the literal at the start, which is slow.
theorem comment_eq (s : Struct) :
    s.comment = "// " ++ s.name ++ " is generated from an XSD element" := rfl

theorem head_eq (s : Struct) : s.head = "type " ++ s.name ++ " struct \x7b" := rfl

/-- The lines of the struct around those of its fields. -/
def around (s : Struct) (comments : Bool) (fields : List Text) : List Text :=
  (if comments then [s.comment] else []) ++ s.head :: (fields ++ [("\x7d" : Text)])

/-- The lines of the struct, in aligned columns. -/
def lines (comments : Bool) (s : Struct) : List Text :=
  s.around comments
    (s.rows.map (Row.line (longest (s.rows.map (·.name))) (longest (s.rows.map (·.type)))))

/-- The lines of the struct as the templates print them. -/
def rawLines (comments : Bool) (s : Struct) : List Text :=
  s.around comments (s.rows.map Row.rawLine)

/-- A field of the struct is of the type of times. -/
def needsTime (s : Struct) : Bool :=
  s.rows.any fun r => r.type == ("time.Time" : Text) || r.type == ("[]time.Time" : Text)

end Struct

/-- A page of source. -/
structure Page where
  /-- The name of the package, if there is one. -/
  package : Option Text
  /-- A comment stands before every struct. -/
  comments : Bool
  /-- The structs. -/
  structs : List Struct

/-- The comment at the top of a page. -/
def headerLine : Text := "// Code generated by xsdgen. DO NOT EDIT."

/-- The clause of a package. -/
def packageLine (name : Text) : Text := "package " ++ name

/-- The line that imports the `time` package. -/
def importLine : Text := "import \"time\""

namespace Page

/-- The paragraphs before the imports. -/
def heading (pg : Page) : List (List Text) :=
  match pg.package with
  | some name => [[headerLine], [packageLine name]]
  | none => []

/-- The paragraph of the import that the structs need. -/
def imports (pg : Page) : List (List Text) :=
  if pg.structs.any Struct.needsTime then [[importLine]] else []

/-- The text of the page. -/
def text (pg : Page) : Text :=
  Text.ended (Text.spaced (pg.heading ++ pg.imports ++ pg.structs.map (Struct.lines pg.comments)))

/-- The paragraphs of the page as the templates print them. -/
def rawParagraphs (pg : Page) : List (List Text) :=
  pg.heading ++ pg.structs.map (Struct.rawLines pg.comments)

end Page

/-! ### Fields and structs of words -/

open Naming

/-- The type of a field: that of a value, or a list of such values. -/
def IsFieldType (t : Text) : Prop := ∃ base, IsGoType base ∧ (t = base ∨ t = "[]" ++ base)

/-- The field is made of words, with a raw string for its tag. -/
structure Row.Fit (r : Row) : Prop where
  /-- The name is a word. -/
  name : IsGoWord r.name
  /-- The type is that of a field. -/
  type : IsFieldType r.type
  /-- The tag is one raw string on one line. -/
  tag : ∃ t, r.tag = '`' :: (t ++ ['`']) ∧ '`' ∉ t ∧ '\n' ∉ t

/-- The struct is made of words. -/
structure Struct.Fit (s : Struct) : Prop where
  /-- The name is a word. -/
  name : IsGoWord s.name
  /-- The fields are made of words. -/
  rows : ∀ r ∈ s.rows, r.Fit

/-- The name of a package: a letter, then letters, digits and underscores. -/
def isPackageName : Text → Bool
  | [] => false
  | c :: rest => c.isAlpha && rest.all fun d => d.isAlphanum || d == '_'

/-- The page is made of words. -/
structure Page.Fit (pg : Page) : Prop where
  /-- The package has a proper name. -/
  package : ∀ name ∈ pg.package, isPackageName name = true
  /-- The structs are made of words. -/
  structs : ∀ s ∈ pg.structs, s.Fit

/-- The character stands in names and types. -/
def isCodeChar (c : Char) : Bool :=
  c.isAlphanum || c == '_' || c == '.' || c == '[' || c == ']'

variable {r : Row} {s : Struct} {t rest : Text} {c : Char}

/-- What holds of the lines of a struct, one kind of line at a time. -/
theorem Struct.forall_around {P : Text → Prop} {comments : Bool} {fields : List Text}
    (hcomment : P s.comment) (hhead : P s.head) (hfields : ∀ l ∈ fields, P l)
    (hbrace : P ("\x7d" : Text)) : ∀ l ∈ s.around comments fields, P l := by
  intro l hl
  rcases List.mem_append.1 hl with hl | hl
  · cases comments with
    | false => cases hl
    | true => exact List.mem_singleton.1 hl ▸ hcomment
  · rcases List.mem_cons.1 hl with rfl | hl
    · exact hhead
    · rcases List.mem_append.1 hl with hl | hl
      · exact hfields l hl
      · exact List.mem_singleton.1 hl ▸ hbrace

/-- Characters of names and types are no blanks, do not matter for braces, and are no quotes. -/
theorem of_isCodeChar (h : isCodeChar c = true) :
    Text.isBlank c = false ∧ isInert c = true ∧ c ≠ '"' ∧ c ≠ '\x7d' := by
  have hascii : ∀ n < 128, isCodeChar (Char.ofNat n) = true →
      Text.isBlank (Char.ofNat n) = false ∧ isInert (Char.ofNat n) = true ∧ Char.ofNat n ≠ '"' ∧
        Char.ofNat n ≠ '\x7d' := by
    decide +kernel
  have hlt : c.val < 128 := by
    simp only [isCodeChar, Bool.or_eq_true, beq_iff_eq] at h
    rcases h with (((h | rfl) | rfl) | rfl) | rfl
    · exact val_lt_of_isAlphanum h
    all_goals decide
  exact Text.forall_ascii (P := fun c => isCodeChar c = true → Text.isBlank c = false ∧
    isInert c = true ∧ c ≠ '"' ∧ c ≠ '\x7d') hascii hlt h

/-- A text of characters that stand in names and types. -/
structure IsCode (t : Text) : Prop where
  /-- The text is not empty. -/
  ne_nil : t ≠ []
  /-- Its characters stand in names and types. -/
  isCodeChar : ∀ c ∈ t, isCodeChar c = true

theorem IsCode.unbroken (h : IsCode t) : Text.Unbroken t :=
  ⟨h.ne_nil, fun c hc => (of_isCodeChar (h.isCodeChar c hc)).1⟩

theorem isCode_of_isGoWord (h : IsGoWord t) : IsCode t :=
  ⟨h.ne_nil, fun c hc => by rw [Source.isCodeChar, h.isAlphanum c hc]; rfl⟩

theorem of_isPackageName (h : isPackageName t = true) :
    t ≠ [] ∧ ∀ c ∈ t, c.isAlphanum = true ∨ c = '_' := by
  cases t with
  | nil => cases h
  | cons c rest =>
    rw [isPackageName, Bool.and_eq_true, List.all_eq_true] at h
    obtain ⟨hfirst, hrest⟩ := h
    refine ⟨List.cons_ne_nil c rest, fun d hd => ?_⟩
    rcases List.mem_cons.1 hd with rfl | hd
    · exact .inl (Naming.isAlphanum_of_isAlpha hfirst)
    · exact (Bool.or_eq_true_iff.1 (hrest d hd)).imp_right beq_iff_eq.1

theorem isCode_of_isPackageName (h : isPackageName t = true) : IsCode t := by
  obtain ⟨hne, hchars⟩ := of_isPackageName h
  refine ⟨hne, fun c hc => ?_⟩
  rcases hchars c hc with hc | rfl
  · rw [Source.isCodeChar, hc]
    rfl
  · rfl

theorem isCode_of_isFieldType (h : IsFieldType t) : IsCode t := by
  obtain ⟨base, hbase, h⟩ := h
  have hcode : IsCode base := by
    rcases hbase with hbase | rfl
    · exact isCode_of_isGoWord hbase
    · exact ⟨by decide, List.all_eq_true.1 rfl⟩
  rcases h with rfl | rfl
  · exact hcode
  · refine ⟨by simp, fun c hc => ?_⟩
    rcases List.mem_append.1 hc with hc | hc
    · have hbrackets : ("[]" : Text).all Source.isCodeChar = true := rfl
      exact List.all_eq_true.1 hbrackets c hc
    · exact hcode.isCodeChar c hc

end Source

end SchemaStructs
