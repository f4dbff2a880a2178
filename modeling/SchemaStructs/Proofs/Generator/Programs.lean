import SchemaStructs.Generator.Basic
import SchemaStructs.Proofs.Template.Same

/-!
# The programs of the templates

What the reader makes of the templates of the generator, written down as programs: the three
routines for the forms of a field (`attributeForm`, `childForm`, `characterForm`), the template that
defines them (`fieldsProgram`), and the declaration of an element (`recordProgram`).  A library for
any settings has these programs (`program?_fieldsFile`, `program?_recordFile`).

That a template reads as its program is evaluated by the kernel, for which decoding a string is
slow; so the characters of all literals are written out first (`read_of_same`,
`toList_of_eq_ofList`).
-/

namespace SchemaStructs

namespace StructTemplates

open Template

/-- A member of the value of a name. -/
def part (owner field : Text) : Expr := .member (.named owner) field

/-- A filter applied to a value without further arguments. -/
def through (filter : Text) (e : Expr) : Expr := .filtered e filter []

/-- A form of a field, applied to the value of a name. -/
def formed (form arg : Text) : Expr := .call (part "fields" form) [(none, .named arg)]

/-- The field of an attribute. -/
def attributeForm : Routine :=
  { name := "attr"
    params := [("a" : Text)]
    body := [.output (through "lint_title" (part "a" "name")), .text " ",
      .output (through "type_name" (part "a" "type")), .text " `xml:\"",
      .output (part "a" "name"), .text ",attr\"`"] }

/-- The field of a child element. -/
def childForm : Routine :=
  { name := "child"
    params := [("c" : Text)]
    body := [.output (through "lint_title" (part "c" "name")), .text " ",
      .choose (part "c" "list") [.text "[]"] [],
      .output (through "type_name" (through "field_type" (.named "c"))), .text " `xml:\"",
      .output (part "c" "name"), .text "\"`"] }

/-- The field of the character data of an element. -/
def characterForm : Routine :=
  { name := "chardata"
    params := [("n" : Text)]
    body := [.output (through "lint_title" (part "n" "name")), .text " ",
      .output (through "lint" (part "n" "type")), .text " `xml:\",chardata\"`"] }

/-- The statement that defines a routine. -/
def defined (r : Routine) : Statement := .define r.name r.params r.body

/-- The program of the template of the fields. -/
def fieldsProgram : List Statement :=
  [defined attributeForm, .text "\n", defined childForm, .text "\n", defined characterForm]

/-- The program of the template of a declaration. -/
def recordProgram : List Statement :=
  [.load fieldsFile "fields",
    .assign "struct_name" (through "type_name" (part "node" "name")),
    .choose (.named "add_comments")
      [.output (through "comment" (.binary .join (.named "struct_name")
        (.literal (.str " is generated from an XSD element")))), .text "\n"] [],
    .text "type ", .output (.named "struct_name"), .text " struct \x7b\n",
    .each "a" (part "node" "attribs") [.text "\t", .output (formed "attr" "a"), .text "\n"],
    .each "c" (part "node" "children") [.text "\t", .output (formed "child" "c"), .text "\n"],
    .choose (part "node" "cdata") [.text "\t", .output (formed "chardata" "node"), .text "\n"] [],
    .text "\x7d"]

/-- The characters of a literal, if they are known. -/
theorem toList_of_eq_ofList {s : String} {t : Text} (h : s = String.ofList t) : s.toList = t := by
  rw [h, String.toList_ofList]

theorem read_of_same {t u : Text} {program : List Statement} (htext : t = u)
    (h : (match read u with | .ok p => sameAll p program | .error _ => false) = true) :
    read t = .ok program := by
  rw [htext]
  cases hr : read u with
  | error e => rw [hr] at h; cases h
  | ok p => rw [hr] at h; rw [eq_of_sameAll h]

theorem read_fieldsTemplate : read fieldsTemplate = .ok fieldsProgram := by
  refine read_of_same (u := ?_) ?text ?same
  case text =>
    simp (disch := exact rfl) only [fieldsTemplate, tagBeforeText, tagAfterText, note, tag, print,
      toList_of_eq_ofList]
    rfl
  case same => decide +kernel

theorem read_recordTemplate : read recordTemplate = .ok recordProgram := by
  refine read_of_same (u := ?_) ?text ?same
  case text =>
    simp (disch := exact rfl) only [recordTemplate, note, tag, print, toList_of_eq_ofList]
    rfl
  case same => decide +kernel

variable {s : Settings}

/-- A template on the shelf that reads as a program with known filters. -/
theorem program?_of_read {file t : Text} {program : List Statement}
    (hfile : (Generator.libraryFor s).text? file = .ok t) (hread : read t = .ok program)
    (hknown : unknownFilterInAll?
      (fun name => (Generator.libraryFor s).filters.any (·.1 == name)) program = none) :
    (Generator.libraryFor s).program? file = .ok program := by
  have hcompile : (Generator.libraryFor s).compile t = .ok program := by
    simp only [Library.compile, hread, bind, Except.bind, hknown]
    rfl
  rw [Library.program?, hfile]
  exact hcompile

/-- Every library has the program of the fields. -/
theorem program?_fieldsFile : (Generator.libraryFor s).program? fieldsFile = .ok fieldsProgram :=
  program?_of_read rfl read_fieldsTemplate rfl

/-- Every library has the program of a declaration. -/
theorem program?_recordFile : (Generator.libraryFor s).program? recordFile = .ok recordProgram :=
  program?_of_read rfl read_recordTemplate rfl

end StructTemplates

end SchemaStructs
