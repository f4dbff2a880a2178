import SchemaStructs.Proofs.Generator.Fields

/-!
# Declarations line by line

The declaration of an element, with its lines written down (`Printer.declarationLines`): those of
the comment if there is to be one, the head, a line for each attribute, for each child and for the
character data, and the closing brace.  `Generator.render_eq_unlines` says that the templates print
these lines, whatever the names and types are.  What looks like a part of a template in a name is
printed as it is, and so are quotes and the ends of lines.

The names of elements and attributes are put into tags as they are.  They stand in front of types as
identifiers, as far as the naming passes make such of them.
-/

namespace SchemaStructs

open Naming Source

namespace Printer

open StructTemplates

/-- The lines of a comment: those of the text, with slashes before each that is not blank. -/
def commentLines (t : Text) : List Text :=
  (Text.lines t).map fun line => if line.all Text.isBlank then line else "// " ++ line

/-- The lines of the declaration of an element. -/
def declarationLines (s : Settings) (g : Graph) (i : ElementId) : List Text :=
  let struct := s.style.typeName (g.name i)
  (if s.comments.truthy then commentLines (struct ++ " is generated from an XSD element") else [])
    ++ ("type " ++ struct ++ " struct \x7b")
      :: (rowsOf s.style g (g.get i)).map Row.rawLine
    ++ [("\x7d" : Text)]

variable {s : Settings} {g : Graph} {i : ElementId}

theorem commented_append_newline (t : Text) :
    Template.commented "//" t ++ ['\n'] = Text.ended (commentLines t) := by
  have hne : commentLines t ≠ [] := by
    rw [commentLines, Ne, List.map_eq_nil_iff, Text.lines, Text.splitOn_eq_splitOn]
    exact List.splitOnP_ne_nil _ t
  have hcommented : Template.commented "//" t = Text.unlines (commentLines t) := rfl
  rw [hcommented, Text.unlines_append_newline hne]

/-- **The text of a declaration is that of its lines.** -/
theorem declarationText_eq_unlines (s : Settings) (g : Graph) (i : ElementId) :
    declarationText s (g.name i) (g.shape i) = Text.unlines (declarationLines s g i) := by
  have hcomment : (if s.comments.truthy then Template.commented "//"
        (s.style.typeName (g.name i) ++ " is generated from an XSD element") ++ "\n" else []) =
      Text.ended (if s.comments.truthy then
        commentLines (s.style.typeName (g.name i) ++ " is generated from an XSD element")
      else []) := by
    cases s.comments.truthy with
    | false => rfl
    | true => exact commented_append_newline _
  have hhead : (" struct \x7b\n" : Text) = " struct \x7b" ++ ['\n'] := rfl
  rw [declarationText_eq_rows, opening, hcomment, hhead, declarationLines, Text.unlines_concat]
  simp only [Text.ended_append, Text.ended_cons, List.append_assoc, List.cons_append,
    List.nil_append]

end Printer

namespace Generator

open Printer

variable {gen : Generator} {g : Graph} {i : ElementId}

/-- **The templates print the declaration.**  Rendering an element succeeds if its name and type,
those of its attributes and those of its children are texts, and gives the lines of its declaration,
without a newline after the last one. -/
theorem render_eq_unlines (hgen : gen.Standard) (hi : (g.get i).Textual)
    (hchildren : ∀ c ∈ g.children i, (g.get c).Named) :
    gen.render g i = .ok (Text.unlines (declarationLines gen.settings g i)) := by
  rw [hgen.render_eq hi hchildren, declarationText_eq_unlines]

/-! ### Names that look like templates -/

/-- Names with delimiters of templates, quotes and ends of lines; the child has an attribute without
a name. -/
def delimitedTrees : List Tree :=
  [.node (.str "\x7b\x7b a \x7d\x7d\nb-id") (.str "`\x7b% raw %\x7d")
    [{ name := .str "x\"y\n\"", type := .str "\x7b# c" }]
    [.node (.str "q\x7b%") (.str "string") [{ name := .null, type := .bool false }] []
      (.bool true) .null]
    (.bool false) (.str "yes")]

/-- The graph of these names: the child comes first. -/
abbrev delimited : Graph := (Graph.ofTrees delimitedTrees).1

/-- A generator with a prefix of two lines. -/
def delimitedGenerator : Generator :=
  let settings : Settings := { lead := .str "\n\x7b\x7b", exported := .bool true }
  { settings, strategy := .first, library := libraryFor settings }

theorem render_eq_unlines_delimited :
    delimitedGenerator.Standard ∧ (delimited.get 1).Textual ∧
    (∀ c ∈ delimited.children 1, (delimited.get c).Named) ∧
    delimitedGenerator.render delimited 1 = .ok (Text.unlines (Text.ofStrings
      ["",
        "// \x7b\x7b\x7b\x7bA\x7d\x7d",
        "// BID is generated from an XSD element",
        "type ",
        "\x7b\x7b\x7b\x7bA\x7d\x7d",
        "BID struct \x7b",
        "\tX\"Y",
        "\" ",
        "\x7b\x7b\x7b#C `xml:\"x\"y",
        "\",attr\"`",
        "\tQ\x7b% []string `xml:\"q\x7b%\"`",
        "\t\x7b\x7bA\x7d\x7d",
        "BID `\x7b%raw%\x7d `xml:\",chardata\"`",
        "\x7d"])) := by
  have hstandard : delimitedGenerator.Standard := ⟨rfl, rfl⟩
  have htext : (delimited.get 1).Textual := by decide +kernel
  have hchildren : ∀ c ∈ delimited.children 1, (delimited.get c).Named := by
    intro c hc
    obtain rfl := List.mem_singleton.1 hc
    exact ⟨rfl, rfl⟩
  refine ⟨hstandard, htext, hchildren, ?_⟩
  rw [render_eq_unlines hstandard htext hchildren]
  refine congrArg Except.ok ?_
  simp (disch := exact rfl) only [Text.ofStrings, List.map, StructTemplates.toList_of_eq_ofList]
  decide +kernel

end Generator

end SchemaStructs
