import SchemaStructs.Files.Tree
import SchemaStructs.Generator.Generate

/-!
# What the program tells its user

Lines of styled text, and a table that sums a run up.  The style of a part of a line is written as
markup around it (`Notice.markup`); what the user sees without any style is `Notice.plain`.
-/

namespace SchemaStructs

namespace Cli

/-- How a part of a line looks. -/
inductive Style where
  | red | yellow | green | cyan | dim
  deriving DecidableEq, Repr

/-- The name of a style in markup. -/
def Style.name : Style → Text
  | red => "red"
  | yellow => "yellow"
  | green => "green"
  | cyan => "cyan"
  | dim => "dim"

/-- A part of a line. -/
structure Span where
  /-- How it looks, if it is special. -/
  style : Option Style
  /-- What it says. -/
  text : Text

namespace Span

/-- A part in a style. -/
def styled (style : Style) (text : Text) : Span := { style := some style, text }

/-- A part without a style. -/
def plain (text : Text) : Span := { style := none, text }

/-- The part with its style as markup. -/
def markup (s : Span) : Text :=
  match s.style with
  | none => s.text
  | some style => '[' :: style.name ++ ']' :: s.text ++ "[/" ++ style.name ++ [']']

end Span

/-- What the program tells its user. -/
inductive Notice where
  /-- A line of text. -/
  | line (spans : List Span)
  /-- A table with a title, a heading for each column and rows. -/
  | table (title : Text) (headings : List Text) (rows : List (List Text))

namespace Notice

/-- A line with markup for its styles. -/
def markup (spans : List Span) : Text := spans.flatMap Span.markup

/-- The notice without styles. -/
def plain : Notice → Text
  | line spans => spans.flatMap (·.text)
  | table title headings rows =>
    Text.unlines (title :: (headings :: rows).map (Text.joinWith "  "))

/-- An empty line. -/
def empty : Notice := line []

/-- The arguments or the schema are of no use. -/
def failure (message : Text) : Notice :=
  line [.styled .red "✗ Error:", .plain (' ' :: message)]

/-- A setting is suspicious. -/
def settingWarning (message : Text) : Notice := line [.styled .yellow ("⚠️  " ++ message)]

/-- No code was generated. -/
def generationFailure (f : GenerationFailure) : Notice :=
  line [.styled .red "✗ Code generation failed:",
    .plain (" Code generation failed: " ++ f.message)]

/-- What lies behind a failure. -/
def details (message : Text) : Notice := line [.styled .dim ("Details: " ++ message)]

/-- The code cannot be written. -/
def writeFailure (path : Path) (cause : FileFault) : Notice :=
  line [.styled .red ("✗ Failed to write to " ++ path.toText ++ ":"), .plain (' ' :: cause.message)]

/-- The code was written. -/
def written (path : Path) : Notice :=
  line [.styled .green "✓", .plain " Generated Go code saved to ", .styled .cyan path.toText]

/-- The heading over the warnings about the code. -/
def warningHeading : Notice := line [.plain ['\n'], .styled .yellow "⚠️  Warnings:"]

/-- A warning about the code. -/
def warning (w : Warning) : Notice :=
  line [.plain "  ", .styled .yellow "•", .plain (' ' :: w.message)]

/-- A summary as a table. -/
def summary (s : Summary) : Notice :=
  table "📊 Generation Metadata" [("Property" : Text), ("Value" : Text)]
    (s.toMembers.map fun (key, value) => [heading key, value.display])
where
  /-- A key as a heading: its words, each with a capital. -/
  heading (key : Text) : Text :=
    Text.joinWith [' '] ((Text.splitOn '_' key).map Naming.title)

end Notice

end Cli

end SchemaStructs
