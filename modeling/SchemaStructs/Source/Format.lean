import SchemaStructs.Source.Alignment
import SchemaStructs.Source.Balance
import SchemaStructs.Text.Word

/-!
# Formatted source

The formatting pass over generated Go source: the braces are checked, struct bodies aligned,
trailing blanks and repeated blank lines removed, and the `time` package imported if the code
refers to it (`Source.format`).
-/

namespace SchemaStructs

namespace Source

/-! ### Blank lines -/

/-- Removes trailing blanks and superfluous blank lines; `started` says that a line was kept, `gap`
that a blank line was passed over since. -/
def collapseFrom (started gap : Bool) : List Text → List Text
  | [] => []
  | line :: rest =>
    match Text.trimRight line with
    | [] => collapseFrom started true rest
    | kept =>
      if started && gap then [] :: kept :: collapseFrom true false rest
      else kept :: collapseFrom true false rest

/-- The lines without trailing blanks, with one blank line where there were several, and with none
at either end. -/
def collapse (lines : List Text) : List Text := collapseFrom false false lines

/-! ### The time package -/

/-- Leaves out the raw strings of a line, given what stands between its backticks. -/
def outsideTags : List Text → Text
  | [] => []
  | [piece] => piece
  | [piece, unclosed] => piece ++ '`' :: unclosed
  | piece :: _ :: rest => piece ++ outsideTags rest

/-- The line refers to the `time` package; `inside` says that the character before belongs to a
word. -/
def mentionsTime (inside : Bool) : Text → Bool
  | [] => false
  | c :: rest =>
    (!inside && ("time." : Text).isPrefixOf (c :: rest)) || mentionsTime (Text.isWord c) rest

/-- The line is a comment. -/
def isCommentLine (line : Text) : Bool := ("//" : Text).isPrefixOf (Text.trimLeft line)

/-- The source refers to the `time` package outside of comment lines and struct tags. -/
def usesTime (source : Text) : Bool :=
  (Text.lines source).any fun line =>
    !isCommentLine line && mentionsTime false (outsideTags (Text.splitOn '`' line))

/-- The line imports the `time` package. -/
def importsTime (line : Text) : Bool :=
  match Text.words line with
  | [path] => path == ("\"time\"" : Text)
  | [keyword, path] => keyword == ("import" : Text) && path == ("\"time\"" : Text)
  | _ => false

/-- The line that imports the `time` package. -/
def timeImport : Text := "import \"time\""

/-- Where the import of the `time` package goes. -/
inductive ImportPlace where
  /-- Nowhere: it is not needed, or there already. -/
  | nowhere
  /-- After the package clause. -/
  | afterPackage
  /-- At the top of a source without a package clause. -/
  | top
  deriving DecidableEq, Repr

/-- The line is a package clause. -/
def isPackageClause (line : Text) : Bool := ("package " : Text).isPrefixOf line

/-- Where the import of the `time` package goes in a source. -/
def importPlace (source : Text) : ImportPlace :=
  let lines := Text.lines source
  if !usesTime source || lines.any importsTime then .nowhere
  else if lines.any isPackageClause then .afterPackage
  else .top

/-- Puts lines after the first package clause. -/
def insertAfterPackage (new : List Text) : List Text → List Text
  | [] => []
  | line :: rest =>
    if isPackageClause line then line :: (new ++ rest) else line :: insertAfterPackage new rest

/-- The source with the import of the `time` package that it needs. -/
def resolveImports (source : Text) : Text :=
  match importPlace source with
  | .nowhere => source
  | .afterPackage => Text.unlines (insertAfterPackage [[], timeImport] (Text.lines source))
  | .top => timeImport ++ '\n' :: '\n' :: source

/-! ### The whole pass -/

/-- The source with struct bodies aligned and blank lines collapsed, each line ended by a
newline. -/
def layout (source : Text) : Text :=
  match collapse (align (Text.lines source)) with
  | [] => []
  | lines => Text.unlines lines ++ ['\n']

/-- Formats a source, or says why it is not well formed. -/
def format (source : Text) : Except BalanceFault Text := do
  check source
  return resolveImports (layout source)

end Source

end SchemaStructs
