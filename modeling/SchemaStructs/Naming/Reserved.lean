import SchemaStructs.Text.Case
import SchemaStructs.Text.Identifier

/-!
# Reserved names of Go

The keywords, the predeclared identifiers that a generated type would hide, and what is wrong with
the name of a package (`PackageFault.of`).
-/

namespace SchemaStructs

namespace Naming

/-- The keywords of Go. -/
def keywords : List Text :=
  Text.ofStrings
    ["break", "case", "chan", "const", "continue", "default", "defer", "else", "fallthrough",
     "for", "func", "go", "goto", "if", "import", "interface", "map", "package", "range", "return",
     "select", "struct", "switch", "type", "var"]

/-- The predeclared identifiers of Go. -/
def predeclared : List Text :=
  Text.ofStrings
    ["any", "bool", "byte", "comparable", "complex64", "complex128", "error", "float32", "float64",
     "int", "int8", "int16", "int32", "int64", "rune", "string", "uint", "uint8", "uint16",
     "uint32", "uint64", "uintptr", "true", "false", "iota", "nil"]

/-- The name is a keyword. -/
def isKeyword (name : Text) : Bool := keywords.contains name

/-- The name hides a predeclared identifier. -/
def isPredeclared (name : Text) : Bool := predeclared.contains name

end Naming

/-- What is wrong with, or unusual about, the name of a package. -/
inductive PackageFault where
  /-- The name is empty. -/
  | empty
  /-- The name is no identifier. -/
  | notIdentifier (name : Text)
  /-- The name starts with a capital letter. -/
  | capitalized
  /-- The name contains an underscore. -/
  | underscore
  /-- The name contains a hyphen. -/
  | hyphen
  /-- The name is a keyword, in any case of its letters. -/
  | keyword (name : Text)
  deriving DecidableEq

namespace PackageFault

/-- All that is wrong with the name of a package. -/
def of : Text → List PackageFault
  | [] => [empty]
  | first :: rest =>
    let name := first :: rest
    (if Text.isIdentifier name then [] else [notIdentifier name])
      ++ (if Text.isCapital first then [capitalized] else [])
      ++ (if name.contains '_' then [underscore] else [])
      ++ (if name.contains '-' then [hyphen] else [])
      ++ (if Naming.isKeyword (Text.lower name) then [keyword name] else [])

/-- The fault in words. -/
def message : PackageFault → Text
  | empty => "Package name cannot be empty"
  | notIdentifier name => "'" ++ name ++ "' is not a valid Go identifier"
  | capitalized => "Package names should be lowercase"
  | underscore => "Package names should not contain underscores"
  | hyphen => "Package names should not contain hyphens"
  | keyword name => "'" ++ name ++ "' is a Go reserved word"

end PackageFault

end SchemaStructs
