import SchemaStructs.Text.Case
import SchemaStructs.Text.Word

/-!
# Names of identifiers

How the raw name of a schema becomes a Go identifier.  Four passes, in this order: initialisms get
their canonical spelling, spaces go, and what dashes and underscores separate is joined in camel
case.  The passes are also named one by one: `title`, `replaceInitialisms`, `squish`,
`dashToCamel`, `snakeToCamel`, and `normalize` and `normalizeTitle` for the whole.
-/

namespace SchemaStructs

namespace Naming

/-! ### Title case -/

/-- Upper-cases the first character of every word; `inside` says that the character before the text
belongs to a word. -/
def titleFrom (inside : Bool) : Text → Text
  | [] => []
  | c :: rest =>
    if Text.isWord c then
      if inside then c :: titleFrom true rest else Text.upperChar c ++ titleFrom true rest
    else c :: titleFrom false rest

/-- Upper-cases the first character of every word and leaves the others as they are. -/
def title (t : Text) : Text := titleFrom false t

/-! ### Initialisms -/

/-- The words that are spelled in capitals throughout.  The first one that starts at a position
wins, so the longer of two with a common start comes first. -/
def initialisms : List Text :=
  Text.ofStrings
    ["Api", "Ascii", "Cpu", "Css", "Dns", "Eof", "Guid", "Html", "Https", "Http", "Id", "Ip",
     "Json", "Lhs", "Qps", "Ram", "Rhs", "Rpc", "Sla", "Smtp", "Sql", "Ssh", "Tcp", "Tls", "Ttl",
     "Udp", "Uid", "Ui", "Uuid", "Uri", "Url", "Utf8", "Vm", "Xml", "Xsrf", "Xss"]

/-- The initialism that a text starts with. -/
def initialismAt? (t : Text) : Option Text := initialisms.find? (·.isPrefixOf t)

/-- Spells the initialisms of a text in capitals, after passing over `skip` characters that belong
to one already spelled. -/
def capitalize (skip : Nat) : Text → Text
  | [] => []
  | c :: rest =>
    match skip with
    | n + 1 => capitalize n rest
    | 0 =>
      match initialismAt? (c :: rest) with
      | some word => word.map Char.toUpper ++ capitalize (word.length - 1) rest
      | none => c :: capitalize 0 rest

/-- Spells the initialisms of a text in capitals, from left to right. -/
def replaceInitialisms (t : Text) : Text := capitalize 0 t

/-! ### Separators -/

/-- The text without its spaces. -/
def squish (t : Text) : Text := t.filter (· != ' ')

/-- Joins what `sep` separates, with every part but the first in title case. -/
def foldSeparator (sep : Char) (t : Text) : Text :=
  match Text.splitOn sep t with
  | [] => []
  | first :: others => first ++ others.flatMap title

/-- Turns `foo-bar` into `fooBar`. -/
def dashToCamel (t : Text) : Text := foldSeparator '-' t

/-- Turns `foo_bar` into `fooBar`. -/
def snakeToCamel (t : Text) : Text := foldSeparator '_' t

/-! ### The whole -/

/-- The identifier of a raw name.  Its first character keeps its case. -/
def normalize (raw : Text) : Text :=
  snakeToCamel (dashToCamel (squish (replaceInitialisms raw)))

/-- The identifier of a raw name that is to start with a capital, such as that of a field. -/
def normalizeTitle (raw : Text) : Text := normalize (title raw)

end Naming

end SchemaStructs
