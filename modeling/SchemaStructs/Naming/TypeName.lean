import SchemaStructs.Naming.Basic

/-!
# Names of types

The Go name of a schema type.  A primitive type is already spelled in Go; every other name gets the
prefix of the run, in front of its title form, and is normalized.
-/

namespace SchemaStructs

namespace Naming

/-- The types that Go provides. -/
def primitives : List Text := Text.ofStrings ["bool", "string", "int", "float64", "time.Time"]

/-- The name of a type that Go provides. -/
def isPrimitive (name : Text) : Bool := primitives.contains name

/-- How a run names its types. -/
structure TypeStyle where
  /-- What every generated type name starts with. -/
  lead : Text
  /-- Every generated type name starts with a capital. -/
  exported : Bool
  deriving DecidableEq, Repr, Inhabited

/-- The Go name of a schema type. -/
def TypeStyle.typeName (style : TypeStyle) (name : Text) : Text :=
  if isPrimitive name then name
  else
    let led := if style.lead.isEmpty then name else style.lead ++ title name
    normalize (if style.exported then title led else led)

end Naming

end SchemaStructs
