import SchemaStructs.Text.Basic

/-!
# Warnings

What may be wrong with code although it is generated.
-/

namespace SchemaStructs

/-- Something that may be wrong with the generated code. -/
inductive Warning where
  /-- There are no roots. -/
  | noRoots
  /-- The name of a type is a keyword. -/
  | keyword (typeName element : Text)
  /-- The name of a type hides a predeclared identifier. -/
  | predeclared (typeName element : Text)
  /-- The name of a type is no identifier. -/
  | badTypeName (typeName element : Text)
  /-- The name of a field is no identifier. -/
  | badFieldName (field member struct : Text)
  /-- Two fields of a struct have one name. -/
  | sameField (first second struct field : Text)
  /-- A field refers to a type that no element declares. -/
  | dangling (field struct type element declared : Text)
  /-- An element was declared already with another structure. -/
  | redefined (name : Text)
  deriving DecidableEq

namespace Warning

/-- The warning in words. -/
def message : Warning → Text
  | noRoots => "No root elements - nothing to generate"
  | keyword typeName element =>
    "Type name '" ++ typeName ++ "' for element '" ++ element ++ "' is a Go keyword"
  | predeclared typeName element =>
    "Type name '" ++ typeName ++ "' for element '" ++ element
      ++ "' shadows a predeclared Go identifier"
  | badTypeName typeName element =>
    "Type name '" ++ typeName ++ "' for element '" ++ element
      ++ "' is not a valid Go identifier"
  | badFieldName field member struct =>
    "Field name '" ++ field ++ "' for '" ++ member ++ "' of " ++ struct
      ++ " is not a valid Go identifier"
  | sameField first second struct field =>
    "Fields '" ++ first ++ "' and '" ++ second ++ "' of " ++ struct ++ " both map to " ++ field
  | dangling field struct type element declared =>
    "Field '" ++ field ++ "' of " ++ struct ++ " refers to type " ++ type ++ ", but element '"
      ++ element ++ "' is declared as " ++ declared
  | redefined name =>
    "Element '" ++ name ++ "' redefined with different structure; keeping the first definition"

end Warning

end SchemaStructs
