import SchemaStructs.Template.Library

/-!
# The templates of the generator

The text of a struct declaration, of its fields and of the package clause.  A field has one of three
forms: for an attribute, for a child element and for the character data of the element itself.
-/

namespace SchemaStructs

namespace StructTemplates

/-! ### Delimiters -/

/-- A note, which prints nothing. -/
def note (t : Text) : Text := "\x7b# " ++ t ++ " #\x7d"

/-- A tag. -/
def tag (t : Text) : Text := "\x7b% " ++ t ++ " %\x7d"

/-- A tag that removes the blanks after it. -/
def tagBeforeText (t : Text) : Text := "\x7b% " ++ t ++ " -%\x7d"

/-- A tag that removes the blanks before it. -/
def tagAfterText (t : Text) : Text := "\x7b%- " ++ t ++ " %\x7d"

/-- An expression to print. -/
def print (t : Text) : Text := "\x7b\x7b " ++ t ++ " \x7d\x7d"

/-! ### Templates -/

/-- The name of the template of a declaration. -/
def recordFile : Text := "record.go.j2"

/-- The name of the template of the fields. -/
def fieldsFile : Text := "fields.go.j2"

/-- The name of the template of the package clause. -/
def packageFile : Text := "package.go.j2"

/-- The three forms of a field. -/
def fieldsTemplate : Text := Text.unlines
  [ note "Struct field generated from an element attribute",
    tagBeforeText "macro attr(a)",
    print "a.name | lint_title" ++ " " ++ print "a.type | type_name"
      ++ " `xml:\"" ++ print "a.name" ++ ",attr\"`",
    tagAfterText "endmacro",
    "",
    note "Struct field generated from a child element",
    tagBeforeText "macro child(c)",
    print "c.name | lint_title" ++ " " ++ tag "if c.list" ++ "[]" ++ tag "endif"
      ++ print "c | field_type | type_name" ++ " `xml:\"" ++ print "c.name" ++ "\"`",
    tagAfterText "endmacro",
    "",
    note "Struct field generated from the character data of an element",
    tagBeforeText "macro chardata(n)",
    print "n.name | lint_title" ++ " " ++ print "n.type | lint" ++ " `xml:\",chardata\"`",
    tagAfterText "endmacro",
    "" ]

/-- The declaration of an element. -/
def recordTemplate : Text := Text.unlines
  [ note "Struct generated from a non-primitive element",
    tag "import \"fields.go.j2\" as fields",
    tag "set struct_name = node.name | type_name",
    tag "if add_comments",
    print "(struct_name ~ \" is generated from an XSD element\") | comment",
    tag "endif",
    "type " ++ print "struct_name" ++ " struct \x7b",
    tag "for a in node.attribs",
    "\t" ++ print "fields.attr(a)",
    tag "endfor",
    tag "for c in node.children",
    "\t" ++ print "fields.child(c)",
    tag "endfor",
    tag "if node.cdata",
    "\t" ++ print "fields.chardata(node)",
    tag "endif",
    "\x7d",
    "" ]

/-- The header of the generated source and its package clause. -/
def packageTemplate : Text := Text.unlines
  [ print "\"Code generated by xsdgen. DO NOT EDIT.\" | comment",
    "",
    "package " ++ print "package_name",
    "" ]

/-- The templates of the generator by name. -/
def all : List (Text × Text) :=
  [(recordFile, recordTemplate), (fieldsFile, fieldsTemplate), (packageFile, packageTemplate)]

end StructTemplates

end SchemaStructs
