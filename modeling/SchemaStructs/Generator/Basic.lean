import SchemaStructs.Generator.Templates
import SchemaStructs.Settings
import SchemaStructs.Source.Format

/-!
# Generators

A generator is made of settings, a strategy for conflicts and a library of templates.  Its parts
are independent of any schema: how it names types, how it renders the declaration of an element
(`Generator.render`) and the package clause, and how it formats the generated source.
-/

namespace SchemaStructs

/-- Why no code was generated. -/
inductive GenerationFailure where
  /-- An element contains itself; the names on the way to it. -/
  | cyclic (path : List Text)
  /-- Two elements share a name but differ in structure. -/
  | conflict (name : Text)
  /-- The declaration of an element cannot be rendered. -/
  | declaration (name : Text) (template : Text) (cause : Template.Failure)
  /-- The package clause cannot be rendered. -/
  | package (template : Text) (cause : Template.Failure)
  /-- The generated source is not well formed. -/
  | format (fault : BalanceFault)
  /-- A value that is no name stands, outside of any template, where a name is needed. -/
  | misuse (cause : Template.Failure)

/-- A failure to render a template in words. -/
def Template.Failure.report (template : Text) (f : Template.Failure) : Text :=
  "Failed to render template " ++ template ++ ": " ++ f.message

namespace GenerationFailure

/-- The failure in words. -/
def message : GenerationFailure → Text
  | cyclic path => "Cyclic schema: " ++ Text.joinWith " -> " path
  | conflict name =>
    "Element '" ++ name ++ "' is defined more than once with different structure"
  | declaration name template cause =>
    "Could not render element '" ++ name ++ "': " ++ cause.report template
  | package template cause => "Could not render package clause: " ++ cause.report template
  | format fault => fault.message
  | misuse cause => cause.message

/-- What lies behind the failure, in words, if it is a template that cannot be rendered. -/
def cause? : GenerationFailure → Option Text
  | declaration _ template cause | package template cause => some (cause.report template)
  | _ => none

end GenerationFailure

/-- What turns a schema into code. -/
structure Generator where
  /-- The settings of the run. -/
  settings : Settings
  /-- What to do with conflicts. -/
  strategy : ConflictStrategy
  /-- The templates. -/
  library : Template.Library

namespace Generator

/-- The templates of a generator with the given settings. -/
def libraryFor (s : Settings) : Template.Library :=
  { shelf := fun path => (StructTemplates.all.find? (path == [·.1])).map fun t => .ok t.2
    filters := ("field_type".toList, .fieldType)
      :: ("type_name".toList, .typeName s.lead s.exported.truthy) :: Template.basicFilters }

/-- The generator with the given settings, if their strategy for conflicts is known. -/
def ofSettings? (s : Settings) : Option Generator :=
  (ConflictStrategy.ofJson? s.onConflict).map fun strategy =>
    { settings := s, strategy, library := libraryFor s }

/-- The Go name of a schema type. -/
def typeName? (gen : Generator) (name : Json) : Except GenerationFailure Text :=
  (Template.Filter.typeNameOf? gen.settings.lead gen.settings.exported.truthy name).mapError .misuse

/-- The declaration of an element. -/
def render (gen : Generator) (g : Graph) (i : ElementId) : Except GenerationFailure Text :=
  (gen.library.render g StructTemplates.recordFile
    [("node".toList, .element i), ("add_comments".toList, .json gen.settings.comments)]).mapError
    (.declaration (g.name i) StructTemplates.recordFile)

/-- The header of the generated source with the package clause, if there is a package. -/
def packageClause? (gen : Generator) : Except GenerationFailure (Option Text) :=
  if !gen.settings.packageName.truthy then .ok none
  else
    ((gen.library.render {} StructTemplates.packageFile
      [("package_name".toList, .json gen.settings.packageName)]).map some).mapError
      (.package StructTemplates.packageFile)

/-- Declarations as one source, after the package clause. -/
def assemble (gen : Generator) (declarations : List Text) : Except GenerationFailure Text := do
  let clause ← gen.packageClause?
  return Text.joinWith "\n\n" (clause.toList ++ declarations) ++ ['\n']

/-- The source formatted, if the settings ask for it. -/
def formatted (gen : Generator) (source : Text) : Except GenerationFailure Text :=
  if gen.settings.format.truthy then (Source.format source).mapError .format else .ok source

end Generator

end SchemaStructs
