import SchemaStructs.Generator.Validation
import SchemaStructs.Log.Record

/-!
# Generating code

The whole way from a schema to code: validation, walk, assembly and formatting
(`Generator.generate` for the text alone, `Generator.result` with warnings, a summary and the log).
-/

namespace SchemaStructs

/-- What is known about generated code. -/
structure Summary where
  /-- The number of roots. -/
  roots : Nat
  /-- The number of elements of the schema. -/
  elements : Nat
  /-- The number of declarations. -/
  declarations : Nat
  /-- The Go names of the declared types. -/
  declaredTypes : List Text
  /-- The name of the package, or a word for a fragment. -/
  package : Json

namespace Summary

open Json (entry)

/-- The summary as the members of an object. -/
def toMembers (s : Summary) : List (Text × Json) :=
  [entry "language" (.str "go"), entry "file_extension" (.str ".go"),
    entry "root_count" (.int s.roots), entry "element_count" (.int s.elements),
    entry "declaration_count" (.int s.declarations),
    entry "declared_types" (.str (Text.joinWith ", " s.declaredTypes)),
    entry "package" s.package]

end Summary

/-- What a run gives. -/
inductive GenerationResult where
  /-- Generated code, what may be wrong with it and what is known about it. -/
  | success (code : Text) (warnings : List Warning) (summary : Summary)
  /-- No code. -/
  | failed (failure : GenerationFailure)

/-! ### What is logged -/

namespace Loggers

/-- The part of the program that runs generators. -/
def generation : Text := "xsdgen.codegen.core.generator"

/-- The part of the program that renders templates. -/
def templates : Text := "xsdgen.codegen.core.templates"

/-- The part of the program that walks schemas. -/
def walk : Text := "xsdgen.codegen.languages.go.generator"

/-- The part of the program that formats source. -/
def format : Text := "xsdgen.codegen.languages.go.formatter"

end Loggers

/-- The record of an event. -/
def Walk.Event.record : Walk.Event → LogRecord
  | .skipped name =>
    { level := .debug, logger := Loggers.walk
      message := "Skipping primitive root '" ++ name ++ "'" }
  | .declared d =>
    { level := .debug, logger := Loggers.walk
      message := "Declared '" ++ d.typeName ++ "' from element '" ++ d.name ++ "'" }
  | .repeated name =>
    { level := .debug, logger := Loggers.walk
      message := "Element '" ++ name ++ "' already declared" }
  | .redefined name =>
    { level := .warning, logger := Loggers.walk, message := (Warning.redefined name).message }

/-- The records of a failure: a template that cannot be rendered is reported where it happens. -/
def GenerationFailure.records : GenerationFailure → List LogRecord
  | .declaration _ template cause | .package template cause =>
    [{ level := .error, logger := Loggers.templates, message := cause.report template }]
  | _ => []

/-- The records of a walk. -/
def Walk.Outcome.records (o : Walk.Outcome) : List LogRecord :=
  o.events.map Walk.Event.record ++ (o.failure.map GenerationFailure.records).getD []

/-- The records of the import of a package. -/
def Source.ImportPlace.records : Source.ImportPlace → List LogRecord
  | .nowhere => []
  | .afterPackage =>
    [{ level := .debug, logger := Loggers.format
       message := "Added time import after package clause" }]
  | .top =>
    [{ level := .debug, logger := Loggers.format, message := "Added time import to fragment" }]

namespace Generator

/-- The records of formatting a source. -/
def formatRecords (gen : Generator) (source : Text) : List LogRecord :=
  if gen.settings.format.truthy && (Source.check source).isOk then
    (Source.importPlace (Source.layout source)).records
  else []

/-! ### Code -/

/-- The texts of the declarations of some events. -/
def declarationTexts (events : List Walk.Event) : List Text :=
  (Walk.declarations events).map (·.text)

/-- The assembled source of a schema, before it is formatted. -/
def source (gen : Generator) (g : Graph) (roots : List ElementId) :
    Except GenerationFailure Text := do
  let run ← gen.collect g roots
  gen.assemble run.declarations

/-- The code of a schema. -/
def generate (gen : Generator) (g : Graph) (roots : List ElementId) :
    Except GenerationFailure Text := do
  let source ← gen.source g roots
  gen.formatted source

/-- The records of generating the code of a schema. -/
def generateRecords (gen : Generator) (g : Graph) (roots : List ElementId) : List LogRecord :=
  (gen.walk g roots).records ++
    match gen.collect g roots with
    | .error _ => []
    | .ok run =>
      match gen.assemble run.declarations with
      | .error failure => failure.records
      | .ok source => gen.formatRecords source

/-- The summary of a run that has collected `run`. -/
def summary (gen : Generator) (g : Graph) (roots : List ElementId) (run : Walk.Collected) :
    Summary :=
  { roots := roots.length
    elements := g.count roots
    declarations := run.declarations.length
    declaredTypes := run.declaredTypes
    package := if gen.settings.packageName.truthy then gen.settings.packageName
      else .str "(fragment)" }

/-- The code of a schema with what is known about it. -/
def attempt (gen : Generator) (g : Graph) (roots : List ElementId) :
    Except GenerationFailure GenerationResult := do
  let warnings ← gen.validate g roots
  let run ← gen.collect g roots
  let source ← gen.assemble run.declarations
  let code ← gen.formatted source
  return .success code (warnings ++ run.warnings) (gen.summary g roots run)

/-- The result of a run: a failure is part of the result, unless a value was misused. -/
def result (gen : Generator) (g : Graph) (roots : List ElementId) :
    Except Template.Failure GenerationResult :=
  match gen.attempt g roots with
  | .ok r => .ok r
  | .error (.misuse cause) => .error cause
  | .error failure => .ok (.failed failure)

/-- The records of a run. -/
def resultRecords (gen : Generator) (g : Graph) (roots : List ElementId) : List LogRecord :=
  match gen.validate g roots with
  | .error _ => []
  | .ok _ =>
    gen.generateRecords g roots ++
      match gen.result g roots with
      | .ok (.success _ _ summary) =>
        [{ level := .info, logger := Loggers.generation
           message := "Generated " ++ Text.ofNat summary.declarations ++ " declaration(s) from "
            ++ Text.ofNat summary.roots ++ " root(s)" }]
      | .ok (.failed failure) =>
        [{ level := .error, logger := Loggers.generation
           message := "Code generation failed: " ++ failure.message }]
      | .error _ => []

/-- The result of a run with its records. -/
def run (gen : Generator) (g : Graph) (roots : List ElementId) :
    Logged (Except Template.Failure GenerationResult) :=
  { records := gen.resultRecords g roots, value := gen.result g roots }

end Generator

end SchemaStructs
