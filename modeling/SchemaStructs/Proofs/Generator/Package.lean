import SchemaStructs.Proofs.Generator.Declaration
import SchemaStructs.Proofs.Source.Struct

/-!
# The package clause

What the templates of the generator print before the declarations if the name of the package is a
text: a comment, a blank line and the clause (`packageClause?_eq`).
-/

namespace SchemaStructs

namespace StructTemplates

open Template Source

/-- What the comment says. -/
def headerWords : Text := "Code generated by xsdgen. DO NOT EDIT."

theorem commented_headerWords : commented "//" headerWords = headerLine := by decide +kernel

/-- The program of the package clause. -/
def packageProgram : List Statement :=
  [.output (through "comment" (.literal (.str headerWords))), .text "\n\npackage ",
    .output (.named "package_name")]

theorem read_packageTemplate : read packageTemplate = .ok packageProgram := by
  refine read_of_same (u := ?_) ?text ?same
  case text =>
    simp (disch := exact rfl) only [packageTemplate, print, toList_of_eq_ofList]
    rfl
  case same => decide +kernel

variable {s : Settings} {g : Graph} {scope : Scope} {reach : Reach} {name : Text}

/-- Every library has the program of the package clause. -/
theorem program?_packageFile : (Generator.libraryFor s).program? packageFile = .ok packageProgram :=
  program?_of_read rfl read_packageTemplate rfl

/-- The program prints the comment and the clause. -/
theorem run_packageProgram (hname : scope.value "package_name" = .ofText name) :
    runAll (context s g) reach scope packageProgram =
      .ok (headerLine ++ "\n\n" ++ packageLine name, scope) := by
  have hcomment : (through "comment" (.literal (.str headerWords))).eval (context s g) reach scope =
      .ok (.ofText headerLine) := by
    rw [through, eval_filtered (v := .ofText headerWords) rfl rfl, ← commented_headerWords]
    exact apply_comment (by decide)
  have hrun : runAll (context s g) reach scope packageProgram =
      .ok (headerLine ++ (("\n\npackage " : Text) ++ (name ++ [])), scope) :=
    runAll_cons (run_output hcomment) (runAll_cons run_text
      (runAll_cons (run_output (eval_named hname)) runAll_nil))
  have hgap : ("\n\npackage " : Text) = "\n\n" ++ "package " := rfl
  have hline : packageLine name = "package " ++ name := rfl
  rw [hrun, hgap, hline, List.append_nil, List.append_assoc, List.append_assoc]

end StructTemplates

open StructTemplates Source in
/-- **The templates print the package clause.** -/
theorem Generator.Standard.packageClause?_eq {gen : Generator} (hgen : gen.Standard) {name : Text}
    (hname : gen.settings.packageName = .str name) (hne : name ≠ []) :
    gen.packageClause? = .ok (some (headerLine ++ "\n\n" ++ packageLine name)) := by
  have htruthy : gen.settings.packageName.truthy = true := by
    rw [hname]
    cases name with
    | nil => exact absurd rfl hne
    | cons c rest => rfl
  have hrender : (Generator.libraryFor gen.settings).render {} packageFile
      [("package_name", .json gen.settings.packageName)] =
      .ok (headerLine ++ "\n\n" ++ packageLine name) :=
    Template.Library.render_of_run program?_packageFile rfl
      (run_packageProgram (by rw [hname]; rfl))
  rw [packageClause?, htruthy, hgen.library_eq, hrender]
  rfl

end SchemaStructs
