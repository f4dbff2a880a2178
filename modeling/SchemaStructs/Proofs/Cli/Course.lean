import SchemaStructs.Cli.Run
import SchemaStructs.Proofs.Log.Book

/-!
# The course of a run

The stages of a run of the program with arguments that are in order: the log is opened, the
arguments are recorded, the schema is read, the settings are read, and code is generated and
delivered.  Until code is delivered a run only reports (`Progress.Reports`): it tells its user
things and writes to the log, so standard output and all files but those of the log stay as they
are.

* `Progress.delivers_of_generate`: generating code with exit code zero delivers that code, and
  otherwise it only reports;
* `Cli.delivers_of_start`: the whole run stops before code is generated and has only reported, or it
  delivers the code of the schema that was read with the settings that were read.
-/

namespace SchemaStructs

namespace Cli

open FileTree

variable {w : World} {a : Arguments} {p q r : Progress} {output : Json} {code : Text}
variable {ending : Ending} {s : Settings} {trees : List Tree} {verbose : Bool}

/-! ### Reporting -/

namespace Progress

/-- The places of the files of the log. -/
def logPlaces (p : Progress) : List (List Text) := p.book.places

/-- The run has gone on from the first state to the second and has only reported. -/
structure Reports (p q : Progress) : Prop where
  /-- Records are handled in the same way. -/
  setup_eq : q.book.setup = p.book.setup
  /-- Only the files of the log have changed. -/
  files : SameBut p.logPlaces p.files q.files
  /-- What a file mentioned it still mentions. -/
  mentions : ∀ place t, p.files.Mentions place t → q.files.Mentions place t
  /-- Nothing was printed. -/
  stdout_eq : q.stdout = p.stdout

namespace Reports

theorem refl (p : Progress) : Reports p p := ⟨rfl, .refl _ _, fun _ _ h => h, rfl⟩

theorem logPlaces_eq (h : Reports p q) : q.logPlaces = p.logPlaces := by
  rw [logPlaces, logPlaces, LogBook.places, LogBook.places, h.setup_eq]
  exact List.filterMap_congr fun handler _ => LogBook.placeOf?_congr h.files handler

theorem trans (h : Reports p q) (h' : Reports q r) : Reports p r where
  setup_eq := h'.setup_eq.trans h.setup_eq
  files := h.files.trans (h.logPlaces_eq ▸ h'.files)
  mentions place t hm := h'.mentions place t (h.mentions place t hm)
  stdout_eq := h'.stdout_eq.trans h.stdout_eq

end Reports

theorem reports_log (p : Progress) (records : List LogRecord) : Reports p (p.log records) :=
  ⟨rfl, LogBook.sameBut_add p.book records, fun _ _ => LogBook.mentions_add, rfl⟩

theorem reports_tell (p : Progress) (notices : List Notice) : Reports p (p.tell notices) :=
  ⟨rfl, .refl _ _, fun _ _ h => h, rfl⟩

theorem reports_report (p : Progress) (level : LogLevel) (message : Text) :
    Reports p (p.report level message) :=
  reports_log p _

theorem reports_warn (p : Progress) (warning : SettingsWarning) : Reports p (p.warn warning) :=
  (reports_tell p _).trans (reports_report _ _ _)

theorem reports_foldl_warn (p : Progress) (warnings : List SettingsWarning) :
    Reports p (warnings.foldl warn p) := by
  induction warnings generalizing p with
  | nil => exact .refl p
  | cons warning warnings ih => exact (reports_warn p warning).trans (ih _)

theorem reports_tellResult (p : Progress) (verbose : Bool) (warnings : List Warning)
    (summary : Summary) : Reports p (p.tellResult verbose warnings summary) := by
  have hsummary : Reports p (if verbose then p.tell [.empty, .summary summary] else p) := by
    split
    · exact reports_tell p _
    · exact .refl p
  rw [tellResult]
  split
  · exact hsummary
  · exact hsummary.trans (reports_tell _ _)

/-- A refusal is reported, and the run does not end with exit code zero. -/
theorem reports_refuse (p : Progress) (refusal : Refusal) :
    Reports p (p.refuse refusal).1 ∧ (p.refuse refusal).2 ≠ .code 0 := by
  rw [refuse]
  split
  · exact ⟨.refl p, nofun⟩
  · exact ⟨(reports_tell p _).trans (reports_report _ _ _), nofun⟩

/-! ### Delivering -/

/-- The run has gone on from the first state to the second and has delivered the code: to standard
output if the output is no file, and to the file of the output otherwise. -/
inductive Delivers (p q : Progress) (output : Json) (code : Text) : Prop
  /-- The code was printed. -/
  | printed (houtput : output.truthy = false) (hstdout : q.stdout = p.stdout ++ code)
    (hfiles : SameBut p.logPlaces p.files q.files)
  /-- The code was written to a file, and what was recorded afterwards does not follow it unless the
  file belongs to the log. -/
  | saved (t : Text) (place : List Text) (houtput : output = .str t) (ht : t ≠ [])
    (hstdout : q.stdout = p.stdout) (hplace : p.files.place? (Path.ofText t) = .ok place)
    (hfiles : SameBut (place :: p.logPlaces) p.files q.files)
    (hcode : place ∉ p.logPlaces → q.files.entry? place = some (.file code.toBytes))

theorem Delivers.trans_reports (h : Delivers p q output code) (h' : Reports q r)
    (hplaces : q.logPlaces = p.logPlaces) : Delivers p r output code := by
  have hafter := hplaces ▸ h'.files
  cases h with
  | printed houtput hstdout hfiles =>
    exact .printed houtput (h'.stdout_eq.trans hstdout) (hfiles.trans hafter)
  | saved t place houtput ht hstdout hplace hfiles hcode =>
    refine .saved t place houtput ht (h'.stdout_eq.trans hstdout) hplace
      (hfiles.trans (hafter.mono (List.subset_cons_self _ _))) fun hmem => ?_
    rw [hafter.entry?_eq place hmem, hcode hmem]

theorem Reports.trans_delivers (h : Reports p q) (h' : Delivers q r output code) :
    Delivers p r output code := by
  have hplaces := h.logPlaces_eq
  cases h' with
  | printed houtput hstdout hfiles =>
    exact .printed houtput (hstdout.trans (by rw [h.stdout_eq]))
      (h.files.trans (hplaces ▸ hfiles))
  | saved t place houtput ht hstdout hplace hfiles hcode =>
    rw [hplaces] at hfiles hcode
    exact .saved t place houtput ht (hstdout.trans h.stdout_eq) (h.files.place?_iff.1 hplace)
      ((h.files.mono (List.subset_cons_self _ _)).trans hfiles) hcode

/-- The run with other files. -/
def withFiles (p : Progress) (files : FileTree) : Progress :=
  { p with book := { p.book with files } }

/-- Writing code to a file delivers it. -/
theorem delivers_of_write? {t : Text} {files : FileTree} (ht : t ≠ [])
    (hwrite : p.files.write? (Path.ofText t) code = .ok files) :
    Delivers p (p.withFiles files) (.str t) code ∧
      (p.withFiles files).logPlaces = p.logPlaces := by
  obtain ⟨place, hplace, hsame, hentry⟩ := exists_of_write? hwrite
  refine ⟨.saved t place rfl ht rfl hplace (hsame.mono ?_) fun _ => hentry, ?_⟩
  · exact List.cons_subset_cons place (List.nil_subset _)
  · exact List.filterMap_congr fun handler _ => LogBook.placeOf?_congr hsame handler

/-- **Delivering code**: a delivery that does not end the run has delivered, and another one has
only reported. -/
theorem delivers_of_deliver (p : Progress) (output : Json) (code : Text) :
    match p.deliver output code with
    | (q, none) => Delivers p q output code ∧ q.logPlaces = p.logPlaces
    | (q, some ending) => Reports p q ∧ ending ≠ .code 0 := by
  unfold deliver
  cases htruthy : output.truthy with
  | false => exact ⟨.printed htruthy rfl (.refl _ _), rfl⟩
  | true =>
    simp only [Bool.not_true, Bool.false_eq_true, if_false]
    cases output with
    | str t =>
      simp only
      cases hwrite : p.files.write? (Path.ofText t) code with
      | error cause =>
        cases cause with
        | nullCharacter => exact ⟨.refl p, nofun⟩
        | _ => exact ⟨reports_tell p _, nofun⟩
      | ok files =>
        have ht : t ≠ [] := by
          rintro rfl
          cases htruthy
        obtain ⟨hwritten, hplaces⟩ := delivers_of_write? ht hwrite
        have hreports : Reports (p.withFiles files) (((p.withFiles files).tell
            [.written (Path.ofText t)]).report .info ("Wrote " ++ (Path.ofText t).toText)) :=
          (reports_tell _ _).trans (reports_report _ _ _)
        exact ⟨hwritten.trans_reports hreports hplaces, hreports.logPlaces_eq.trans hplaces⟩
    | _ => exact ⟨.refl p, nofun⟩

/-- **Generating code**: with exit code zero the code of the schema has been delivered, and with any
other ending the run has only reported. -/
theorem delivers_of_generate (h : p.generate verbose s trees = (q, ending)) :
    (ending = .code 0 ∧ ∃ gen code warnings summary, Generator.ofSettings? s = some gen ∧
      gen.result (Graph.ofTrees trees).1 (Graph.ofTrees trees).2 =
        .ok (.success code warnings summary) ∧
      Delivers p q s.outputFile code) ∨
    (ending ≠ .code 0 ∧ Reports p q) := by
  unfold generate at h
  split at h
  · obtain ⟨rfl, rfl⟩ := Prod.mk.inj h
    exact .inr ⟨nofun, .refl p⟩
  · rename_i gen hgen
    have hlogged := reports_log p
      (gen.run (Graph.ofTrees trees).1 (Graph.ofTrees trees).2).records
    have hresult : (gen.run (Graph.ofTrees trees).1 (Graph.ofTrees trees).2).value =
        gen.result (Graph.ofTrees trees).1 (Graph.ofTrees trees).2 := rfl
    simp only at h
    rw [hresult] at h
    split at h
    · obtain ⟨rfl, rfl⟩ := Prod.mk.inj h
      exact .inr ⟨nofun, hlogged⟩
    · obtain ⟨rfl, rfl⟩ := Prod.mk.inj h
      exact .inr ⟨nofun, hlogged.trans (reports_tell _ _)⟩
    · rename_i code warnings summary hcode
      have hdelivery := delivers_of_deliver (p.log
        (gen.run (Graph.ofTrees trees).1 (Graph.ofTrees trees).2).records) s.outputFile code
      split at h
      · rename_i hd
        obtain ⟨rfl, rfl⟩ := Prod.mk.inj h
        rw [hd] at hdelivery
        exact .inr ⟨hdelivery.2, hlogged.trans hdelivery.1⟩
      · rename_i hd
        obtain ⟨rfl, rfl⟩ := Prod.mk.inj h
        rw [hd] at hdelivery
        have hdelivered := hlogged.trans_delivers hdelivery.1
        refine .inl ⟨rfl, gen, code, warnings, summary, hgen, hcode, ?_⟩
        exact hdelivered.trans_reports (reports_tellResult _ _ _ _)
          (hdelivery.2.trans hlogged.logPlaces_eq)

end Progress

/-! ### The whole run -/

/-- The log as it is opened, and what kept it from being opened. -/
def opened (w : World) (a : Arguments) : LogBook × Option LogFault :=
  ({ files := w.files, time := w.time } : LogBook).configure (Threshold.ofJson a.logLevel.toJson)
    a.logFile.text?

/-- The place of the file of the log, if the arguments name one. -/
def logPlaces (w : World) (a : Arguments) : List (List Text) := w.files.logPlaces a.logFile.text?

/-- The run when the arguments have been recorded. -/
def begun (w : World) (a : Arguments) : Progress :=
  ({ book := (opened w a).1 } : Progress).log [a.record]

/-- The schema, as it is read. -/
def schema (w : World) (a : Arguments) : Logged (Except Refusal (List Tree)) :=
  readInput w ((begun w a).log (announce (begun w a).files a.input)).files a.input

/-- The run when the schema has been read. -/
def informed (w : World) (a : Arguments) : Progress := (begun w a).log (schema w a).records

/-- The settings, as they are read. -/
def settings (w : World) (a : Arguments) : Except Refusal Settings :=
  readSettings a (informed w a).files

/-- The run when the settings have been read. -/
def configured (w : World) (a : Arguments) : Progress :=
  (informed w a).log (Settings.loadRecords (informed w a).files a.settingsFile?)

theorem start_eq (w : World) (a : Arguments) :
    Progress.start { book := (opened w a).1 } w a =
      match (schema w a).value with
      | .error refusal => (informed w a).refuse refusal
      | .ok trees =>
        match settings w a with
        | .error refusal => (configured w a).refuse refusal
        | .ok s => ((s.warnings?.getD []).foldl Progress.warn (configured w a)).generate a.verbose s
            trees :=
  rfl

/-- The state in which a run starts whose log has been opened. -/
def initial (w : World) (a : Arguments) : Progress := { book := (opened w a).1 }

theorem reports_begun (w : World) (a : Arguments) : (initial w a).Reports (begun w a) :=
  Progress.reports_log _ _

theorem reports_informed (w : World) (a : Arguments) : (initial w a).Reports (informed w a) :=
  (reports_begun w a).trans (Progress.reports_log _ _)

theorem reports_configured (w : World) (a : Arguments) : (initial w a).Reports (configured w a) :=
  (reports_informed w a).trans (Progress.reports_log _ _)

theorem perform_eq (w : World) (a : Arguments) :
    perform w a =
      match opened w a with
      | (book, some fault) => { ending := .crash (.log fault), files := book.files }
      | (book, none) =>
        (Progress.start { book } w a).1.finish (Progress.start { book } w a).2 a.input.requests :=
  rfl

/-- A run ends if its log cannot be opened. -/
theorem perform_of_fault {fault : LogFault} (hopen : (opened w a).2 = some fault) :
    perform w a = { ending := .crash (.log fault), files := (opened w a).1.files } := by
  rw [perform_eq, show opened w a = ((opened w a).1, some fault) by rw [← hopen]]

/-- A run starts when its log has been opened. -/
theorem perform_of_opened (hopen : (opened w a).2 = none) :
    perform w a = (Progress.start (initial w a) w a).1.finish
      (Progress.start (initial w a) w a).2 a.input.requests := by
  rw [perform_eq, show opened w a = ((opened w a).1, none) by rw [← hopen]]
  rfl

/-- Opening the log changes its file only. -/
theorem sameBut_opened (w : World) (a : Arguments) :
    SameBut (logPlaces w a) w.files (opened w a).1.files ∧
      ((opened w a).2 = none → (initial w a).logPlaces = logPlaces w a) := by
  have hopened : ({ files := w.files, time := w.time } : LogBook).configure
      (Threshold.ofJson a.logLevel.toJson) a.logFile.text? =
        ((opened w a).1, (opened w a).2) := rfl
  exact LogBook.sameBut_configure hopened

/-- **The course of a run whose log has been opened**: with exit code zero it has delivered the code
of the schema with the settings, and with any other ending it has only reported. -/
theorem delivers_of_start (w : World) (a : Arguments)
    (h : Progress.start (initial w a) w a = (q, ending)) :
    (ending = .code 0 ∧ ∃ trees s gen code warnings summary, (schema w a).value = .ok trees ∧
      settings w a = .ok s ∧ Generator.ofSettings? s = some gen ∧
      gen.result (Graph.ofTrees trees).1 (Graph.ofTrees trees).2 =
        .ok (.success code warnings summary) ∧
      (initial w a).Delivers q s.outputFile code) ∨
    (ending ≠ .code 0 ∧ (initial w a).Reports q) := by
  rw [initial, start_eq] at h
  split at h
  · have hrefused := (informed w a).reports_refuse ‹Refusal›
    rw [h] at hrefused
    exact .inr ⟨hrefused.2, (reports_informed w a).trans hrefused.1⟩
  · split at h
    · have hrefused := (configured w a).reports_refuse ‹Refusal›
      rw [h] at hrefused
      exact .inr ⟨hrefused.2, (reports_configured w a).trans hrefused.1⟩
    · rename_i s hs
      have hready := (reports_configured w a).trans
        (Progress.reports_foldl_warn _ (s.warnings?.getD []))
      rcases Progress.delivers_of_generate h with ⟨rfl, gen, code, warnings, summary, hgen, hcode,
        hdelivers⟩ | ⟨hending, hreports⟩
      · exact .inl ⟨rfl, _, s, gen, code, warnings, summary, ‹_›, hs, hgen, hcode,
          hready.trans_delivers hdelivers⟩
      · exact .inr ⟨hending, hready.trans hreports⟩

end Cli

end SchemaStructs
