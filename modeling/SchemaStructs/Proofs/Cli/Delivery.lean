import SchemaStructs.Proofs.Cli.Exit

/-!
# All or nothing

A run of the program delivers its code at once and at the end: to standard output, or to the file
that the settings name.  A run that fails on the way delivers nothing at all, and what it tells its
user and what it records never go where the code goes.

* `Cli.stdout_start`: standard output depends on the schema and the settings only;
* `Cli.holds_iff_of_reports`: neither depends on what a log that keeps all records holds, which is
  no document;
* `Cli.all_or_nothing`: a run with exit code zero has delivered the code of its schema in one of the
  two ways, and any other run has delivered nothing; a summary does not change standard output.
-/

namespace SchemaStructs

namespace Cli

open FileTree

variable {w : World} {a : Arguments} {p q : Progress} {files after : FileTree} {path : Path}
variable {document : Json} {trees : List Tree} {s : Settings} {argv : List Text}

/-! ### Standard output -/

/-- What is printed of the code of a schema, if there are a schema and settings. -/
def printed : Option (List Tree) → Option Settings → Text
  | some trees, some s =>
    match Generator.ofSettings? s with
    | none => []
    | some gen =>
      match gen.result (Graph.ofTrees trees).1 (Graph.ofTrees trees).2 with
      | .ok (.success code _ _) => if s.outputFile.truthy then [] else code
      | _ => []
  | _, _ => []

theorem stdout_deliver (p : Progress) (output : Json) (code : Text) :
    (p.deliver output code).1.stdout = p.stdout ++ if output.truthy then [] else code := by
  unfold Progress.deliver
  cases output.truthy with
  | false => rfl
  | true =>
    simp only [Bool.not_true, Bool.false_eq_true, if_false, if_true, List.append_nil]
    split
    · split <;> rfl
    · rfl

/-- Generating code prints it, if it goes to standard output and there is any. -/
theorem stdout_generate (p : Progress) (verbose : Bool) (s : Settings) (trees : List Tree) :
    (p.generate verbose s trees).1.stdout = p.stdout ++ printed (some trees) (some s) := by
  simp only [Progress.generate, printed]
  cases Generator.ofSettings? s with
  | none => exact (List.append_nil _).symm
  | some gen =>
    have hresult : (gen.run (Graph.ofTrees trees).1 (Graph.ofTrees trees).2).value =
        gen.result (Graph.ofTrees trees).1 (Graph.ofTrees trees).2 := rfl
    simp only [hresult]
    cases gen.result (Graph.ofTrees trees).1 (Graph.ofTrees trees).2 with
    | error failure => exact (List.append_nil _).symm
    | ok result =>
      cases result with
      | failed failure => exact (List.append_nil _).symm
      | success code warnings summary =>
        have hdeliver := stdout_deliver (p.log
          (gen.run (Graph.ofTrees trees).1 (Graph.ofTrees trees).2).records) s.outputFile code
        dsimp only
        split
        · rename_i hd
          rw [hd] at hdeliver
          exact hdeliver
        · rename_i hd
          rw [hd] at hdeliver
          -- what is known of the code is told to the user
          exact (Progress.reports_tellResult _ _ _ _).stdout_eq.trans hdeliver

/-- **Standard output is what is printed of the code**, and nothing else. -/
theorem stdout_start (w : World) (a : Arguments) :
    (Progress.start (initial w a) w a).1.stdout =
      printed (schema w a).value.toOption (settings w a).toOption := by
  rw [initial, start_eq]
  cases (schema w a).value with
  | error refusal =>
    exact ((reports_informed w a).trans ((informed w a).reports_refuse refusal).1).stdout_eq
  | ok trees =>
    cases settings w a with
    | error refusal =>
      exact ((reports_configured w a).trans ((configured w a).reports_refuse refusal).1).stdout_eq
    | ok s =>
      have hready := (reports_configured w a).trans
        (Progress.reports_foldl_warn _ (s.warnings?.getD []))
      refine (stdout_generate _ _ _ _).trans ?_
      rw [hready.stdout_eq]
      rfl

/-! ### What the log has to do with it -/

/-- Whether a schema is read depends on the documents that files hold. -/
theorem readInput_iff_of_holds {i : Input}
    (h : ∀ path document, after.Holds path document ↔ files.Holds path document) :
    (readInput w after i).value = .ok trees ↔ (readInput w files i).value = .ok trees := by
  cases i with
  | file path =>
    simp only [readInput, Logged.value_bind, Logged.value_pure, mapError_eq_ok_iff,
      Loading.ofFile_eq_ok_iff, h]
  | _ => exact .rfl

/-- Whether settings are read depends on the documents that files hold. -/
theorem readSettings_iff_of_holds
    (h : ∀ path document, after.Holds path document ↔ files.Holds path document) :
    readSettings a after = .ok s ↔ readSettings a files = .ok s := by
  simp only [readSettings, mapError_eq_ok_iff, Settings.load_eq_ok_iff]
  cases a.settingsFile? with
  | none => exact .rfl
  | some path => simp only [h]

/-- **A log that keeps all records holds no document**, so that what is recorded has no influence on
the documents that are read. -/
theorem holds_iff_of_reports (hopen : (opened w a).2 = none)
    (hkeeps : (opened w a).1.setup.keeps a.record = true) (hp : (initial w a).Reports p) :
    p.files.Holds path document ↔ (opened w a).1.files.Holds path document := by
  have hopened : opened w a = ((opened w a).1, none) := by rw [← hopen]
  have hmentions : ∀ place ∈ (opened w a).1.places,
      (opened w a).1.files.Mentions place LogBook.closing :=
    fun place => LogBook.mentions_configure hopened rfl hkeeps
  exact LogBook.holds_iff_of_mentions hp.files hmentions
    fun place hplace => hp.mentions place _ (hmentions place hplace)

/-- Arguments that are not recorded change nothing. -/
theorem begun_of_not_keeps (hkeeps : (opened w a).1.setup.keeps a.record = false) :
    begun w a = (initial w a).log [] := by
  rw [begun, Progress.log, LogBook.add, LogSetup.fileText,
    List.filter_cons_of_neg (by simp [hkeeps])]
  rfl

/-! ### The summary -/

/-- The files when the schema is read. -/
theorem reports_announced (w : World) (a : Arguments) :
    (initial w a).Reports ((begun w a).log (announce (begun w a).files a.input)) :=
  (reports_begun w a).trans (Progress.reports_log _ _)

/-- **A run with a summary reads what a run without one reads**, although the log may be read, too,
and has recorded the arguments. -/
theorem read_iff_of_verbose (hopen : (opened w a).2 = none) (v : Bool) :
    (∀ trees, (schema w { a with verbose := v }).value = .ok trees ↔
        (schema w a).value = .ok trees) ∧
      ∀ s, settings w { a with verbose := v } = .ok s ↔ settings w a = .ok s := by
  cases hkeeps : (opened w a).1.setup.keeps a.record with
  | true =>
    have hholds : ∀ {p q : Progress}, (initial w a).Reports p → (initial w a).Reports q →
        ∀ path document, q.files.Holds path document ↔ p.files.Holds path document :=
      fun hp hq _ _ => (holds_iff_of_reports hopen hkeeps hq).trans
        (holds_iff_of_reports hopen hkeeps hp).symm
    exact ⟨fun _ => readInput_iff_of_holds (hholds (reports_announced w a)
        (reports_announced w { a with verbose := v })),
      fun _ => readSettings_iff_of_holds (hholds (reports_informed w a)
        (reports_informed w { a with verbose := v }))⟩
  | false =>
    have hbegun : begun w { a with verbose := v } = begun w a :=
      (begun_of_not_keeps (a := { a with verbose := v }) hkeeps).trans
        (begun_of_not_keeps hkeeps).symm
    have hschema : schema w { a with verbose := v } = schema w a := by
      rw [schema, schema, hbegun]
      rfl
    have hsettings : settings w { a with verbose := v } = settings w a := by
      rw [settings, settings, informed, informed, hbegun, hschema]
      rfl
    rw [hschema, hsettings]
    exact ⟨fun _ => .rfl, fun _ => .rfl⟩

/-! ### The whole run -/

/-- The code went to standard output. -/
structure Printed (w : World) (a : Arguments) (s : Settings) (code : Text) (o : Outcome) :
    Prop where
  /-- The settings name no file for the code. -/
  output : s.outputFile.truthy = false
  /-- The code was printed. -/
  stdout_eq : o.stdout = code
  /-- No file has changed, the file of the log excepted. -/
  files : SameBut (logPlaces w a) w.files o.files

/-- The code went to a file. -/
structure Saved (w : World) (a : Arguments) (s : Settings) (code : Text) (o : Outcome) :
    Prop where
  /-- Nothing was printed. -/
  stdout_eq : o.stdout = []
  /-- The file that the settings name holds the code, and no other file has changed, the file of the
  log excepted. -/
  file : ∃ t place, s.outputFile = .str t ∧ t ≠ [] ∧
    w.files.place? (Path.ofText t) = .ok place ∧
    o.files.bytes? (Path.ofText t) = .ok code.toBytes ∧
    SameBut (place :: logPlaces w a) w.files o.files

theorem Saved.truthy {o : Outcome} {code : Text} (h : Saved w a s code o) :
    s.outputFile.truthy = true := by
  obtain ⟨t, -, ht, hne, -⟩ := h.file
  obtain ⟨c, rest, rfl⟩ := List.exists_cons_of_ne_nil hne
  rw [ht]
  rfl

/-- Delivering code prints it or saves it. -/
theorem printed_or_saved {code : Text} {ending : Ending} {requests : List Text}
    (hopen : (opened w a).2 = none)
    (hlog : ∀ t, s.outputFile = .str t → ∀ place ∈ logPlaces w a,
      w.files.place? (Path.ofText t) ≠ .ok place)
    (h : (initial w a).Delivers p s.outputFile code) :
    Printed w a s code (p.finish ending requests) ∨
      Saved w a s code (p.finish ending requests) := by
  obtain ⟨hsame, hplaces⟩ := sameBut_opened w a
  have hplaces := hplaces hopen
  cases h with
  | printed houtput hprinted hafter =>
    rw [hplaces] at hafter
    exact .inl ⟨houtput, hprinted, hsame.trans hafter⟩
  | saved t place houtput ht hprinted hplace hafter hcode =>
    rw [hplaces] at hafter hcode
    have hbefore : w.files.place? (Path.ofText t) = .ok place := hsame.place?_iff.1 hplace
    have hwhole : SameBut (place :: logPlaces w a) w.files p.files :=
      (hsame.mono (List.subset_cons_self _ _)).trans hafter
    have hentry := hcode fun hmem => hlog t houtput place hmem hbefore
    exact .inr ⟨hprinted, t, place, houtput, ht, hbefore,
      bytes?_eq_ok_iff.2 ⟨place, hwhole.place?_iff.2 hbefore, hentry⟩, hwhole⟩

/-- **All or nothing**: what a run has delivered.  Let the file that the settings name for the code
be another one than that of the log.

With exit code zero the run has delivered the code of its schema with its settings, to standard
output if the settings name no file, and else to that file, and in one way only.  With any other
ending nothing was printed, and no file but that of the log has changed.  Standard output is the
same with and without a summary. -/
theorem all_or_nothing (w : World) (argv : List Text) (a : Arguments)
    (hrun : Request.ofArguments w.dashes argv = .run a)
    (hlog : ∀ s t, settings w a = .ok s → s.outputFile = .str t → ∀ place ∈ logPlaces w a,
      w.files.place? (Path.ofText t) ≠ .ok place) :
    ((run w argv).ending = .code 0 →
      ∃ trees s gen code warnings summary, (schema w a).value = .ok trees ∧
        settings w a = .ok s ∧ Generator.ofSettings? s = some gen ∧
        gen.result (Graph.ofTrees trees).1 (Graph.ofTrees trees).2 =
          .ok (.success code warnings summary) ∧
        Xor (Printed w a s code (run w argv)) (Saved w a s code (run w argv))) ∧
    ((run w argv).ending ≠ .code 0 →
      (run w argv).stdout = [] ∧ SameBut (logPlaces w a) w.files (run w argv).files) ∧
    ∀ verbose argv', Request.ofArguments w.dashes argv' = .run { a with verbose } →
      (run w argv').stdout = (run w argv).stdout := by
  have hperform : ∀ argv' a', Request.ofArguments w.dashes argv' = .run a' →
      run w argv' = perform w a' := by
    intro argv' a' h
    rw [run, h]
  rw [hperform argv a hrun]
  obtain ⟨hsame, hplaces⟩ := sameBut_opened w a
  cases hopen : (opened w a).2 with
  | some fault =>
    rw [perform_of_fault hopen]
    refine ⟨fun h => ?_, fun _ => ⟨rfl, hsame⟩, fun verbose argv' h => ?_⟩
    · cases h
    · rw [hperform argv' _ h, perform_of_fault (a := { a with verbose }) hopen]
  | none =>
    have hplaces := hplaces hopen
    rw [perform_of_opened hopen]
    refine ⟨fun hzero => ?_, fun hending => ?_, fun verbose argv' h => ?_⟩
    · rcases delivers_of_start w a rfl with ⟨-, trees, s, gen, code, warnings, summary, htrees, hs,
        hgen, hcode, hdelivers⟩ | ⟨hending, -⟩
      · refine ⟨trees, s, gen, code, warnings, summary, htrees, hs, hgen, hcode, ?_⟩
        have hone : ∀ {o}, Printed w a s code o → ¬ Saved w a s code o := fun hprinted hsaved =>
          Bool.false_ne_true (hprinted.output.symm.trans hsaved.truthy)
        exact (printed_or_saved hopen (fun t => hlog s t hs) hdelivers).imp
          (fun hprinted => ⟨hprinted, hone hprinted⟩)
          (fun hsaved => ⟨hsaved, fun hprinted => hone hprinted hsaved⟩)
      · exact absurd hzero hending
    · rcases delivers_of_start w a rfl with ⟨hzero, -⟩ | ⟨-, hreports⟩
      · exact absurd hzero hending
      · exact ⟨hreports.stdout_eq, hsame.trans (hplaces ▸ hreports.files)⟩
    · rw [hperform argv' _ h, perform_of_opened (a := { a with verbose }) hopen]
      obtain ⟨hschema, hsettings⟩ := read_iff_of_verbose hopen verbose
      refine (stdout_start w { a with verbose }).trans (.trans ?_ (stdout_start w a).symm)
      rw [toOption_congr hschema, toOption_congr hsettings]

section Examples

/-- A run that writes the code of the schema on standard input to a file, and its log to another. -/
def noteArguments : Arguments :=
  { stdin := true, noFormat := true, output := .text "note.go", logFile := .text "run.log" }

def noteArgv : List Text :=
  Text.ofStrings ["--stdin", "--no-format", "--output", "note.go", "--log-file", "run.log"]

/-- A schema with one element. -/
def noteText : Text := "\x7b\"name\":\"note\"\x7d"

/-- A world with the schema on standard input. -/
def noteWorld : World := { silent with stdin := noteText }

def noteTree : Tree := .node (.str "note") (.str "note") [] [] (.bool false) (.bool false)

def noteSettings : Settings := { outputFile := .str "note.go", format := .bool false }

def noteGenerator : Generator :=
  { settings := noteSettings, strategy := .first, library := Generator.libraryFor noteSettings }

theorem settings_note : settings noteWorld noteArguments = .ok noteSettings := by
  have hknown : Settings.unknownOptions (Json.update (Json.update ({} : Settings).toMembers [])
      noteArguments.overrides) = [] := by decide +kernel
  have hmerge : Settings.merge? [] noteArguments.overrides = .ok noteSettings := by
    rw [Settings.merge?, Settings.check?, hknown]
    rfl
  have hfile : noteArguments.settingsFile? = none := rfl
  rw [settings, readSettings, hfile, Settings.load_eq_ok_iff.2 ⟨[], hmerge, rfl⟩]
  rfl

theorem read_noteText : Json.read noteText = .ok (.obj [Json.entry "name" (.str "note")]) := by
  with_unfolding_all rfl

/-- The schema on standard input is read, which is nothing but progress. -/
theorem schema_noteText (hinput : a.input = .stdin) (hstdin : w.stdin = noteText) :
    (schema w a).value = .ok [noteTree] ∧ ∀ r ∈ (schema w a).records, r.level = .info := by
  rw [schema, hinput, readInput, hstdin, read_noteText]
  refine ⟨rfl, fun r hr => ?_⟩
  obtain rfl := List.mem_singleton.1 hr
  rfl

theorem clean_note :
    noteGenerator.Clean (Graph.ofTrees [noteTree]).1 (Graph.ofTrees [noteTree]).2 :=
  Generator.clean_of_outcome? ⟨rfl, rfl⟩ rfl 10 (by decide +kernel) (by decide +kernel)

/-- The run ends with exit code zero. -/
theorem ending_note : (run noteWorld noteArgv).ending = .code 0 := by
  have hrun : Request.ofArguments noteWorld.dashes noteArgv = .run noteArguments := rfl
  obtain ⟨code, summary, hcode⟩ := clean_note
  have hsucceeds : Succeeds noteWorld noteArguments :=
    ⟨rfl, [noteTree], noteSettings, noteGenerator, code, [], summary,
      (schema_noteText rfl rfl).1, settings_note, rfl, hcode,
      .inr ⟨"note.go", ["note.go"], rfl, rfl, nofun⟩⟩
  exact (ending_eq_zero_iff hrun).2 hsucceeds

/-- A run with a log of its own has saved its code. -/
theorem all_or_nothing_note :
    Request.ofArguments noteWorld.dashes noteArgv = .run noteArguments ∧
    (∀ s t, settings noteWorld noteArguments = .ok s → s.outputFile = .str t →
      ∀ place ∈ logPlaces noteWorld noteArguments,
        noteWorld.files.place? (Path.ofText t) ≠ .ok place) ∧
    ∃ code, Saved noteWorld noteArguments noteSettings code (run noteWorld noteArgv) := by
  have hrun : Request.ofArguments noteWorld.dashes noteArgv = .run noteArguments := rfl
  have hlog : ∀ s t, settings noteWorld noteArguments = .ok s → s.outputFile = .str t →
      ∀ place ∈ logPlaces noteWorld noteArguments,
        noteWorld.files.place? (Path.ofText t) ≠ .ok place := by
    intro s t hs ht place hplace
    obtain rfl := Except.ok.inj (settings_note.symm.trans hs)
    cases ht
    have hplaces : logPlaces noteWorld noteArguments = [[("run.log" : Text)]] := rfl
    have hnote : noteWorld.files.place? (Path.ofText "note.go") = .ok ["note.go"] := rfl
    rw [hplaces, List.mem_singleton] at hplace
    rw [hplace]
    intro hsame
    exact absurd (Except.ok.inj (hnote.symm.trans hsame)) (by decide)
  obtain ⟨-, s, -, code, -, -, -, hs, -, -, hone⟩ :=
    (all_or_nothing noteWorld noteArgv noteArguments hrun hlog).1 ending_note
  obtain rfl := Except.ok.inj (settings_note.symm.trans hs)
  rcases hone with ⟨hprinted, -⟩ | ⟨hsaved, -⟩
  · cases hprinted.output
  · exact ⟨hrun, hlog, code, hsaved⟩

end Examples

end Cli

end SchemaStructs
