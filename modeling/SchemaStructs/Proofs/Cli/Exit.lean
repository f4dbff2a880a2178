import SchemaStructs.Proofs.Cli.Arguments
import SchemaStructs.Proofs.Cli.Course
import SchemaStructs.Proofs.Generator.Contained
import SchemaStructs.Proofs.Loading.Unhandled

/-!
# How a run ends

A run with arguments that are in order ends with exit code zero if every stage has succeeded, and
with exit code one if a stage has failed and the program has told its user so.  Some failures are
not expected at the stage where they arise and end the program by themselves (`Cli.Unhandled`).

* `Cli.fault_opened_iff`: when the log cannot be opened;
* `Cli.deliver_cases`: how the delivery of code ends;
* `Cli.ends_perform`: a run ends as its stages do, with a crash if a failure escapes the stage at
  which it arises (`Cli.Escapes`), and `Cli.escapes_iff` tells when one does;
* `Cli.exit_codes`: which of the three endings a run has, and `Cli.exit_codes_undecodable` shows a
  schema that is not handled, a file whose only byte is no text.

This is said of runs that read no text (`Cli.IsRead`) with an escape of half a surrogate pair.
-/

namespace SchemaStructs

namespace Cli

open FileTree

variable {w : World} {a : Arguments} {p q : Progress} {files after : FileTree} {path : Path}
variable {trees : List Tree} {s : Settings} {argv : List Text} {output : Json} {code : Text}
variable {places : List (List Text)}

/-! ### Opening the log -/

theorem text?_ne_nil (value : OptionValue) : value.text? ≠ some [] := by
  unfold OptionValue.text?
  split <;> exact nofun

/-- A log that has a threshold is opened unless its file cannot be written. -/
theorem fault_openAt_iff {book : LogBook} {level : LevelNumber} {file : Option Text}
    (hfile : file ≠ some []) :
    (∃ fault, (book.openAt level file).2 = some fault) ↔
      ∃ t cause, file = some t ∧
        book.files.append? (Path.ofText t).direct [] = .error cause := by
  unfold LogBook.openAt
  split
  · exact iff_of_false nofun nofun
  · exact absurd rfl hfile
  · rename_i name _
    split
    · rename_i cause happend
      exact iff_of_true ⟨_, rfl⟩ ⟨name, cause, rfl, happend⟩
    · rename_i happend
      refine iff_of_false nofun ?_
      rintro ⟨t, cause, ht, herror⟩
      cases ht
      rw [happend] at herror
      cases herror

/-- **The log of a run is opened** unless two hyphens were given for its threshold or its file
cannot be written. -/
theorem fault_opened_iff (ha : a.Thresholded) :
    (∃ fault, (opened w a).2 = some fault) ↔
      a.logLevel = .noItems ∨ ∃ t cause, a.logFile.text? = some t ∧
        w.files.append? (Path.ofText t).direct [] = .error cause := by
  have hnumber : ∀ t ∈ thresholds, (LogSetup.number? t).isSome = true := by decide
  rw [opened]
  rcases ha with hlevel | ⟨t, ht, hlevel⟩
  · rw [hlevel]
    exact iff_of_true ⟨_, rfl⟩ (.inl rfl)
  · obtain ⟨n, hn⟩ := Option.isSome_iff_exists.1 (hnumber t ht)
    have hopen : ({ files := w.files, time := w.time } : LogBook).configure (.named t)
        a.logFile.text? = LogBook.openAt { files := w.files, time := w.time } (.number n)
          a.logFile.text? := by
      rw [LogBook.configure, hn]
    rw [hlevel, or_iff_right nofun]
    exact hopen ▸ fault_openAt_iff (text?_ne_nil _)

theorem ne_of_fault_opened (ha : a.Thresholded)
    (h : a.logLevel = .noItems ∨ ∃ t cause, a.logFile.text? = some t ∧
      w.files.append? (Path.ofText t).direct [] = .error cause) : (opened w a).2 ≠ none := by
  obtain ⟨fault, hfault⟩ := (fault_opened_iff ha).2 h
  rw [hfault]
  exact nofun

/-! ### Delivering -/

/-- The code can be delivered: there is no file to write it to, or the name of the file leads to a
place where no folder stands. -/
def Deliverable (files : FileTree) (output : Json) : Prop :=
  output.truthy = false ∨ ∃ t place, output = .str t ∧
    files.place? (Path.ofText t) = .ok place ∧ files.entry? place ≠ some .folder

/-- The name of the file for the code is no text, or it has a null character. -/
def UnusableName (output : Json) : Prop :=
  output.truthy = true ∧ ∀ t, output = .str t → (Path.ofText t).toText.contains '\x00' = true

theorem deliverable_iff (h : SameBut places files after) :
    Deliverable after output ↔ Deliverable files output := by
  simp only [Deliverable, h.place?_iff, ne_eq, h.folder_iff]

theorem locate_ne_nullCharacter (parts : List Text) (place : List Text) :
    files.locate path place parts ≠ .error .nullCharacter := by
  induction parts generalizing place with
  | nil =>
    rw [locate]
    intro h
    cases h
  | cons part rest ih =>
    intro h
    rw [locate] at h
    split at h
    · cases h
    · cases h
    · split at h
      · exact ih _ h
      · split at h
        · cases h
        · exact ih _ h

theorem place?_eq_nullCharacter_iff :
    files.place? path = .error .nullCharacter ↔ path.toText.contains '\x00' = true := by
  rw [place?]
  split
  · rename_i hnull
    exact iff_of_true rfl hnull
  · rename_i hnull
    refine iff_of_false (fun h => ?_) hnull
    split at h
    · cases h
    · exact locate_ne_nullCharacter _ _ h

theorem write?_eq_nullCharacter_iff {t : Text} :
    files.write? path t = .error .nullCharacter ↔ path.toText.contains '\x00' = true := by
  rw [write?, bind_eq_error_iff, ← @place?_eq_nullCharacter_iff files path]
  refine or_iff_left ?_
  rintro ⟨place, -, h⟩
  split at h <;> cases h

theorem not_deliverable_of_unusableName (h : UnusableName output) : ¬ Deliverable files output := by
  rintro (houtput | ⟨t, place, rfl, hplace, -⟩)
  · exact Bool.false_ne_true (houtput.symm.trans h.1)
  · rw [place?_eq_nullCharacter_iff.2 (h.2 t rfl)] at hplace
    cases hplace

/-- How the delivery of code ends. -/
theorem deliver_cases (p : Progress) (output : Json) (code : Text) :
    (Deliverable p.files output ∧ (p.deliver output code).2 = none) ∨
    (UnusableName output ∧ ∃ c, (p.deliver output code).2 = some (.crash c)) ∨
    (¬ Deliverable p.files output ∧ ¬ UnusableName output ∧
      (p.deliver output code).2 = some (.code 1)) := by
  unfold Progress.deliver
  cases htruthy : output.truthy with
  | false => exact .inl ⟨.inl htruthy, rfl⟩
  | true =>
    simp only [Bool.not_true, Bool.false_eq_true, if_false]
    cases output with
    | str t =>
      dsimp only
      cases hwrite : p.files.write? (Path.ofText t) code with
      | ok files =>
        obtain ⟨place, hplace, hfolder, -⟩ := write?_eq_ok_iff.1 hwrite
        exact .inl ⟨.inr ⟨t, place, rfl, hplace, hfolder⟩, rfl⟩
      | error cause =>
        have hnot : ¬ Deliverable p.files (.str t) := by
          rintro (hfalse | ⟨t', place, ht, hplace, hfolder⟩)
          · exact Bool.false_ne_true (hfalse.symm.trans htruthy)
          · cases ht
            rw [write?_eq_ok_iff.2 ⟨place, hplace, hfolder, rfl⟩] at hwrite
            cases hwrite
        by_cases hcause : cause = .nullCharacter
        · subst hcause
          refine .inr (.inl ⟨⟨htruthy, fun t' ht => ?_⟩, _, rfl⟩)
          cases ht
          exact write?_eq_nullCharacter_iff.1 hwrite
        · refine .inr (.inr ⟨hnot, fun h => hcause ?_, ?_⟩)
          · rw [write?_eq_nullCharacter_iff.2 (h.2 t rfl)] at hwrite
            exact (Except.error.inj hwrite).symm
          · cases cause <;> first | rfl | exact absurd rfl hcause
    | _ => exact .inr (.inl ⟨⟨htruthy, nofun⟩, _, rfl⟩)

/-! ### Endings -/

/-- What an ending says of a run: code zero that it has succeeded, code one that it has failed, and
no code that something was not handled. -/
inductive Ends (succeeds unhandled : Prop) : Ending → Prop
  /-- The run has succeeded. -/
  | zero (hs : succeeds) (hu : ¬ unhandled) : Ends succeeds unhandled (.code 0)
  /-- The run has failed. -/
  | one (hs : ¬ succeeds) (hu : ¬ unhandled) : Ends succeeds unhandled (.code 1)
  /-- Something was not handled. -/
  | crash (c : Crash) (hs : ¬ succeeds) (hu : unhandled) : Ends succeeds unhandled (.crash c)

/-- A refusal ends a run, with a crash if it is not handled. -/
theorem ends_refuse {succeeds unhandled : Prop} (p : Progress) (refusal : Refusal)
    (hs : ¬ succeeds) (hu : unhandled ↔ refusal.crash?.isSome = true) :
    Ends succeeds unhandled (p.refuse refusal).2 := by
  rw [Progress.refuse]
  cases hcrash : refusal.crash? with
  | some c => exact .crash c hs (hu.2 (by rw [hcrash]; rfl))
  | none =>
    refine .one hs fun h => ?_
    rw [hu, hcrash] at h
    cases h

/-- The code of a schema has been generated and can be delivered. -/
def Succeeds (w : World) (a : Arguments) : Prop :=
  (opened w a).2 = none ∧ ∃ trees s gen code warnings summary,
    (schema w a).value = .ok trees ∧ settings w a = .ok s ∧ Generator.ofSettings? s = some gen ∧
    gen.result (Graph.ofTrees trees).1 (Graph.ofTrees trees).2 =
      .ok (.success code warnings summary) ∧
    Deliverable w.files s.outputFile

/-- What a run does not handle. -/
inductive Unhandled (w : World) (a : Arguments) : Prop
  /-- Two hyphens were given for the threshold of the log. -/
  | threshold (h : a.logLevel = .noItems)
  /-- The file of the log cannot be written. -/
  | log {t : Text} {cause : FileFault} (hfile : a.logFile.text? = some t)
      (h : w.files.append? (Path.ofText t).direct [] = .error cause)
  /-- The schema is not handled. -/
  | schema (hopen : (opened w a).2 = none)
      (h : UnhandledInput w ((begun w a).log (announce (begun w a).files a.input)).files a.input)
  /-- The schema was read, and the file with settings is not handled. -/
  | settings {trees : List Tree} {path : Path} (hopen : (opened w a).2 = none)
      (hschema : (schema w a).value = .ok trees) (hfile : a.settingsFile? = some path)
      (h : Settings.UnhandledFile (informed w a).files path)
  /-- Schema and settings were read, and the name of an attribute is no text. -/
  | attributes {trees : List Tree} {s : Settings} (hopen : (opened w a).2 = none)
      (hschema : (schema w a).value = .ok trees) (hsettings : settings w a = .ok s)
      (h : ¬ (Graph.ofTrees trees).1.AttributesNamed (Graph.ofTrees trees).2)
  /-- The code was generated, and its file cannot be named so. -/
  | output {trees : List Tree} {s : Settings} {gen : Generator} {code : Text}
      {warnings : List Warning} {summary : Summary} (hopen : (opened w a).2 = none)
      (hschema : (schema w a).value = .ok trees) (hsettings : settings w a = .ok s)
      (hgen : Generator.ofSettings? s = some gen)
      (hcode : gen.result (Graph.ofTrees trees).1 (Graph.ofTrees trees).2 =
        .ok (.success code warnings summary))
      (h : UnusableName s.outputFile)

/-- The run reads the text as a document. -/
inductive IsRead (w : World) (a : Arguments) : Text → Prop
  /-- It is the text of the schema. -/
  | schema {t : Text} (hopen : (opened w a).2 = none)
      (h : Reads w ((begun w a).log (announce (begun w a).files a.input)).files a.input t) :
      IsRead w a t
  /-- The schema was read, and it is the text of the settings. -/
  | settings {trees : List Tree} {path : Path} {t : Text} (hopen : (opened w a).2 = none)
      (hschema : (schema w a).value = .ok trees) (hfile : a.settingsFile? = some path)
      (h : (informed w a).files.HasText path t) : IsRead w a t

/-! ### Generating -/

/-- How generating code ends, from the result of the generator on. -/
theorem ending_generate {gen : Generator} (verbose : Bool)
    (hgen : Generator.ofSettings? s = some gen) (p : Progress) :
    (p.generate verbose s trees).2 =
      match gen.result (Graph.ofTrees trees).1 (Graph.ofTrees trees).2 with
      | .error failure => .crash (.generation failure)
      | .ok (.failed _) => .code 1
      | .ok (.success code _ _) =>
        ((p.log (gen.run (Graph.ofTrees trees).1 (Graph.ofTrees trees).2).records).deliver
          s.outputFile code).2.getD (.code 0) := by
  have hresult : (gen.run (Graph.ofTrees trees).1 (Graph.ofTrees trees).2).value =
      gen.result (Graph.ofTrees trees).1 (Graph.ofTrees trees).2 := rfl
  simp only [Progress.generate, hgen, hresult]
  cases gen.result (Graph.ofTrees trees).1 (Graph.ofTrees trees).2 with
  | error failure => rfl
  | ok result =>
    cases result with
    | failed failure => rfl
    | success code warnings summary =>
      dsimp only
      split <;> rename_i hdeliver <;> rw [hdeliver] <;> rfl

/-- A failure escapes the stage of the run at which it arises. -/
def Escapes (w : World) (a : Arguments) : Prop :=
  (opened w a).2 ≠ none ∨ Crashes (schema w a).value ∨ ∃ trees, (schema w a).value = .ok trees ∧
    (Crashes (settings w a) ∨ ∃ s, settings w a = .ok s ∧
      (¬ (Graph.ofTrees trees).1.AttributesNamed (Graph.ofTrees trees).2 ∨
        ∃ gen code warnings summary, Generator.ofSettings? s = some gen ∧
          gen.result (Graph.ofTrees trees).1 (Graph.ofTrees trees).2 =
            .ok (.success code warnings summary) ∧ UnusableName s.outputFile))

/-- The delivery of code ends as the place for it permits. -/
theorem ends_deliver (p : Progress) (output : Json) (code : Text) :
    Ends (Deliverable p.files output) (UnusableName output)
      ((p.deliver output code).2.getD (.code 0)) := by
  rcases deliver_cases p output code with ⟨hd, h⟩ | ⟨hu, c, h⟩ | ⟨hd, hu, h⟩
  · rw [h]
    exact .zero hd fun hu => not_deliverable_of_unusableName hu hd
  · rw [h]
    exact .crash c (not_deliverable_of_unusableName hu) hu
  · rw [h]
    exact .one hd hu

/-- **A run whose schema and settings have been read** ends as its generator and the delivery do. -/
theorem ends_generate (hopen : (opened w a).2 = none)
    (hschema : (schema w a).value = .ok trees) (hsettings : settings w a = .ok s)
    (hp : (initial w a).Reports p) (verbose : Bool) :
    Ends (Succeeds w a) (Escapes w a) (p.generate verbose s trees).2 := by
  obtain ⟨gen, hgen, hstandard⟩ :=
    Generator.standard_of_load (mapError_eq_ok_iff.1 hsettings)
  obtain ⟨document, hdocument⟩ := exists_document_of_readInput hschema
  have hescapes : Escapes w a ↔
      ¬ (Graph.ofTrees trees).1.AttributesNamed (Graph.ofTrees trees).2 ∨
        (∃ code warnings summary, gen.result (Graph.ofTrees trees).1 (Graph.ofTrees trees).2 =
          .ok (.success code warnings summary)) ∧ UnusableName s.outputFile := by
    simp [Escapes, hopen, hschema, hsettings, hgen, Crashes]
  have hsucceeds : Succeeds w a ↔
      (∃ code warnings summary, gen.result (Graph.ofTrees trees).1 (Graph.ofTrees trees).2 =
        .ok (.success code warnings summary)) ∧ Deliverable w.files s.outputFile := by
    simp [Succeeds, hopen, hschema, hsettings, hgen]
  rw [hescapes, hsucceeds, ending_generate verbose hgen p]
  rcases Generator.contained_or_escapes hstandard
      fun i => Graph.named_of_occurs (i := i) hdocument with
    ⟨hattributes, hcontained⟩ | ⟨i, hi, x, hmem, hname, hresult⟩
  · rw [or_iff_right (not_not.2 hattributes)]
    rcases hcontained with ⟨code, warnings, summary, hcode, -⟩ | ⟨failure, hfailed, -⟩
    · rw [hcode, and_iff_right ⟨code, warnings, summary, rfl⟩,
        and_iff_right ⟨code, warnings, summary, rfl⟩]
      have hlogged := hp.trans (Progress.reports_log p
        (gen.run (Graph.ofTrees trees).1 (Graph.ofTrees trees).2).records)
      have hdeliverable := (@deliverable_iff _ _ s.outputFile _ hlogged.files).trans
        (deliverable_iff (sameBut_opened w a).1)
      rw [← hdeliverable]
      exact ends_deliver _ s.outputFile code
    · rw [hfailed]
      exact .one (by simp) (by simp)
  · -- the name of an attribute escapes
    have hnot : ¬ (Graph.ofTrees trees).1.AttributesNamed (Graph.ofTrees trees).2 := by
      intro hattributes
      rw [hattributes i hi x hmem] at hname
      cases hname
    rw [hresult]
    exact .crash _ (by simp) (.inl hnot)

/-! ### The whole run -/

/-- **A run ends as its stages do.** -/
theorem ends_perform (w : World) (a : Arguments) :
    Ends (Succeeds w a) (Escapes w a) (perform w a).ending := by
  cases hopen : (opened w a).2 with
  | some fault =>
    rw [perform_of_fault hopen]
    exact .crash _ (by simp [Succeeds, hopen]) (by simp [Escapes, hopen])
  | none =>
    have hending : (perform w a).ending = (Progress.start (initial w a) w a).2 := by
      rw [perform_of_opened hopen]
      rfl
    rw [hending, initial, start_eq]
    cases hschema : (schema w a).value with
    | error refusal =>
      refine ends_refuse _ refusal (by simp [Succeeds, hschema]) ?_
      simp [Escapes, hopen, hschema, Crashes]
    | ok trees =>
      dsimp only
      cases hsettings : settings w a with
      | error refusal =>
        refine ends_refuse _ refusal (by simp [Succeeds, hsettings]) ?_
        simp [Escapes, hopen, hschema, hsettings, Crashes]
      | ok s =>
        exact ends_generate hopen hschema hsettings ((reports_configured w a).trans
          (Progress.reports_foldl_warn _ _)) a.verbose

/-- A run ends with exit code zero exactly if it succeeds, whatever it reads. -/
theorem ending_eq_zero_iff (hrun : Request.ofArguments w.dashes argv = .run a) :
    (run w argv).ending = .code 0 ↔ Succeeds w a := by
  have hends := ends_perform w a
  rw [run, hrun]
  dsimp only
  generalize (perform w a).ending = ending at hends
  cases hends with
  | zero hs _ => exact iff_of_true rfl hs
  | one hs _ => exact iff_of_false nofun hs
  | crash c hs _ => exact iff_of_false nofun hs

/-- **What escapes a stage is not handled.**  It is told from the arguments, the files and the
answer of the server, if no text that is read has an escape of half a surrogate pair. -/
theorem escapes_iff (ha : a.Thresholded) (hpaired : ∀ t, IsRead w a t → Json.Paired t) :
    Escapes w a ↔ Unhandled w a := by
  cases hopen : (opened w a).2 with
  | some fault =>
    refine iff_of_true (.inl (by simp [hopen])) ?_
    rcases (fault_opened_iff ha).1 ⟨fault, hopen⟩ with hlevel | ⟨t, cause, hfile, happend⟩
    · exact .threshold hlevel
    · exact .log hfile happend
  | none =>
    have hschema : Crashes (schema w a).value ↔ UnhandledInput w
        ((begun w a).log (announce (begun w a).files a.input)).files a.input :=
      crashes_readInput_iff fun t ht => hpaired t (.schema hopen ht)
    have hsettings {trees : List Tree} (htrees : (schema w a).value = .ok trees) :
        Crashes (settings w a) ↔ ∃ path, a.settingsFile? = some path ∧
          Settings.UnhandledFile (informed w a).files path :=
      crashes_readSettings_iff fun path t hfile ht =>
        hpaired t (.settings hopen htrees hfile ht)
    rw [Escapes, or_iff_right (not_not.2 hopen), hschema]
    constructor
    · rintro (h | ⟨trees, htrees, h | ⟨s, hs, h |
        ⟨gen, code, warnings, summary, hgen, hcode, h⟩⟩⟩)
      · exact .schema hopen h
      · obtain ⟨path, hfile, h⟩ := (hsettings htrees).1 h
        exact .settings hopen htrees hfile h
      · exact .attributes hopen htrees hs h
      · exact .output hopen htrees hs hgen hcode h
    · intro h
      cases h with
      | threshold h => exact absurd hopen (ne_of_fault_opened ha (.inl h))
      | log hfile h => exact absurd hopen (ne_of_fault_opened ha (.inr ⟨_, _, hfile, h⟩))
      | schema _ h => exact .inl h
      | settings _ htrees hfile h =>
        exact .inr ⟨_, htrees, .inl ((hsettings htrees).2 ⟨_, hfile, h⟩)⟩
      | attributes _ htrees hs h => exact .inr ⟨_, htrees, .inr ⟨_, hs, .inl h⟩⟩
      | output _ htrees hs hgen hcode h =>
        exact .inr ⟨_, htrees, .inr ⟨_, hs, .inr ⟨_, _, _, _, hgen, hcode, h⟩⟩⟩

/-- **How a run ends.**  A run with arguments that are in order ends with exit code zero exactly if
its schema and settings are read, its code is generated and its code can be delivered, with a crash
exactly if something is not handled, and with exit code one in all other cases.  No text that is
read may have an escape of half a surrogate pair. -/
theorem exit_codes (w : World) (argv : List Text) (a : Arguments)
    (hrun : Request.ofArguments w.dashes argv = .run a)
    (hpaired : ∀ t, IsRead w a t → Json.Paired t) :
    ((run w argv).ending = .code 0 ↔ Succeeds w a) ∧
    ((run w argv).ending = .code 1 ↔ ¬ Succeeds w a ∧ ¬ Unhandled w a) ∧
    ((∃ c, (run w argv).ending = .crash c) ↔ Unhandled w a) := by
  have hends : Ends (Succeeds w a) (Unhandled w a) (run w argv).ending := by
    rw [run, hrun, ← escapes_iff (thresholded_of_request hrun) hpaired]
    exact ends_perform w a
  cases hending : (run w argv).ending with
  | usage n complaint =>
    rw [hending] at hends
    cases hends
  | code n =>
    rw [hending] at hends
    cases hends with
    | zero hs hu => simp [hs, hu]
    | one hs hu => simp [hs, hu]
  | crash c =>
    rw [hending] at hends
    cases hends with
    | crash _ hs hu => simp [hs, hu]

section Examples

/-- A run that is asked for the schema in a file. -/
def schemaFile : Arguments := { file := some "schema.json" }

/-- A world without files in which nothing answers. -/
def silent : World := { files := {}, stdin := [], reply := .trouble .other [] }

/-- A run reads no text for a schema in a file that is not there. -/
theorem not_isRead_silent (t : Text) : ¬ IsRead silent schemaFile t := by
  intro h
  cases h with
  | schema _ h =>
    cases h with
    | file h =>
      obtain ⟨bytes, hbytes, -⟩ := h
      cases hbytes
  | settings _ hschema _ _ => cases hschema

/-- A file that is not there is reported. -/
theorem exit_codes_missing :
    Request.ofArguments silent.dashes ["schema.json"] = .run schemaFile ∧
      (∀ t, IsRead silent schemaFile t → Json.Paired t) ∧
      (run silent ["schema.json"]).ending = .code 1 := by
  have hpaired (t : Text) (h : IsRead silent schemaFile t) : Json.Paired t :=
    absurd h (not_isRead_silent t)
  refine ⟨rfl, hpaired, (exit_codes silent ["schema.json"] schemaFile rfl hpaired).2.1.2 ⟨?_, ?_⟩⟩
  · rintro ⟨-, trees, -, -, -, -, -, hschema, -⟩
    cases hschema
  · have hthreshold : schemaFile.Thresholded := .inr ⟨"WARNING", by decide, rfl⟩
    rw [← escapes_iff hthreshold hpaired]
    rintro (hopen | hcrash | ⟨trees, hschema, -⟩)
    · exact hopen rfl
    · exact Bool.false_ne_true hcrash
    · cases hschema

/-- A world whose only file holds a single byte, which is no text. -/
def undecodable : World :=
  { silent with files := { entries := [(["schema.json"], .file ⟨#[0xff]⟩)] } }

theorem readText?_undecodable : FileTree.readText? ⟨#[0xff]⟩ =
    .error { position := 0, bytes := [0xff], reason := .badStart } := by
  decide +kernel

/-- A run reads no text from a file that holds none. -/
theorem not_isRead_undecodable (t : Text) : ¬ IsRead undecodable schemaFile t := by
  intro h
  cases h with
  | schema _ h =>
    cases h with
    | file h =>
      obtain ⟨bytes, hbytes, htext⟩ := h
      obtain rfl : (⟨#[0xff]⟩ : ByteArray) = bytes := Except.ok.inj hbytes
      rw [readText?_undecodable] at htext
      cases htext
  | settings _ _ hfile _ => cases hfile

/-- **A file that holds no text is not handled**, although the log is open and the arguments are in
order, and no text is read at all. -/
theorem exit_codes_undecodable :
    ¬ ∀ (w : World) (argv : List Text) (a : Arguments),
      Request.ofArguments w.dashes argv = .run a → (opened w a).2 = none →
        (∀ t, IsRead w a t → Json.Paired t) →
          (run w argv).ending = .code 0 ∨ (run w argv).ending = .code 1 := by
  intro h
  have hrun : Request.ofArguments undecodable.dashes ["schema.json"] = .run schemaFile := rfl
  have hpaired (t : Text) (h : IsRead undecodable schemaFile t) : Json.Paired t :=
    absurd h (not_isRead_undecodable t)
  have hescapes : Escapes undecodable schemaFile :=
    (escapes_iff (thresholded_of_request hrun) hpaired).2
      (.schema rfl (.inr (.bytes rfl readText?_undecodable)))
  have hends : Ends (Succeeds undecodable schemaFile) (Escapes undecodable schemaFile)
      (run undecodable ["schema.json"]).ending := by
    rw [run, hrun]
    exact ends_perform _ _
  have hcode := h undecodable ["schema.json"] schemaFile hrun rfl hpaired
  generalize (run undecodable ["schema.json"]).ending = ending at hends hcode
  cases hends with
  | zero _ hu => exact hu hescapes
  | one _ hu => exact hu hescapes
  | crash c _ _ => rcases hcode with hcode | hcode <;> cases hcode

end Examples

end Cli

end SchemaStructs
