import SchemaStructs.Proofs.Cli.Delivery
import SchemaStructs.Proofs.Json.Agreement
import SchemaStructs.Proofs.Settings.Precedence

/-!
# Where the schema comes from

A schema is read from a file, from standard input or from an address.  What is recorded while it is
read names the source, but what comes of the text does not depend on it.

* `Cli.readInput_of_supplies`: a source that has the text (`Cli.Supplies`) is read as its text alone
  says (`Cli.fate`), with the line breaks that the source leaves in it;
* `Cli.Progress.Twins` relates two runs that differ in the files of their logs at most; reporting
  (`Cli.Progress.Twins.trans_reports`), delivering (`Cli.Progress.Twins.deliver`) and generating
  (`Cli.Progress.Twins.generate`) keep it;
* `Cli.run_of_source`: so two runs with the same text and the same other arguments end alike, if the
  text is plain (`Cli.Plain`): other characters may be decoded in more than one way.

Neither the file of the schema nor that of the settings may be the file of the log
(`Cli.LogApart`): what is recorded before the file is read would be read as well, and there is more
of it for a file than for standard input (`Cli.not_run_of_source`).
-/

namespace SchemaStructs

namespace Cli

open FileTree

variable {w w' : World} {a a' : Arguments} {p q p' q' : Progress} {files after : FileTree}
variable {path : Path} {t source code name : Text} {trees : List Tree} {s : Settings}
variable {output : Json} {places : List (List Text)}

/-! ### What comes of a text -/

/-- What comes of the text of a schema: its trees, or the crash that its reading ends in, if it is
not refused in good order. -/
def fate (t : Text) : Except (Option Crash) (List Tree) :=
  match Json.read t with
  | .error (.invalid .halfPair _) => .error (some (.input .halfPair))
  | .error (.invalid _ _) => .error none
  | .error cause => .error (some (.input (.excessive cause)))
  | .ok document =>
    match Tree.ofDocument? document with
    | .ok trees => .ok trees
    | .error (.noItems kind) => .error (some (.input (.noItems kind)))
    | .error _ => .error none

/-- The line breaks of a text do not matter. -/
theorem fate_unify (t : Text) : fate (unifyLineBreaks t) = fate t := by
  rcases Json.alike_unify t with ⟨j, h, h'⟩ | ⟨fault, offset, offset', h, h'⟩ | ⟨e, h, h'⟩
  · rw [fate, fate, h, h']
  · rw [fate, fate, h, h']
    cases fault <;> rfl
  · rw [fate, fate, h, h']

theorem value_ofText {invalid : Json.ReadError → LoadFailure}
    (hinvalid : ∀ cause, (Refusal.input (invalid cause)).crash? = none) :
    ((Loading.ofText source t invalid).value.mapError .input).mapError Refusal.crash? = fate t := by
  unfold Loading.ofText fate
  cases Json.read t with
  | error cause =>
    cases cause with
    | invalid fault offset =>
      cases fault with
      | halfPair => rfl
      | _ =>
        dsimp only
        rw [Loading.value_fail, Except.mapError, Except.mapError, hinvalid]
    | _ => dsimp only; rw [Loading.value_fail]; rfl
  | ok document =>
    rcases Loading.value_ofDocument source document with
      ⟨trees, hread, hvalue⟩ | ⟨fault, hread, hfault, hvalue⟩ | ⟨kind, hread, hvalue⟩
    · simp only [hread, hvalue]
      rfl
    · simp only [hread, hvalue]
      cases fault with
      | noItems kind => exact absurd rfl (hfault kind)
      | _ => rfl
    · simp only [hread, hvalue]
      rfl

/-- A text that is the same from every source: its characters are ASCII, and reading it does not
come to an escape of half a surrogate pair. -/
structure Plain (t : Text) : Prop where
  /-- All characters are ASCII. -/
  ascii : ∀ c ∈ t, c.toNat < 128
  /-- There is no escape of half a surrogate pair. -/
  paired : Json.Paired t

/-- The text lies at the source: a file holds it, it is on standard input, or a server answers with
it.  On standard input the line breaks may have been unified. -/
inductive Offers (w : World) (t : Text) : Input → Prop
  /-- A file holds the text. -/
  | file {path : Path} (h : w.files.bytes? path = .ok t.toBytes) : Offers w t (.file path)
  /-- The text is on standard input. -/
  | stdin (h : w.stdin = t ∨ w.stdin = unifyLineBreaks t) : Offers w t .stdin
  /-- A server is asked, and its answer is the text, as a JSON document. -/
  | url {url : Text} (hasks : Loading.asks url = true)
      (h : w.reply = .answer 200 "application/json" t) : Offers w t (.url url)

/-- The source has a plain text for the schema. -/
structure Supplies (w : World) (t : Text) (i : Input) : Prop where
  /-- The text is plain. -/
  plain : Plain t
  /-- It lies at the source. -/
  offers : Offers w t i

/-- **What is read from a source is what comes of its text.** -/
theorem readInput_of_supplies {i : Input} (h : Supplies w t i)
    (hfile : ∀ path bytes, i = .file path → w.files.bytes? path = .ok bytes →
      files.bytes? path = .ok bytes) :
    (readInput w files i).value.mapError Refusal.crash? = fate t := by
  cases h.offers with
  | @file path hbytes =>
    have hfiles := hfile path _ rfl hbytes
    simp only [readInput, Logged.value_bind, Logged.value_pure, Loading.value_ofFile,
      contains?_of_bytes? hfiles, hfiles, readText?_toBytes]
    rw [← fate_unify t]
    exact value_ofText fun _ => rfl
  | stdin hstdin =>
    have hfate : fate w.stdin = fate t := by
      rcases hstdin with h | h
      · rw [h]
      · rw [h, fate_unify]
    have hvalue : (readInput w files .stdin).value.mapError Refusal.crash? =
        ((Loading.ofText stdinName w.stdin fun _ => .noSource).value.mapError .input).mapError
          Refusal.crash? := by
      rw [readInput, Loading.ofText]
      cases Json.read w.stdin with
      | error cause =>
        cases cause with
        | invalid fault offset => cases fault <;> rfl
        | _ => rfl
      | ok document => rfl
    rw [← hfate, hvalue]
    exact value_ofText fun _ => rfl
  | @url url hasks hreply =>
    have hcomplete : Url.isComplete url = true := by
      rw [Loading.asks, Bool.and_eq_true] at hasks
      exact hasks.2
    have hvalue : (Loading.ofReply url (.answer 200 "application/json" t)).value =
        (Loading.ofText url t (.invalidAnswer url t)).value := value_ofReply (by decide)
    simp only [readInput, Logged.value_bind, Logged.value_pure, value_ofUrl,
      hostFault?_of_asks hasks, hcomplete, if_true, hreply, hvalue]
    exact value_ofText fun _ => rfl

/-! ### Two runs at once -/

/-- A text is written to the same file of both trees, or to none. -/
theorem write?_both (h : SameBut places files after) (path : Path) (t : Text) :
    (∃ place f f', files.place? path = .ok place ∧ files.write? path t = .ok f ∧
      after.write? path t = .ok f' ∧ SameBut (places.filter (· != place)) f f') ∨
    (files.write? path t = .error .nullCharacter ∧ after.write? path t = .error .nullCharacter) ∨
    ∃ cause cause', cause ≠ .nullCharacter ∧ cause' ≠ .nullCharacter ∧
      files.write? path t = .error cause ∧ after.write? path t = .error cause' := by
  cases hfiles : files.write? path t with
  | ok f =>
    obtain ⟨place, hplace, hfolder, rfl⟩ := write?_eq_ok_iff.1 hfiles
    have hafter : after.write? path t = .ok (after.put place (.file t.toBytes)) :=
      write?_eq_ok_iff.2 ⟨place, h.place?_iff.2 hplace, mt (h.folder_iff place).1 hfolder, rfl⟩
    exact .inl ⟨place, _, _, hplace, rfl, hafter, h.put hfolder⟩
  | error cause =>
    cases hafter : after.write? path t with
    | ok f =>
      obtain ⟨place, hplace, hfolder, -⟩ := write?_eq_ok_iff.1 hafter
      rw [write?_eq_ok_iff.2 ⟨place, h.place?_iff.1 hplace, mt (h.folder_iff place).2 hfolder, rfl⟩]
        at hfiles
      cases hfiles
    | error cause' =>
      have hnull : after.write? path t = .error .nullCharacter ↔
          files.write? path t = .error .nullCharacter :=
        write?_eq_nullCharacter_iff.trans write?_eq_nullCharacter_iff.symm
      rw [hfiles, hafter] at hnull
      by_cases hcause : cause = .nullCharacter
      · exact .inr (.inl ⟨by rw [hcause], hnull.2 (by rw [hcause])⟩)
      · refine .inr (.inr ⟨cause, cause', hcause, fun h => hcause ?_, rfl, rfl⟩)
        exact Except.error.inj (hnull.1 (by rw [h]))

namespace Progress

theorem deliver_of_not_truthy (h : output.truthy = false) (p : Progress) (code : Text) :
    p.deliver output code = ({ p with stdout := p.stdout ++ code }, none) := by
  unfold deliver
  rw [h]
  rfl

theorem deliver_of_no_text (h : output.truthy = true) (hother : ∀ t, output ≠ .str t)
    (p : Progress) (code : Text) :
    p.deliver output code = (p, some (.crash (.outputName output))) := by
  unfold deliver
  rw [h]
  cases output with
  | str t => exact absurd rfl (hother t)
  | _ => rfl

theorem deliver_of_write? (h : (Json.str name).truthy = true)
    (hwrite : p.files.write? (Path.ofText name) code = .ok files) :
    p.deliver (.str name) code = (((p.withFiles files).tell [.written (Path.ofText name)]).report
      .info ("Wrote " ++ (Path.ofText name).toText), none) := by
  simp only [deliver, h, hwrite]
  rfl

theorem deliver_of_nullCharacter (h : (Json.str name).truthy = true)
    (hwrite : p.files.write? (Path.ofText name) code = .error .nullCharacter) :
    p.deliver (.str name) code = (p, some (.crash (.outputFile .nullCharacter))) := by
  simp only [deliver, h, hwrite]
  rfl

theorem deliver_of_error {cause : FileFault} (h : (Json.str name).truthy = true)
    (hcause : cause ≠ .nullCharacter)
    (hwrite : p.files.write? (Path.ofText name) code = .error cause) :
    p.deliver (.str name) code =
      (p.tell [.writeFailure (Path.ofText name) cause], some (.code 1)) := by
  cases cause with
  | nullCharacter => exact absurd rfl hcause
  | _ =>
    simp only [deliver, h, hwrite]
    rfl

/-- A delivery that ends the run has failed. -/
theorem ne_of_deliver {ending : Ending} (h : (p.deliver output code).2 = some ending) :
    ending ≠ .code 0 := by
  have hdelivery := delivers_of_deliver p output code
  have hpair : p.deliver output code = ((p.deliver output code).1, some ending) := by rw [← h]
  rw [hpair] at hdelivery
  exact hdelivery.2

@[simp] theorem files_tellResult (p : Progress) (verbose : Bool) (warnings : List Warning)
    (summary : Summary) : (p.tellResult verbose warnings summary).files = p.files := by
  unfold tellResult
  dsimp only
  split <;> split <;> rfl

theorem ending_refuse (p : Progress) (refusal : Refusal) :
    (p.refuse refusal).2 = (refusal.crash?.map Ending.crash).getD (.code 1) := by
  rw [refuse]
  cases refusal.crash? <;> rfl

/-- Two runs that handle records alike and have printed the same.  Their files differ at the given
places only, and among these are those of the log. -/
structure Twins (places : List (List Text)) (p q : Progress) : Prop where
  /-- Records are handled in the same way. -/
  setup_eq : q.book.setup = p.book.setup
  /-- The log is written at the given places. -/
  covers : p.logPlaces ⊆ places
  /-- The files are the same at all other places. -/
  files : SameBut places p.files q.files
  /-- The same was printed. -/
  stdout_eq : q.stdout = p.stdout

/-- Two runs have ended in the same way.  If they have succeeded, and if their records were made at
the same time, the file for the code is the same in both, even if it is the file of the log. -/
structure EndAlike (places : List (List Text)) (sameTime : Prop) (output : Json)
    (x y : Progress × Ending) : Prop where
  /-- They end alike. -/
  ending_eq : y.2 = x.2
  /-- They have printed the same, and their files differ at the given places only. -/
  twins : Twins places x.1 y.1
  /-- The file for the code is the same. -/
  bytes?_eq : sameTime → x.2 = .code 0 → ∀ name, output = .str name → name ≠ [] →
    y.1.files.bytes? (Path.ofText name) = x.1.files.bytes? (Path.ofText name)

namespace Twins

theorem logPlaces_eq (h : Twins places p q) : q.logPlaces = p.logPlaces := by
  rw [logPlaces, logPlaces, LogBook.places, LogBook.places, h.setup_eq]
  exact List.filterMap_congr fun handler _ => LogBook.placeOf?_congr h.files handler

/-- Reporting leaves two runs as they are, whatever they report. -/
theorem trans_reports (h : Twins places p q) (hp : p.Reports p') (hq : q.Reports q') :
    Twins places p' q' where
  setup_eq := hq.setup_eq.trans (h.setup_eq.trans hp.setup_eq.symm)
  covers := hp.logPlaces_eq ▸ h.covers
  files := (hp.files.mono h.covers).symm.trans
    (h.files.trans (hq.files.mono (h.logPlaces_eq ▸ h.covers)))
  stdout_eq := hq.stdout_eq.trans (h.stdout_eq.trans hp.stdout_eq.symm)

/-- Runs that are refused for reasons that crash alike end alike. -/
theorem refuse {refusal refusal' : Refusal} (h : Twins places p q)
    (hcrash : refusal'.crash? = refusal.crash?) (sameTime : Prop) (output : Json) :
    EndAlike places sameTime output (p.refuse refusal) (q.refuse refusal') where
  ending_eq := by rw [ending_refuse, ending_refuse, hcrash]
  twins := h.trans_reports (reports_refuse p refusal).1 (reports_refuse q refusal').1
  bytes?_eq _ hzero := absurd hzero (reports_refuse p refusal).2

/-- A file that both runs have written to, and what is reported then. -/
theorem written (h : Twins places p q) {place : List Text} {f f' : FileTree}
    (hplace : p.files.place? path = .ok place) (hp : p.files.write? path code = .ok f)
    (hsame : SameBut (places.filter (· != place)) f f')
    (notices : List Notice) (level : LogLevel) (message : Text) :
    Twins places (((p.withFiles f).tell notices).report level message)
        (((q.withFiles f').tell notices).report level message) ∧
      (q.book.time = p.book.time →
        (((q.withFiles f').tell notices).report level message).files.bytes? path =
          (((p.withFiles f).tell notices).report level message).files.bytes? path) := by
  obtain ⟨_, -, hf, -⟩ := exists_of_write? hp
  have hplaces : (p.withFiles f).logPlaces = p.logPlaces :=
    List.filterMap_congr fun handler _ => LogBook.placeOf?_congr hf handler
  have hwritten : Twins places (p.withFiles f) (q.withFiles f') :=
    ⟨h.setup_eq, hplaces ▸ h.covers, hsame.mono (List.filter_subset_self _), h.stdout_eq⟩
  refine ⟨hwritten.trans_reports ((reports_tell _ _).trans (reports_report _ _ _))
    ((reports_tell _ _).trans (reports_report _ _ _)), fun htime => ?_⟩
  -- after it was written the file is the same, and so is what is added to it
  have hadded : SameBut (places.filter (· != place))
      (((p.withFiles f).tell notices).report level message).files
      (((q.withFiles f').tell notices).report level message).files := by
    have hsetup : (q.withFiles f').book.setup = (p.withFiles f).book.setup := h.setup_eq
    have htime : (q.withFiles f').book.time = (p.withFiles f).book.time := htime
    exact LogBook.sameBut_add_both hsetup htime hsame _
  refine hadded.bytes?_eq ?_ (by simp : place ∉ places.filter (· != place))
  exact (reports_report _ _ _).files.place?_iff.2 (hf.place?_iff.2 hplace)

/-- **Code is delivered by both runs in the same way.** -/
theorem deliver (h : Twins places p q) (output : Json) (code : Text) :
    (q.deliver output code).2 = (p.deliver output code).2 ∧
    Twins places (p.deliver output code).1 (q.deliver output code).1 ∧
    (q.book.time = p.book.time → (p.deliver output code).2 = none →
      ∀ name, output = .str name → name ≠ [] →
      (q.deliver output code).1.files.bytes? (Path.ofText name) =
        (p.deliver output code).1.files.bytes? (Path.ofText name)) := by
  by_cases htruthy : output.truthy = true
  · by_cases hname : ∃ name, output = .str name
    · obtain ⟨name, rfl⟩ := hname
      rcases write?_both h.files (Path.ofText name) code with
        ⟨place, f, f', hplace, hp, hq, hsame⟩ | ⟨hp, hq⟩ | ⟨cause, cause', hcause, hcause', hp, hq⟩
      · obtain ⟨htwins, hbytes⟩ := h.written hplace hp hsame [.written (Path.ofText name)] .info
          ("Wrote " ++ (Path.ofText name).toText)
        rw [deliver_of_write? htruthy hp, deliver_of_write? htruthy hq]
        refine ⟨rfl, htwins, fun htime _ other hother _ => ?_⟩
        cases hother
        exact hbytes htime
      · rw [deliver_of_nullCharacter htruthy hp, deliver_of_nullCharacter htruthy hq]
        exact ⟨rfl, h, nofun⟩
      · rw [deliver_of_error htruthy hcause hp, deliver_of_error htruthy hcause' hq]
        exact ⟨rfl, h.trans_reports (reports_tell _ _) (reports_tell _ _), nofun⟩
    · have hother : ∀ t, output ≠ .str t := fun t ht => hname ⟨t, ht⟩
      rw [deliver_of_no_text htruthy hother, deliver_of_no_text htruthy hother]
      exact ⟨rfl, h, nofun⟩
  · rw [Bool.not_eq_true] at htruthy
    rw [deliver_of_not_truthy htruthy, deliver_of_not_truthy htruthy]
    refine ⟨rfl, ⟨h.setup_eq, h.covers, h.files, congrArg (· ++ code) h.stdout_eq⟩, ?_⟩
    rintro - - (_ | ⟨c, rest⟩) rfl hname
    · exact absurd rfl hname
    · cases htruthy

/-- **The code of a schema is generated by both runs in the same way.** -/
theorem generate (h : Twins places p q) (verbose : Bool) (s : Settings) (trees : List Tree) :
    EndAlike places (q.book.time = p.book.time) s.outputFile (p.generate verbose s trees)
      (q.generate verbose s trees) := by
  unfold Progress.generate
  cases Generator.ofSettings? s with
  | none => exact ⟨rfl, h, nofun⟩
  | some gen =>
    dsimp only
    generalize (gen.run (Graph.ofTrees trees).1 (Graph.ofTrees trees).2).records = records
    have hlogged := h.trans_reports (reports_log p records) (reports_log q records)
    cases (gen.run (Graph.ofTrees trees).1 (Graph.ofTrees trees).2).value with
    | error failure => exact ⟨rfl, hlogged, nofun⟩
    | ok result =>
      cases result with
      | failed failure =>
        exact ⟨rfl, hlogged.trans_reports (reports_tell _ _) (reports_tell _ _), nofun⟩
      | success code warnings summary =>
        obtain ⟨hending, hdelivered, hfile⟩ := hlogged.deliver s.outputFile code
        have hfailed : ∀ ending, ((p.log records).deliver s.outputFile code).2 = some ending →
            ending ≠ .code 0 := fun _ => ne_of_deliver
        dsimp only
        generalize (p.log records).deliver s.outputFile code = x
          at hending hdelivered hfile hfailed ⊢
        generalize (q.log records).deliver s.outputFile code = y at hending hdelivered hfile ⊢
        obtain ⟨p, ending⟩ := x
        obtain ⟨q, ending'⟩ := y
        cases hending
        cases ending with
        | some ending =>
          exact ⟨rfl, hdelivered, fun _ hzero => absurd hzero (hfailed ending rfl)⟩
        | none =>
          refine ⟨rfl, hdelivered.trans_reports (reports_tellResult _ _ _ _)
            (reports_tellResult _ _ _ _), fun htime _ name hname hne => ?_⟩
          dsimp only
          rw [files_tellResult, files_tellResult]
          exact hfile htime rfl name hname hne

end Twins

end Progress

/-! ### Settings -/

/-- The settings are the same if the files differ at places that they are not read from. -/
theorem readSettings_congr (h : SameBut places files after)
    (hapart : ∀ path, a.settingsFile? = some path → ∀ p ∈ places, files.place? path ≠ .ok p) :
    readSettings a after = readSettings a files := by
  unfold readSettings Settings.load
  cases hfile : a.settingsFile? with
  | none => rfl
  | some path =>
    have hplace := hapart path hfile
    have hread : Settings.readFile? after path = Settings.readFile? files path := by
      rw [Settings.readFile?, Settings.readFile?, h.contains?_eq hplace]
      cases hcontains : files.contains? path with
      | error cause => rfl
      | ok there =>
        cases there with
        | false => rfl
        | true =>
          have hfound : ∃ p, files.place? path = .ok p := by
            rw [contains?] at hcontains
            split at hcontains
            · exact ⟨_, ‹_›⟩
            · cases hcontains
            · cases hcontains
          obtain ⟨p, hp⟩ := hfound
          rw [h.bytes?_eq hp fun hmem => hplace p hmem hp]
    simp only [hread]

/-! ### Runs -/

/-- The arguments without those that say where the schema comes from. -/
def Arguments.sourceless (a : Arguments) : Arguments :=
  { a with file := none, url := .absent, stdin := false }

/-- The file of the log is not the file of the schema. -/
def SchemaApart (w : World) (a : Arguments) : Prop :=
  ∀ path, a.input = .file path → ∀ p ∈ logPlaces w a, w.files.place? path ≠ .ok p

/-- The file of the log is not the file of the settings. -/
def SettingsApart (w : World) (a : Arguments) : Prop :=
  ∀ path, a.settingsFile? = some path → ∀ p ∈ logPlaces w a, w.files.place? path ≠ .ok p

/-- The file of the log is none of the files that the run reads. -/
structure LogApart (w : World) (a : Arguments) : Prop where
  /-- It is not the file of the schema. -/
  schema : SchemaApart w a
  /-- It is not the file of the settings. -/
  settings : SettingsApart w a

/-- A run that has only reported has changed the file of the log only. -/
theorem sameBut_of_reports (hopen : (opened w a).2 = none) (hp : (initial w a).Reports p) :
    SameBut (logPlaces w a) w.files p.files := by
  obtain ⟨hsame, hplaces⟩ := sameBut_opened w a
  exact hsame.trans (hplaces hopen ▸ hp.files)

theorem schema_of_supplies (hopen : (opened w a).2 = none) (hapart : LogApart w a)
    (h : Supplies w t a.input) : (schema w a).value.mapError Refusal.crash? = fate t :=
  readInput_of_supplies h fun path _ hinput hbytes =>
    (sameBut_of_reports hopen (reports_announced w a)).bytes?_of_apart (hapart.schema path hinput)
      hbytes

theorem settings_of_apart (hopen : (opened w a).2 = none) (hapart : LogApart w a) :
    settings w a = readSettings a w.files :=
  readSettings_congr (sameBut_of_reports hopen (reports_informed w a)) hapart.settings

/-- Nothing that is done before code is generated takes time. -/
theorem time_foldl_warn (warnings : List SettingsWarning) (p : Progress) :
    (warnings.foldl Progress.warn p).book.time = p.book.time := by
  induction warnings generalizing p with
  | nil => rfl
  | cons warning warnings ih => exact ih _

theorem time_opened (w : World) (a : Arguments) : (opened w a).1.time = w.time := by
  have hopenAt : ∀ (book : LogBook) level file, (book.openAt level file).1.time = book.time := by
    intro book level file
    unfold LogBook.openAt
    dsimp only
    split
    · rfl
    · rfl
    · split <;> rfl
  unfold opened LogBook.configure
  split
  · exact hopenAt _ _ _
  · exact hopenAt _ _ _
  · split
    · exact hopenAt _ _ _
    · rfl
  · rfl

section Twins

variable (hfiles : w'.files = w.files) (hflags : a'.sourceless = a.sourceless)

include hfiles hflags

/-- The log is opened in the same way, whatever the time. -/
theorem opened_alike : (opened w' a').2 = (opened w a).2 ∧
    (opened w' a').1.setup = (opened w a).1.setup := by
  have hlevel : a'.logLevel = a.logLevel := (congrArg Arguments.logLevel hflags :)
  have hlog : a'.logFile = a.logFile := (congrArg Arguments.logFile hflags :)
  have hopenAt : ∀ level file,
      (LogBook.openAt { files := w.files, time := w'.time } level file).2 =
        (LogBook.openAt { files := w.files, time := w.time } level file).2 ∧
      (LogBook.openAt { files := w.files, time := w'.time } level file).1.setup =
        (LogBook.openAt { files := w.files, time := w.time } level file).1.setup := by
    intro level file
    unfold LogBook.openAt
    dsimp only
    split
    · exact ⟨rfl, rfl⟩
    · exact ⟨rfl, rfl⟩
    · split <;> exact ⟨rfl, rfl⟩
  rw [opened, opened, hfiles, hlevel, hlog]
  unfold LogBook.configure
  split
  · exact hopenAt _ _
  · exact hopenAt _ _
  · split
    · exact hopenAt _ _
    · exact ⟨rfl, rfl⟩
  · exact ⟨rfl, rfl⟩

theorem logPlaces_alike : logPlaces w' a' = logPlaces w a := by
  have hlog : a'.logFile = a.logFile := (congrArg Arguments.logFile hflags :)
  rw [logPlaces, logPlaces, hfiles, hlog]

/-- Both runs start alike. -/
theorem twins_initial (hopen : (opened w a).2 = none) :
    (initial w a).Twins (logPlaces w a) (initial w' a') where
  setup_eq := (opened_alike hfiles hflags).2
  covers := (sameBut_opened w a).2 hopen ▸ List.Subset.refl _
  files := by
    have hsame := (sameBut_opened w' a').1
    rw [logPlaces_alike hfiles hflags, hfiles] at hsame
    exact (sameBut_opened w a).1.symm.trans hsame
  stdout_eq := rfl

/-- The settings are the same for both runs. -/
theorem settings_alike (hopen : (opened w a).2 = none) (hapart : LogApart w a)
    (hapart' : LogApart w' a') : settings w' a' = settings w a := by
  have hopen' : (opened w' a').2 = none := by rw [(opened_alike hfiles hflags).1, hopen]
  have hfile : a'.settingsFile? = a.settingsFile? := (congrArg Arguments.settingsFile? hflags :)
  have hoverrides : a'.overrides = a.overrides := (congrArg Arguments.overrides hflags :)
  rw [settings_of_apart hopen' hapart', settings_of_apart hopen hapart, readSettings, readSettings,
    hfiles, hfile, hoverrides]

/-- Both schemas are read as the same trees, or both are refused in the same way. -/
theorem schema_cases (hopen : (opened w a).2 = none) (hsupplies : Supplies w t a.input)
    (hsupplies' : Supplies w' t a'.input) (hapart : LogApart w a) (hapart' : LogApart w' a') :
    (∃ trees, (schema w a).value = .ok trees ∧ (schema w' a').value = .ok trees) ∨
      ∃ refusal refusal', (schema w a).value = .error refusal ∧
        (schema w' a').value = .error refusal' ∧ refusal'.crash? = refusal.crash? := by
  have hopen' : (opened w' a').2 = none := by rw [(opened_alike hfiles hflags).1, hopen]
  have hfate := schema_of_supplies hopen hapart hsupplies
  have hfate' := schema_of_supplies hopen' hapart' hsupplies'
  cases hread : (schema w a).value with
  | error refusal =>
    rw [hread] at hfate
    cases hread' : (schema w' a').value with
    | ok trees =>
      rw [hread', ← hfate] at hfate'
      cases hfate'
    | error refusal' =>
      rw [hread', ← hfate] at hfate'
      exact .inr ⟨refusal, refusal', rfl, rfl, Except.error.inj hfate'⟩
  | ok trees =>
    rw [hread] at hfate
    cases hread' : (schema w' a').value with
    | error refusal' =>
      rw [hread', ← hfate] at hfate'
      cases hfate'
    | ok trees' =>
      rw [hread', ← hfate] at hfate'
      exact .inl ⟨trees, rfl, by rw [Except.ok.inj hfate']⟩

/-- **Two runs that get the same text from their sources end alike.** -/
theorem endAlike_start (hopen : (opened w a).2 = none) (hsupplies : Supplies w t a.input)
    (hsupplies' : Supplies w' t a'.input) (hapart : LogApart w a) (hapart' : LogApart w' a')
    (houtput : ∀ s, settings w a = .ok s → s.outputFile = output) :
    Progress.EndAlike (logPlaces w a) (w'.time = w.time) output (Progress.start (initial w a) w a)
      (Progress.start (initial w' a') w' a') := by
  have hverbose : a'.verbose = a.verbose := (congrArg Arguments.verbose hflags :)
  have htwins := twins_initial hfiles hflags hopen
  rw [initial, start_eq, initial, start_eq, settings_alike hfiles hflags hopen hapart hapart']
  rcases schema_cases hfiles hflags hopen hsupplies hsupplies' hapart hapart' with
    ⟨trees, hread, hread'⟩ | ⟨refusal, refusal', hread, hread', hcrash⟩
  · rw [hread, hread']
    have hconfigured := htwins.trans_reports (reports_configured w a) (reports_configured w' a')
    cases hs : settings w a with
    | error refusal => exact hconfigured.refuse rfl _ _
    | ok s =>
      have hgenerated := (hconfigured.trans_reports
        (Progress.reports_foldl_warn _ (s.warnings?.getD []))
        (Progress.reports_foldl_warn _ (s.warnings?.getD []))).generate a.verbose s trees
      rw [time_foldl_warn, time_foldl_warn, houtput s hs] at hgenerated
      have htime : w'.time = w.time →
          (configured w' a').book.time = (configured w a).book.time := fun h =>
        (time_opened w' a').trans (h.trans (time_opened w a).symm)
      dsimp only
      rw [hverbose]
      exact ⟨hgenerated.ending_eq, hgenerated.twins,
        fun h => hgenerated.bytes?_eq (htime h)⟩
  · rw [hread, hread']
    exact (htwins.trans_reports (reports_informed w a) (reports_informed w' a')).refuse hcrash _ _

end Twins

/-- **The source of the schema does not matter.**  Let two runs have the same arguments, but for
those that say where the schema comes from, and the same files, and let their sources have the same
plain text: each a file, standard input or an address.  If the file of the log is none of the files that
are read, the runs end in the same way, with the same exit code or the same crash, they print the
same, and their files are the same, that of the log excepted.  The file for the code is the same
even if it is that of the log, once the runs have succeeded and their records are made at the same
time. -/
theorem run_of_source (w w' : World) (t : Text) (argv argv' : List Text) (a a' : Arguments)
    (hrun : Request.ofArguments w.dashes argv = .run a)
    (hrun' : Request.ofArguments w'.dashes argv' = .run a')
    (hfiles : w'.files = w.files) (hflags : a'.sourceless = a.sourceless)
    (hsupplies : Supplies w t a.input) (hsupplies' : Supplies w' t a'.input)
    (hapart : LogApart w a) (hapart' : LogApart w' a') :
    (run w' argv').ending = (run w argv).ending ∧
    (run w' argv').stdout = (run w argv).stdout ∧
    SameBut (logPlaces w a) (run w argv).files (run w' argv').files ∧
    (w'.time = w.time → (run w argv).ending = .code 0 → ∀ s name, settings w a = .ok s →
      s.outputFile = .str name → name ≠ [] →
      (run w' argv').files.bytes? (Path.ofText name) =
        (run w argv).files.bytes? (Path.ofText name)) := by
  rw [run, run, hrun, hrun']
  dsimp only
  have hfault := (opened_alike hfiles hflags).1
  cases hopen : (opened w a).2 with
  | some fault =>
    rw [hopen] at hfault
    rw [perform_of_fault hopen, perform_of_fault hfault]
    have hsame := (sameBut_opened w' a').1
    rw [logPlaces_alike hfiles hflags, hfiles] at hsame
    exact ⟨rfl, rfl, (sameBut_opened w a).1.symm.trans hsame, fun _ hzero => by cases hzero⟩
  | none =>
    rw [hopen] at hfault
    rw [perform_of_opened hopen, perform_of_opened hfault]
    obtain ⟨output, houtput⟩ : ∃ output, ∀ s, settings w a = .ok s → s.outputFile = output := by
      cases settings w a with
      | error refusal => exact ⟨.null, fun s hs => by cases hs⟩
      | ok s => exact ⟨s.outputFile, fun s' hs => by rw [Except.ok.inj hs]⟩
    have halike := endAlike_start hfiles hflags hopen hsupplies hsupplies' hapart hapart' houtput
    exact ⟨halike.ending_eq, halike.twins.stdout_eq, halike.twins.files,
      fun htime hzero s name hs hname hne =>
        halike.bytes?_eq htime hzero name ((houtput s hs).symm.trans hname) hne⟩

section Examples

/-- A schema with two kinds of line breaks. -/
def brokenLines : Text := "\x7b\"name\":\r\n\"note\"\r\x7d"

/-- A world with a text in a file and on standard input, with which a server answers, too. -/
def sourceWorld (t : Text) : World :=
  { files := { entries := [(["note.json"], .file t.toBytes)] }, stdin := t
    reply := .answer 200 "application/json" t }

/-- A run that reads the file and keeps its log in another one. -/
def fileArguments : Arguments := { file := some "note.json", logFile := .text "run.log" }

theorem supplies_file (h : Plain t) :
    Supplies (sourceWorld t) t (.file (Path.ofText "note.json")) :=
  ⟨h, .file (bytes?_eq_ok_iff.2 ⟨["note.json"], rfl, rfl⟩)⟩

theorem supplies_stdin (h : Plain t) : Supplies (sourceWorld t) t .stdin := ⟨h, .stdin (.inl rfl)⟩

theorem supplies_url (h : Plain t) : Supplies (sourceWorld t) t (.url "http://host/note") :=
  ⟨h, .url rfl rfl⟩

theorem plain_brokenLines : Plain brokenLines := by
  have hall : brokenLines.all (fun c => decide (c.toNat < 128)) = true := rfl
  have hread : Json.read brokenLines = .ok (.obj [Json.entry "name" (.str "note")]) := by
    with_unfolding_all rfl
  exact ⟨fun c hc => of_decide_eq_true (List.all_eq_true.1 hall c hc), Json.paired_of_ok hread⟩

/-- The file of the log is not that of the schema if their places are not the same. -/
theorem schemaApart_of_ne {place place' : List Text} (hinput : a.input = .file path)
    (hplace : w.files.place? path = .ok place) (hplaces : logPlaces w a = [place'])
    (hne : place ≠ place') : SchemaApart w a := by
  intro other hother p hp
  obtain rfl := Input.file.inj (hinput.symm.trans hother)
  rw [hplaces, List.mem_singleton] at hp
  rw [hplace, hp]
  exact fun h => hne (Except.ok.inj h)

/-- The same comes of a file, of standard input and of an address. -/
theorem run_of_source_everywhere :
    Request.ofArguments (sourceWorld brokenLines).dashes ["note.json", "--log-file", "run.log"] =
      .run fileArguments ∧
    Request.ofArguments (sourceWorld brokenLines).dashes ["--stdin", "--log-file", "run.log"] =
      .run { fileArguments with file := none, stdin := true } ∧
    Request.ofArguments (sourceWorld brokenLines).dashes
        ["--url", "http://host/note", "--log-file", "run.log"] =
      .run { fileArguments with file := none, url := .text "http://host/note" } ∧
    Plain brokenLines ∧
    LogApart (sourceWorld brokenLines) fileArguments ∧
    (run (sourceWorld brokenLines) ["--stdin", "--log-file", "run.log"]).ending =
      (run (sourceWorld brokenLines) ["note.json", "--log-file", "run.log"]).ending ∧
    (run (sourceWorld brokenLines) ["--url", "http://host/note", "--log-file", "run.log"]).stdout =
      (run (sourceWorld brokenLines) ["note.json", "--log-file", "run.log"]).stdout := by
  have hplaces : logPlaces (sourceWorld brokenLines) fileArguments = [[("run.log" : Text)]] := rfl
  have hplace : (sourceWorld brokenLines).files.place? (Path.ofText "note.json") =
      .ok ["note.json"] := rfl
  have hapart : LogApart (sourceWorld brokenLines) fileArguments :=
    ⟨schemaApart_of_ne rfl hplace hplaces (by decide), nofun⟩
  have hfile : Request.ofArguments (sourceWorld brokenLines).dashes
      ["note.json", "--log-file", "run.log"] = .run fileArguments := rfl
  have hstdin : Request.ofArguments (sourceWorld brokenLines).dashes
      ["--stdin", "--log-file", "run.log"] =
        .run { fileArguments with file := none, stdin := true } := rfl
  have hurl : Request.ofArguments (sourceWorld brokenLines).dashes
      ["--url", "http://host/note", "--log-file", "run.log"] =
        .run { fileArguments with file := none, url := .text "http://host/note" } := rfl
  have hsupplies := supplies_file plain_brokenLines
  exact ⟨hfile, hstdin, hurl, plain_brokenLines, hapart,
    (run_of_source _ _ brokenLines _ _ _ _ hfile hstdin rfl rfl hsupplies
      (supplies_stdin plain_brokenLines) hapart ⟨nofun, nofun⟩).1,
    (run_of_source _ _ brokenLines _ _ _ _ hfile hurl rfl rfl hsupplies
      (supplies_url plain_brokenLines) hapart ⟨nofun, nofun⟩).2.1⟩

/-- A run that keeps its log, with all records, in the file that it reads the schema from. -/
def aliasedArguments : Arguments :=
  { file := some "note.json", logLevel := .text "DEBUG", logFile := .text "note.json"
    noFormat := true }

def unformatted : Settings := { format := .bool false }

def unformattedGenerator : Generator :=
  { settings := unformatted, strategy := .first, library := Generator.libraryFor unformatted }

theorem clean_unformatted :
    unformattedGenerator.Clean (Graph.ofTrees [noteTree]).1 (Graph.ofTrees [noteTree]).2 :=
  Generator.clean_of_outcome? ⟨rfl, rfl⟩ rfl 10 (by decide +kernel) (by decide +kernel)

theorem plain_noteText : Plain noteText := by
  have hall : noteText.all (fun c => decide (c.toNat < 128)) = true := rfl
  exact ⟨fun c hc => of_decide_eq_true (List.all_eq_true.1 hall c hc),
    Json.paired_of_ok read_noteText⟩

theorem merge_unformatted : Settings.merge? [] aliasedArguments.overrides = .ok unformatted := by
  have hchecked : unformatted.Checked := ⟨rfl, rfl, rfl, rfl, rfl, .first, rfl⟩
  exact Settings.check?_toMembers hchecked

/-- A run succeeds with the schema on standard input, if it is not to be formatted. -/
theorem succeeds_noteText (hopen : (opened w a).2 = none) (hinput : a.input = .stdin)
    (hstdin : w.stdin = noteText) (hsettings : settings w a = .ok unformatted) : Succeeds w a := by
  obtain ⟨code, summary, hcode⟩ := clean_unformatted
  exact ⟨hopen, [noteTree], unformatted, unformattedGenerator, code, [], summary,
    (schema_noteText hinput hstdin).1, hsettings, rfl, hcode, .inl rfl⟩

/-- Two runs that get the same plain text from their sources end alike, if their logs are kept as
the condition says. -/
def SourceIrrelevant (apart : World → Arguments → Prop) : Prop :=
  ∀ (w : World) (t : Text) (argv argv' : List Text) (a a' : Arguments),
    Request.ofArguments w.dashes argv = .run a → Request.ofArguments w.dashes argv' = .run a' →
    a'.sourceless = a.sourceless → Supplies w t a.input → Supplies w t a'.input →
    apart w a → apart w a' → (run w argv').ending = (run w argv).ending

/-- The file mentions how the log was set up, and nothing that does so is a document. -/
theorem not_succeeds_aliased : ¬ Succeeds (sourceWorld noteText) aliasedArguments := by
  rintro ⟨hopen, trees, -, -, -, -, -, hschema, -⟩
  have hkeeps : (opened (sourceWorld noteText) aliasedArguments).1.setup.keeps
      aliasedArguments.record = true := rfl
  have hplaces : (opened (sourceWorld noteText) aliasedArguments).1.places =
      [[("note.json" : Text)]] := (sameBut_opened _ _).2 hopen
  obtain ⟨before, after, hentry⟩ := LogBook.mentions_configure
    (show opened (sourceWorld noteText) aliasedArguments = (_, none) by rw [← hopen]) rfl hkeeps
    (hplaces ▸ List.mem_singleton_self _)
  have hinput : aliasedArguments.input = .file (Path.ofText "note.json") := rfl
  simp only [schema, hinput, readInput, Logged.value_bind, Logged.value_pure, mapError_eq_ok_iff,
    Loading.ofFile_eq_ok_iff] at hschema
  obtain ⟨document, hholds, -⟩ := hschema
  have hopened := (holds_iff_of_reports hopen hkeeps (reports_announced _ _)).1 hholds
  exact not_holds_of_broken ((sameBut_opened _ _).1.place?_iff.2 rfl) hentry hopened

/-- A world with settings in a file, and with a schema in a file that is not named as a document. -/
def remarkedWorld : World :=
  { files :=
      { entries := [(["note (1)"], .file noteText.toBytes),
          (["c.json"], .file (Text.toBytes "\x7b\x7d"))] }
    stdin := noteText, reply := .trouble .other [] }

/-- A run that keeps its log in the file that it reads the settings from. -/
def remarkedArguments : Arguments :=
  { file := some "note (1)", config := .text "c.json", logFile := .text "c.json", noFormat := true }

/-- The same run with the schema on standard input. -/
def remarkedStdin : Arguments := { remarkedArguments with file := none, stdin := true }

/-- With the schema on standard input nothing is recorded, so the file still holds the settings. -/
theorem holds_remarked :
    (informed remarkedWorld remarkedStdin).files.Holds (Path.ofText "c.json") (.obj []) := by
  have hbytes : remarkedWorld.files.bytes? (Path.ofText "c.json") = .ok (Text.toBytes "\x7b\x7d") :=
    bytes?_eq_ok_iff.2 ⟨["c.json"], rfl, rfl⟩
  have hstart : (opened remarkedWorld remarkedStdin).1 = LogBook.add
      { time := remarkedWorld.time, setup := LogSetup.ofLevel (.number 30) "c.json"
        files := LogBook.write remarkedWorld.files [] (.file "c.json") }
      [LogSetup.setupRecord (.number 30) (some "c.json")] := rfl
  have hopened : (opened remarkedWorld remarkedStdin).1.files.bytes? (Path.ofText "c.json") =
      .ok (Text.toBytes "\x7b\x7d") := by
    rw [hstart]
    exact LogBook.bytes?_add_of_not_keeps (by decide) (LogBook.bytes?_write_nil hbytes _)
  have hsetup : (opened remarkedWorld remarkedStdin).1.setup =
      LogSetup.ofLevel (.number 30) "c.json" := rfl
  have hrecord : ∀ r ∈ [remarkedStdin.record],
      (opened remarkedWorld remarkedStdin).1.setup.keeps r = false := fun r hr => by
    rw [hsetup, List.mem_singleton.1 hr]
    rfl
  have hbegun : (begun remarkedWorld remarkedStdin).files.bytes? (Path.ofText "c.json") =
      .ok (Text.toBytes "\x7b\x7d") := LogBook.bytes?_add_of_not_keeps hrecord hopened
  have hprogress : ∀ r ∈ (schema remarkedWorld remarkedStdin).records,
      (begun remarkedWorld remarkedStdin).book.setup.keeps r = false := fun r hr => by
    have hkeeps : (LogSetup.ofLevel (.number 30) "c.json").keeps r = false := by
      rw [LogSetup.keeps, (schema_noteText rfl rfl).2 r hr]
      rfl
    exact hkeeps
  exact ⟨Text.toBytes "\x7b\x7d", "\x7b\x7d", LogBook.bytes?_add_of_not_keeps hprogress hbegun,
    readText?_toBytes _, by with_unfolding_all rfl⟩

/-- What is said of a file that is not named as a document. -/
def remark (path : Path) : LogRecord :=
  { level := .warning, logger := Loading.logger
    message := "File does not have .json extension: " ++ path.toText }

theorem remark_mem_records (hcontains : files.contains? path = .ok true)
    (hname : path.namesJson = false) : remark path ∈ (Loading.ofFile files path).records := by
  simp [remark, Loading.ofFile, Loading.announceFile, Loading.report, Logged.report, hcontains,
    hname]

theorem places_remarked : logPlaces remarkedWorld remarkedArguments = [[("c.json" : Text)]] := rfl

theorem supplies_remarked : Supplies remarkedWorld noteText (.file (Path.ofText "note (1)")) :=
  ⟨plain_noteText, .file (bytes?_eq_ok_iff.2 ⟨["note (1)"], rfl, rfl⟩)⟩

theorem schemaApart_remarked : SchemaApart remarkedWorld remarkedArguments := by
  have hplace : remarkedWorld.files.place? (Path.ofText "note (1)") = .ok ["note (1)"] := rfl
  exact schemaApart_of_ne rfl hplace places_remarked (by decide)

/-- The file of the log is the one that the settings are read from, and not a folder. -/
theorem place_begun_remarked (hopen : (opened remarkedWorld remarkedArguments).2 = none) :
    (begun remarkedWorld remarkedArguments).book.places = [[("c.json" : Text)]] ∧
      (begun remarkedWorld remarkedArguments).book.files.entry? ["c.json"] ≠ some .folder := by
  have hfolder : remarkedWorld.files.entry? ["c.json"] ≠ some .folder := nofun
  refine ⟨(reports_begun _ _).logPlaces_eq.trans (((sameBut_opened _ _).2 hopen).trans
    places_remarked), mt ((sameBut_of_reports hopen (reports_begun _ _)).folder_iff _).1 hfolder⟩

/-- The remark on the name of the schema. -/
theorem remark_mem_schema (hopen : (opened remarkedWorld remarkedArguments).2 = none) :
    remark (Path.ofText "note (1)") ∈ (schema remarkedWorld remarkedArguments).records := by
  have hinput : remarkedArguments.input = .file (Path.ofText "note (1)") := rfl
  have hname : (Path.ofText "note (1)").namesJson = false := rfl
  have hschema : remarkedWorld.files.bytes? (Path.ofText "note (1)") = .ok noteText.toBytes :=
    bytes?_eq_ok_iff.2 ⟨["note (1)"], rfl, rfl⟩
  have hannounced := (sameBut_of_reports hopen (reports_announced _ _)).bytes?_of_apart
    (schemaApart_remarked _ hinput) hschema
  rw [schema, hinput]
  exact List.mem_append_left [] (remark_mem_records (contains?_of_bytes? hannounced) hname)

theorem keeps_remark (path : Path) :
    (begun remarkedWorld remarkedArguments).book.setup.keeps (remark path) = true := by
  have hsetup : (begun remarkedWorld remarkedArguments).book.setup =
      LogSetup.ofLevel (.number 30) "c.json" := rfl
  rw [hsetup]
  rfl

/-- The file mentions the remark, and nothing that does so is a document. -/
theorem not_succeeds_remarked : ¬ Succeeds remarkedWorld remarkedArguments := by
  rintro ⟨hopen, -, s, -, -, -, -, -, hsettings, -⟩
  obtain ⟨hplaces, hfolder⟩ := place_begun_remarked hopen
  have hmessage : [')'] <:+ (remark (Path.ofText "note (1)")).message :=
    ⟨"File does not have .json extension: note (1", by decide +kernel⟩
  have hmentions : (informed remarkedWorld remarkedArguments).files.Mentions [("c.json" : Text)]
      LogBook.closing := by
    refine LogBook.mentions_closing ?_ ?_ (remark_mem_schema hopen) (keeps_remark _) hmessage
    · rw [hplaces]
      exact List.mem_singleton_self _
    · intro p hp
      rw [hplaces, List.mem_singleton] at hp
      rw [hp]
      exact hfolder
  obtain ⟨before, after, hentry⟩ := hmentions
  have hfile : remarkedArguments.settingsFile? = some (Path.ofText "c.json") := rfl
  have hload := mapError_eq_ok_iff.1 hsettings
  rw [hfile] at hload
  obtain ⟨members, -, -, hholds⟩ := Settings.load_eq_ok_iff.1 hload
  have hplace : remarkedWorld.files.place? (Path.ofText "c.json") = .ok ["c.json"] := rfl
  exact not_holds_of_broken ((sameBut_of_reports hopen (reports_informed _ _)).place?_iff.2 hplace)
    hentry hholds

/-- **A log that is kept in the file of the schema or in that of the settings matters**: it can make
the file hold no document any more, although it is kept in the same file when the same text is on
standard input. -/
theorem not_run_of_source : ¬ SourceIrrelevant SettingsApart ∧ ¬ SourceIrrelevant SchemaApart := by
  refine ⟨fun h => ?_, fun h => ?_⟩
  · have hfile : Request.ofArguments (sourceWorld noteText).dashes ["note.json", "--no-format",
        "--log-level", "DEBUG", "--log-file", "note.json"] = .run aliasedArguments := rfl
    have hstdin : Request.ofArguments (sourceWorld noteText).dashes ["--stdin", "--no-format",
        "--log-level", "DEBUG", "--log-file", "note.json"] =
          .run { aliasedArguments with file := none, stdin := true } := rfl
    have hending := h (sourceWorld noteText) noteText _ _ _ _ hfile hstdin rfl
      (supplies_file plain_noteText) (supplies_stdin plain_noteText) nofun nofun
    have hsettings : settings (sourceWorld noteText)
        { aliasedArguments with file := none, stdin := true } = .ok unformatted :=
      mapError_eq_ok_iff.2 (Settings.load_eq_ok_iff.2 ⟨[], merge_unformatted, rfl⟩)
    have hsucceeds : Succeeds (sourceWorld noteText)
        { aliasedArguments with file := none, stdin := true } :=
      succeeds_noteText rfl rfl rfl hsettings
    rw [(ending_eq_zero_iff hstdin).2 hsucceeds] at hending
    exact not_succeeds_aliased ((ending_eq_zero_iff hfile).1 hending.symm)
  · have hfile : Request.ofArguments remarkedWorld.dashes ["note (1)", "--config", "c.json",
        "--no-format", "--log-file", "c.json"] = .run remarkedArguments := rfl
    have hstdin : Request.ofArguments remarkedWorld.dashes ["--stdin", "--config", "c.json",
        "--no-format", "--log-file", "c.json"] = .run remarkedStdin := rfl
    have hending := h remarkedWorld noteText _ _ _ _ hfile hstdin rfl supplies_remarked
      ⟨plain_noteText, .stdin (.inl rfl)⟩ schemaApart_remarked nofun
    have hname : (Path.ofText "c.json").namesJson = true := rfl
    have hsettings : settings remarkedWorld remarkedStdin = .ok unformatted :=
      mapError_eq_ok_iff.2 (Settings.load_eq_ok_iff.2 ⟨[], merge_unformatted, hname, holds_remarked⟩)
    rw [(ending_eq_zero_iff hstdin).2 (succeeds_noteText rfl rfl rfl hsettings)] at hending
    exact not_succeeds_remarked ((ending_eq_zero_iff hfile).1 hending.symm)

end Examples

end Cli

end SchemaStructs
