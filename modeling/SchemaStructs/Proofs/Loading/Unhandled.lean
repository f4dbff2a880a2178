import SchemaStructs.Proofs.Settings.Fault

/-!
# Failures to read that are not handled

A schema or settings that cannot be read are refused, and the program tells its user why.  Some
failures it does not expect: a file whose bytes are no text, a path that is too long to be asked
for, a number with too many digits, a document that lies too deep or gets stuck, an address with a
malformed host, a server that refuses without a status and a request that fails in a way of its own.
They end the program by themselves (`Cli.Crashes`).

* `Cli.crashes_readInput_iff`: when the reading of a schema ends the program;
* `Cli.crashes_readSettings_iff`: when the reading of settings does.

Both are about texts without escapes of half a surrogate pair (`Json.Paired`).  The reader gives such
a text up, and nothing is said here of what a program does that goes on with it.
-/

namespace SchemaStructs

/-- Reading the text as a document is given up: one of its numbers is too long, or its parts lie too
deep inside each other. -/
def Json.Excessive (t : Text) : Prop :=
  ∃ cause, Json.read t = .error cause ∧ ∀ fault offset, cause ≠ .invalid fault offset

theorem Json.not_excessive_of_ok {t : Text} {j : Json} (h : read t = .ok j) : ¬ Excessive t := by
  rintro ⟨cause, hcause, -⟩
  rw [h] at hcause
  cases hcause

theorem Json.not_excessive_of_invalid {t : Text} {fault : Fault} {offset : Nat}
    (h : read t = .error (.invalid fault offset)) : ¬ Excessive t := by
  rintro ⟨cause, hcause, hvalid⟩
  rw [h] at hcause
  exact hvalid fault offset (Except.error.inj hcause).symm

/-- The text is not given up for an escape of half of a surrogate pair. -/
def Json.Paired (t : Text) : Prop := ∀ offset, Json.read t ≠ .error (.invalid .halfPair offset)

theorem Json.paired_of_ok {t : Text} {j : Json} (h : read t = .ok j) : Paired t := by
  intro offset herror
  rw [h] at herror
  cases herror

/-- There is a file at the path, and its bytes are no text, or a text of the given kind. -/
inductive FileTree.Spoiled (files : FileTree) (path : Path) (kind : Text → Prop) : Prop
  /-- The bytes are no text. -/
  | bytes {bytes : ByteArray} {fault : Utf8Fault} (hbytes : files.bytes? path = .ok bytes)
      (htext : FileTree.readText? bytes = .error fault)
  /-- The text is of the given kind. -/
  | text {bytes : ByteArray} {t : Text} (hbytes : files.bytes? path = .ok bytes)
      (htext : FileTree.readText? bytes = .ok t) (h : kind t)

namespace FileTree

variable {files : FileTree} {path : Path} {kind : Text → Prop} {bytes : ByteArray}

/-- A file without bytes is not spoiled. -/
theorem not_spoiled_of_error {cause : FileFault} (h : files.bytes? path = .error cause) :
    ¬ files.Spoiled path kind := by
  intro hspoiled
  cases hspoiled with
  | bytes hbytes _ => rw [h] at hbytes; cases hbytes
  | text hbytes _ _ => rw [h] at hbytes; cases hbytes

/-- A file that is not there is not spoiled. -/
theorem not_spoiled_of_absent (h : files.contains? path = .ok false) :
    ¬ files.Spoiled path kind := by
  cases hbytes : files.bytes? path with
  | error cause => exact not_spoiled_of_error hbytes
  | ok bytes =>
    rw [contains?_of_bytes? hbytes] at h
    cases h

/-- Whether a file is spoiled is a matter of its bytes. -/
theorem spoiled_iff (hbytes : files.bytes? path = .ok bytes) :
    files.Spoiled path kind ↔
      match readText? bytes with
      | .error _ => True
      | .ok t => kind t := by
  constructor
  · intro h
    cases h with
    | bytes hbytes' htext =>
      obtain rfl := Except.ok.inj (hbytes.symm.trans hbytes')
      rw [htext]
      trivial
    | text hbytes' htext h =>
      obtain rfl := Except.ok.inj (hbytes.symm.trans hbytes')
      rw [htext]
      exact h
  · intro h
    split at h
    · exact .bytes hbytes ‹_›
    · exact .text hbytes ‹_› h

end FileTree

namespace Loading

/-- The text is excessive, or it spells a document that gets stuck. -/
def UnhandledText (t : Text) : Prop :=
  Json.Excessive t ∨
    ∃ document kind, Json.read t = .ok document ∧ Tree.StuckDocument document kind

/-- The path cannot be asked for, or its file is spoiled. -/
def UnhandledFile (files : FileTree) (path : Path) : Prop :=
  (∃ cause, files.contains? path = .error cause) ∨ files.Spoiled path UnhandledText

/-- The host of the address is malformed, or the request to the server fails in a way that is not
expected, or the server refuses without a status or answers with such a text. -/
inductive UnhandledAddress (reply : Reply) (url : Text) : Prop
  /-- The host is malformed. -/
  | host {fault : HostFault} (h : Url.hostFault? url = some fault)
  /-- The server refuses. -/
  | refusal {reason : Text} (hasks : asks url = true) (h : reply = .trouble .refusal reason)
  /-- The request fails in a way of its own. -/
  | unforeseen {reason : Text} (hasks : asks url = true) (h : reply = .trouble .unforeseen reason)
  /-- The server answers. -/
  | answer {status : Nat} {contentType body : Text} (hasks : asks url = true)
      (hreply : reply = .answer status contentType body) (hstatus : ¬ (400 ≤ status ∧ status < 600))
      (h : UnhandledText body)

end Loading

/-- The path cannot be asked for, or it names a document and its file is spoiled. -/
def Settings.UnhandledFile (files : FileTree) (path : Path) : Prop :=
  (∃ cause, files.contains? path = .error cause) ∨
    path.namesJson = true ∧ files.Spoiled path Json.Excessive

namespace Cli

open Loading

variable {w : World} {a : Arguments} {files : FileTree} {path : Path} {source t url : Text}
variable {document : Json} {invalid : Json.ReadError → LoadFailure} {α : Type}

/-- A failure to read that ends the program by itself. -/
def Crashes : Except Refusal α → Prop
  | .error refusal => refusal.crash?.isSome
  | .ok _ => False

/-- The schema that the arguments name is not handled. -/
def UnhandledInput (w : World) (files : FileTree) : Input → Prop
  | .file path => UnhandledFile files path
  | .url url => UnhandledAddress w.reply url
  | .stdin => UnhandledText w.stdin
  | .none => False

/-- The text is read for the schema that the arguments name. -/
inductive Reads (w : World) (files : FileTree) : Input → Text → Prop
  /-- It is the text of a file. -/
  | file {path : Path} {t : Text} (h : files.HasText path t) : Reads w files (.file path) t
  /-- It is the answer of the server that is asked, unless it refuses. -/
  | url {url : Text} {status : Nat} {contentType body : Text} (hasks : asks url = true)
      (h : w.reply = .answer status contentType body)
      (hstatus : ¬ (400 ≤ status ∧ status < 600)) : Reads w files (.url url) body
  /-- It is the text on standard input. -/
  | stdin : Reads w files .stdin w.stdin

/-! ### Schemas -/

theorem crashes_ofDocument_iff :
    Crashes ((ofDocument source document).value.mapError .input) ↔
      ∃ kind, Tree.StuckDocument document kind := by
  simp only [← Tree.ofDocument?_eq_noItems_iff]
  rcases value_ofDocument source document with
    ⟨trees, hread, hvalue⟩ | ⟨fault, hread, hfault, hvalue⟩ | ⟨kind, hread, hvalue⟩
  · rw [hvalue, hread]
    exact iff_of_false id (by simp)
  · rw [hvalue, hread]
    exact iff_of_false Bool.false_ne_true (by simp [hfault])
  · rw [hvalue, hread]
    exact iff_of_true rfl ⟨kind, rfl⟩

/-- A text that is no document is refused without getting stuck. -/
theorem not_unhandledText_of_invalid {fault : Json.Fault} {offset : Nat}
    (h : Json.read t = .error (.invalid fault offset)) : ¬ UnhandledText t := by
  rintro (hexcessive | ⟨document, kind, hread, -⟩)
  · exact Json.not_excessive_of_invalid h hexcessive
  · rw [h] at hread
    cases hread

theorem unhandledText_iff_of_ok (h : Json.read t = .ok document) :
    UnhandledText t ↔ ∃ kind, Tree.StuckDocument document kind := by
  rw [UnhandledText, or_iff_right (Json.not_excessive_of_ok h), h]
  simp

theorem crashes_ofText_iff (hpaired : Json.Paired t)
    (hinvalid : ∀ cause, (Refusal.input (invalid cause)).crash? = none) :
    Crashes ((ofText source t invalid).value.mapError .input) ↔ UnhandledText t := by
  unfold ofText
  split
  · exact absurd ‹_› (hpaired _)
  · rename_i hread
    refine iff_of_false ?_ (not_unhandledText_of_invalid hread)
    rw [value_fail, Except.mapError, Crashes, hinvalid]
    exact Bool.false_ne_true
  · rename_i cause _ hcause hread
    rw [value_fail]
    exact iff_of_true rfl (.inl ⟨cause, hread, hcause⟩)
  · rename_i document hread
    rw [crashes_ofDocument_iff, unhandledText_iff_of_ok hread]

theorem crashes_ofFile_iff (hpaired : ∀ t, files.HasText path t → Json.Paired t) :
    Crashes ((ofFile files path).value.mapError .input) ↔ UnhandledFile files path := by
  rw [value_ofFile, UnhandledFile]
  cases hcontains : files.contains? path with
  | error cause => exact iff_of_true rfl (.inl ⟨cause, rfl⟩)
  | ok there =>
    have hpath : ¬ ∃ cause, (Except.ok there : Except FileFault Bool) = .error cause := by simp
    cases there with
    | false =>
      exact iff_of_false Bool.false_ne_true
        (not_or.2 ⟨hpath, FileTree.not_spoiled_of_absent hcontains⟩)
    | true =>
      rw [or_iff_right hpath]
      cases hbytes : files.bytes? path with
      | error cause =>
        exact iff_of_false Bool.false_ne_true (FileTree.not_spoiled_of_error hbytes)
      | ok bytes =>
        rw [FileTree.spoiled_iff hbytes]
        dsimp only
        cases htext : FileTree.readText? bytes with
        | error fault => exact iff_of_true rfl trivial
        | ok doc => exact crashes_ofText_iff (hpaired doc ⟨bytes, hbytes, htext⟩) fun _ => rfl

/-- The value of an answer that is no refusal is that of its text. -/
theorem value_ofReply {status : Nat} {contentType body : Text}
    (hstatus : ¬ (400 ≤ status ∧ status < 600)) :
    (ofReply url (.answer status contentType body)).value =
      (ofText url body (.invalidAnswer url body)).value := by
  rw [ofReply, if_neg hstatus]
  dsimp only
  split <;> rfl

/-- The value of loading from an address, without the reports on the way. -/
theorem value_ofUrl (reply : Reply) (url : Text) :
    (ofUrl reply url).value =
      match Url.hostFault? url with
      | some fault => .error (.badHost fault)
      | none => if Url.isComplete url then (ofReply url reply).value else .error (.badUrl url) := by
  rw [ofUrl, Logged.value_bind]
  cases Url.hostFault? url with
  | some fault => exact value_fail _
  | none =>
    dsimp only
    split
    · rfl
    · exact value_fail _

/-- An address that is asked has a host. -/
theorem hostFault?_of_asks (h : asks url = true) : Url.hostFault? url = none := by
  rw [asks, Bool.and_eq_true] at h
  exact Option.isNone_iff_eq_none.1 h.1

/-- Whether an address that is asked is handled is a matter of the answer. -/
theorem unhandledAddress_iff (hasks : asks url = true) {reply : Reply} :
    UnhandledAddress reply url ↔
      match reply with
      | .trouble kind _ => kind = .refusal ∨ kind = .unforeseen
      | .answer status _ body => ¬ (400 ≤ status ∧ status < 600) ∧ UnhandledText body := by
  constructor
  · intro h
    cases h with
    | host h =>
      rw [hostFault?_of_asks hasks] at h
      cases h
    | refusal _ h =>
      rw [h]
      exact .inl rfl
    | unforeseen _ h =>
      rw [h]
      exact .inr rfl
    | answer _ hreply hstatus h =>
      rw [hreply]
      exact ⟨hstatus, h⟩
  · intro h
    split at h
    · rcases h with rfl | rfl
      · exact .refusal hasks rfl
      · exact .unforeseen hasks rfl
    · exact .answer hasks rfl h.1 h.2

theorem crashes_ofReply_iff (hasks : asks url = true) {reply : Reply}
    (hpaired : ∀ status contentType body, reply = .answer status contentType body →
      ¬ (400 ≤ status ∧ status < 600) → Json.Paired body) :
    Crashes ((ofReply url reply).value.mapError .input) ↔ UnhandledAddress reply url := by
  rw [unhandledAddress_iff hasks]
  cases reply with
  | trouble kind reason =>
    cases kind with
    | refusal => exact iff_of_true rfl (.inl rfl)
    | unforeseen => exact iff_of_true rfl (.inr rfl)
    | _ => exact iff_of_false Bool.false_ne_true nofun
  | answer status contentType body =>
    dsimp only
    by_cases hstatus : 400 ≤ status ∧ status < 600
    · rw [ofReply, if_pos hstatus]
      exact iff_of_false Bool.false_ne_true fun h => h.1 hstatus
    · rw [value_ofReply hstatus, and_iff_right hstatus]
      exact crashes_ofText_iff (hpaired _ _ _ rfl hstatus) fun _ => rfl

theorem crashes_ofUrl_iff {reply : Reply}
    (hpaired : asks url = true → ∀ status contentType body,
      reply = .answer status contentType body → ¬ (400 ≤ status ∧ status < 600) →
        Json.Paired body) :
    Crashes ((ofUrl reply url).value.mapError .input) ↔ UnhandledAddress reply url := by
  rw [value_ofUrl]
  cases hhost : Url.hostFault? url with
  | some fault => exact iff_of_true rfl (.host hhost)
  | none =>
    dsimp only
    split
    · rename_i hcomplete
      have hasks : asks url = true := by simp [asks, hhost, hcomplete]
      exact crashes_ofReply_iff hasks (hpaired hasks)
    · rename_i hcomplete
      have hasks : asks url ≠ true := by simp [asks, hcomplete]
      refine iff_of_false Bool.false_ne_true fun h => ?_
      cases h with
      | host h => rw [hhost] at h; cases h
      | refusal h _ => exact hasks h
      | unforeseen h _ => exact hasks h
      | answer h _ _ _ => exact hasks h

/-- **The reading of a schema ends the program exactly if its source is not handled.** -/
theorem crashes_readInput_iff {i : Input} (hpaired : ∀ t, Reads w files i t → Json.Paired t) :
    Crashes (readInput w files i).value ↔ UnhandledInput w files i := by
  cases i with
  | file path => exact crashes_ofFile_iff fun t ht => hpaired t (.file ht)
  | url url =>
    exact crashes_ofUrl_iff fun hasks _ _ body hreply hstatus =>
      hpaired body (.url hasks hreply hstatus)
  | none => exact iff_of_false Bool.false_ne_true id
  | stdin =>
    rw [readInput, UnhandledInput]
    cases hread : Json.read w.stdin with
    | ok document =>
      rw [unhandledText_iff_of_ok hread]
      exact crashes_ofDocument_iff
    | error cause =>
      cases cause with
      | invalid fault offset =>
        refine iff_of_false ?_ (not_unhandledText_of_invalid hread)
        cases fault with
        | halfPair => exact absurd hread (hpaired _ .stdin offset)
        | _ => exact Bool.false_ne_true
      | _ => exact iff_of_true rfl (.inl ⟨_, hread, by simp⟩)

/-- A schema that is read is that of a document. -/
theorem exists_document_of_readInput {i : Input} {trees : List Tree}
    (h : (readInput w files i).value = .ok trees) :
    ∃ document, Tree.ofDocument? document = .ok trees := by
  have hload : ∀ {x : Logged (Except LoadFailure (List Tree))},
      (x.value.mapError Refusal.input) = .ok trees → x.value = .ok trees :=
    fun h => mapError_eq_ok_iff.1 h
  cases i with
  | file path =>
    obtain ⟨document, -, htrees⟩ := ofFile_eq_ok_iff.1 (hload h)
    exact ⟨document, htrees⟩
  | url url =>
    have h := hload h
    rw [value_ofUrl] at h
    split at h
    · cases h
    · split at h
      · cases hreply : w.reply with
        | trouble kind reason =>
          rw [hreply] at h
          cases kind <;> cases h
        | answer status contentType body =>
          rw [hreply] at h
          by_cases hstatus : 400 ≤ status ∧ status < 600
          · rw [ofReply, if_pos hstatus] at h
            cases h
          · rw [value_ofReply hstatus] at h
            obtain ⟨document, -, htrees⟩ := ofText_eq_ok_iff.1 h
            exact ⟨document, htrees⟩
      · cases h
  | none => cases h
  | stdin =>
    rw [readInput] at h
    split at h
    · cases h
    · exact ⟨_, ofDocument_eq_ok_iff.1 (hload h)⟩

/-! ### Settings -/

theorem crashes_readFile?_iff (hpaired : ∀ t, files.HasText path t → Json.Paired t) :
    Crashes ((Settings.readFile? files path).mapError .settings) ↔
      Settings.UnhandledFile files path := by
  rw [Settings.readFile?, Settings.UnhandledFile]
  cases hcontains : files.contains? path with
  | error cause => exact iff_of_true rfl (.inl ⟨cause, rfl⟩)
  | ok there =>
    have hpath : ¬ ∃ cause, (Except.ok there : Except FileFault Bool) = .error cause := by simp
    cases there with
    | false =>
      exact iff_of_false Bool.false_ne_true
        (not_or.2 ⟨hpath, fun h => FileTree.not_spoiled_of_absent hcontains h.2⟩)
    | true =>
      rw [or_iff_right hpath]
      cases hname : path.namesJson with
      | false => exact iff_of_false Bool.false_ne_true fun h => Bool.false_ne_true h.1
      | true =>
        rw [and_iff_right rfl]
        cases hbytes : files.bytes? path with
        | error cause =>
          exact iff_of_false Bool.false_ne_true (FileTree.not_spoiled_of_error hbytes)
        | ok bytes =>
          rw [FileTree.spoiled_iff hbytes]
          dsimp only
          cases htext : FileTree.readText? bytes with
          | error fault => exact iff_of_true rfl trivial
          | ok doc =>
            dsimp only
            cases hread : Json.read doc with
            | error cause =>
              cases cause with
              | invalid fault offset =>
                refine iff_of_false ?_ (Json.not_excessive_of_invalid hread)
                cases fault with
                | halfPair =>
                  exact absurd hread (hpaired doc ⟨bytes, hbytes, htext⟩ offset)
                | _ => exact Bool.false_ne_true
              | _ => exact iff_of_true rfl ⟨_, hread, by simp⟩
            | ok j =>
              refine iff_of_false ?_ (Json.not_excessive_of_ok hread)
              cases j with
              | obj members => exact id
              | _ => exact Bool.false_ne_true

/-- Values that were read and those of the command line do not end the program. -/
theorem not_crashes_merge? {file : List (Text × Json)} (hfile : ∀ m ∈ file, m.2.obstacle? = none) :
    ¬ Crashes (((Settings.merge? file a.overrides).mapError SettingsFailure.ofFault).mapError
      Refusal.settings) := by
  cases hmerge : Settings.merge? file a.overrides with
  | ok s => exact id
  | error fault =>
    rw [Except.mapError, ofFault_of_merge? hfile hmerge]
    exact Bool.false_ne_true

/-- **The reading of settings ends the program exactly if their file is not handled.** -/
theorem crashes_readSettings_iff
    (hpaired : ∀ path t, a.settingsFile? = some path → files.HasText path t → Json.Paired t) :
    Crashes (readSettings a files) ↔
      ∃ path, a.settingsFile? = some path ∧ Settings.UnhandledFile files path := by
  unfold readSettings
  cases hpath : a.settingsFile? with
  | none => exact iff_of_false (not_crashes_merge? (by simp)) (by simp)
  | some path =>
    have hload : Settings.load files (some path) a.overrides =
        Settings.readFile? files path >>= fun members =>
          (Settings.merge? members a.overrides).mapError .ofFault := rfl
    simp only [Option.some.injEq, exists_eq_left', hload]
    rw [← crashes_readFile?_iff fun t => hpaired path t hpath]
    cases hread : Settings.readFile? files path with
    | error failure => exact .rfl
    | ok members => exact iff_of_false (not_crashes_merge? (Settings.obstacle?_of_readFile? hread)) id

end Cli

end SchemaStructs
