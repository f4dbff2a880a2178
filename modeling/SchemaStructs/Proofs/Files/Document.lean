import SchemaStructs.Proofs.Files.Frame
import SchemaStructs.Proofs.Json.Broken
import SchemaStructs.Proofs.Json.LineBreaks
import SchemaStructs.Proofs.Loading.Refusal
import SchemaStructs.Proofs.Text.Utf8
import SchemaStructs.Settings.File

/-!
# Documents in files

A schema and the settings of a run are read from files in the same way: the bytes of the file, its
text, and the document that the text spells (`FileTree.Holds`).  What comes of a file depends on
that document alone.

* `Loading.ofFile_eq_ok_iff`, `Settings.load_eq_ok_iff`: when a file gives a schema or settings;
* `FileTree.not_holds_of_broken`: a file that holds a closing parenthesis before a newline holds no
  document, whatever else it holds.
-/

namespace SchemaStructs

namespace FileTree

variable {tree : FileTree} {path : Path} {document : Json} {t u : Text}
variable {bytes before after : ByteArray} {p : List Text}

/-- The file at the path has the text. -/
def HasText (tree : FileTree) (path : Path) (t : Text) : Prop :=
  ∃ bytes, tree.bytes? path = .ok bytes ∧ readText? bytes = .ok t

/-- The file at the path holds the document. -/
def Holds (tree : FileTree) (path : Path) (document : Json) : Prop :=
  ∃ bytes doc, tree.bytes? path = .ok bytes ∧ readText? bytes = .ok doc ∧
    Json.read doc = .ok document

/-- A file that has bytes is there. -/
theorem contains?_of_bytes? (h : tree.bytes? path = .ok bytes) :
    tree.contains? path = .ok true := by
  obtain ⟨p, hp, hentry⟩ := bytes?_eq_ok_iff.1 h
  rw [contains?, hp]
  simp [hentry]

/-- Line breaks are unified without closing up a broken place. -/
theorem broken_unifyLineBreaks (h : Json.Broken t) : Json.Broken (unifyLineBreaks t) := by
  fun_induction unifyLineBreaks t with
  | case1 => exact h
  | case2 rest ih => exact (ih ((h.of_cons (by decide)).of_cons (by decide))).cons
  | case3 c rest hpair ih =>
    rcases Json.broken_cons_iff.1 h with ⟨rfl, after, rfl⟩ | h
    · exact ⟨[], unifyLineBreaks after, rfl⟩
    · exact (ih h).cons

/-- A text without carriage returns has newlines for all its line breaks. -/
theorem unifyLineBreaks_eq_self (h : '\r' ∉ t) : unifyLineBreaks t = t := by
  fun_induction unifyLineBreaks t with
  | case1 => rfl
  | case2 rest ih => exact absurd List.mem_cons_self h
  | case3 c rest hpair ih =>
    rw [List.mem_cons, not_or] at h
    rw [if_neg (Ne.symm h.1), ih h.2]

/-- A text is read from its bytes, but for its line breaks. -/
theorem readText?_toBytes (t : Text) : readText? t.toBytes = .ok (unifyLineBreaks t) := by
  rw [readText?, Text.ofBytes_toBytes]
  rfl

/-- **A file holds the document that was written to it.** -/
theorem holds_of_write? {after : FileTree} (hwrite : tree.write? path t = .ok after)
    (hreturn : '\r' ∉ t) (hread : Json.read t = .ok document) : after.Holds path document := by
  obtain ⟨p, hp, hsame, hentry⟩ := exists_of_write? hwrite
  refine ⟨t.toBytes, t, bytes?_eq_ok_iff.2 ⟨p, hsame.place?_iff.2 hp, hentry⟩, ?_, hread⟩
  rw [readText?_toBytes, unifyLineBreaks_eq_self hreturn]

/-- A file with a broken place holds no document. -/
theorem not_holds_of_broken (hp : tree.place? path = .ok p)
    (hentry : tree.entry? p = some (.file (before ++ Text.toBytes [')', '\n'] ++ after))) :
    ¬ tree.Holds path document := by
  rintro ⟨bytes, doc, hbytes, htext, hread⟩
  obtain ⟨q, hq, hfile⟩ := bytes?_eq_ok_iff.1 hbytes
  obtain rfl : p = q := Except.ok.inj (hp.symm.trans hq)
  obtain rfl : before ++ Text.toBytes [')', '\n'] ++ after = bytes := by
    simpa [hentry] using hfile
  obtain ⟨u, hu, rfl⟩ := map_eq_ok_iff.1 htext
  have hbroken : Json.Broken u := Text.infix_of_ofBytes (by decide) (by decide) hu
  exact Json.read_ne_ok (broken_unifyLineBreaks hbroken) hread

end FileTree

namespace Loading

variable {files : FileTree} {path : Path} {document : Json} {trees : List Tree} {source t : Text}
variable {invalid : Json.ReadError → LoadFailure}

/-- The value of loading from a file, without the reports on the way. -/
theorem value_ofFile (files : FileTree) (path : Path) :
    (ofFile files path).value =
      match files.contains? path with
      | .error cause => .error (.unusable cause)
      | .ok false => .error (.fileNotFound path)
      | .ok true =>
        match files.bytes? path with
        | .error cause => .error (.unreadable path cause)
        | .ok bytes =>
          match FileTree.readText? bytes with
          | .error fault => .error (.undecodable fault)
          | .ok doc => (ofText path.toText doc (.invalidFile path doc)).value := by
  rw [ofFile, Logged.value_bind]
  cases files.contains? path with
  | error cause => exact value_fail _
  | ok there =>
    cases there with
    | false => exact value_fail _
    | true =>
      cases files.bytes? path with
      | error cause => exact value_fail _
      | ok bytes =>
        dsimp only
        cases FileTree.readText? bytes with
        | error fault => exact value_fail _
        | ok doc => rfl

/-- A document that is loaded is a schema. -/
theorem ofDocument_eq_ok_iff :
    (ofDocument source document).value = .ok trees ↔ Tree.ofDocument? document = .ok trees := by
  rcases value_ofDocument source document with
    ⟨trees', hread, hvalue⟩ | ⟨fault, hread, -, hvalue⟩ | ⟨kind, hread, hvalue⟩
  · rw [hread, hvalue]
    exact ⟨fun h => congrArg _ (Except.ok.inj h), fun h => congrArg _ (Except.ok.inj h)⟩
  · rw [hread, hvalue]
    exact iff_of_false nofun nofun
  · rw [hread, hvalue]
    exact iff_of_false nofun nofun

theorem ofText_eq_ok_iff :
    (ofText source t invalid).value = .ok trees ↔
      ∃ document, Json.read t = .ok document ∧ Tree.ofDocument? document = .ok trees := by
  unfold ofText
  cases Json.read t with
  | ok document => simp [ofDocument_eq_ok_iff]
  | error cause => split <;> simp_all [value_fail]

/-- **A file gives a schema exactly if it holds the document of one.** -/
theorem ofFile_eq_ok_iff :
    (ofFile files path).value = .ok trees ↔
      ∃ document, files.Holds path document ∧ Tree.ofDocument? document = .ok trees := by
  rw [value_ofFile]
  constructor
  · intro h
    split at h
    · cases h
    · cases h
    · split at h
      · cases h
      · rename_i hbytes
        split at h
        · cases h
        · rename_i htext
          obtain ⟨document, hread, htrees⟩ := ofText_eq_ok_iff.1 h
          exact ⟨document, ⟨_, _, hbytes, htext, hread⟩, htrees⟩
  · rintro ⟨document, ⟨bytes, doc, hbytes, htext, hread⟩, htrees⟩
    rw [FileTree.contains?_of_bytes? hbytes, hbytes]
    simp only [htext]
    exact ofText_eq_ok_iff.2 ⟨document, hread, htrees⟩

end Loading

namespace Settings

variable {files : FileTree} {path : Path} {members overrides : List (Text × Json)} {s : Settings}

/-- A file gives the members of the object that it holds, if it is named as a document. -/
theorem readFile?_eq_ok_iff :
    readFile? files path = .ok members ↔
      path.namesJson = true ∧ files.Holds path (.obj members) := by
  unfold readFile?
  constructor
  · intro h
    split at h
    · cases h
    · cases h
    · split at h
      · cases h
      · rename_i hname
        split at h
        · cases h
        · rename_i hbytes
          split at h
          · cases h
          · rename_i htext
            split at h <;> cases h
            rename_i hread
            exact ⟨by simpa using hname, _, _, hbytes, htext, hread⟩
  · rintro ⟨hname, bytes, doc, hbytes, htext, hread⟩
    rw [FileTree.contains?_of_bytes? hbytes, hbytes]
    simp only [hname, htext, hread]
    rfl

/-- **Settings are those that the object in a file, if there is one, and overrides give.** -/
theorem load_eq_ok_iff {file : Option Path} :
    load files file overrides = .ok s ↔ ∃ members, merge? members overrides = .ok s ∧
      match file with
      | none => members = []
      | some path => path.namesJson = true ∧ files.Holds path (.obj members) := by
  cases file with
  | none => simp [load, bind, Except.bind, mapError_eq_ok_iff]
  | some path =>
    unfold load
    simp only [bind_eq_ok_iff, mapError_eq_ok_iff, readFile?_eq_ok_iff]
    exact exists_congr fun members => and_comm

end Settings

end SchemaStructs
