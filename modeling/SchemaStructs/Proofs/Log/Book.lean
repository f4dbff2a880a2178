import SchemaStructs.Log.Book
import SchemaStructs.Proofs.Files.Document

/-!
# What a log book changes

A log book writes to the files of its handlers and to no others, at their ends, and never empties
them.

* `LogBook.sameBut_add`: taking records changes the files of the handlers only;
* `LogBook.sameBut_configure`: so does setting the log up, which adds at most the file it is given;
* `LogBook.mentions_add`: what a file mentions it mentions afterwards, too, and
  `LogBook.mentions_configure` says that the file of the log mentions the setup itself if it takes
  all records.
-/

namespace SchemaStructs

namespace FileTree

/-- The place that a file with the given name has in a log, if there is one. -/
def logPlaces (tree : FileTree) : Option Text → List (List Text)
  | none | some [] => []
  | some name => (tree.place? (Path.ofText name).direct).toOption.toList

/-- Somewhere in the file at a place stands a text. -/
def Mentions (tree : FileTree) (p : List Text) (t : Text) : Prop :=
  ∃ before after : ByteArray, tree.entry? p = some (.file (before ++ t.toBytes ++ after))

end FileTree

namespace LogBook

open FileTree

/-- The place of the file of a handler, if it has one. -/
def placeOf? (files : FileTree) : LogHandler → Option (List Text)
  | .console => none
  | .file name => (files.place? (Path.ofText name).direct).toOption

/-- The places of the files that receive records. -/
def places (book : LogBook) : List (List Text) :=
  book.setup.handlers.filterMap (placeOf? book.files)

variable {book opened : LogBook} {files after : FileTree} {h : LogHandler} {p : List Text}
variable {t u : Text} {records : List LogRecord} {threshold : Threshold} {file : Option Text}
variable {level : LevelNumber} {fault : Option LogFault} {places : List (List Text)}

@[simp] theorem setup_add : (book.add records).setup = book.setup := rfl

theorem toOption_place?_congr (h : SameBut places files after) (path : Path) :
    (after.place? path).toOption = (files.place? path).toOption := by
  refine Option.ext fun p => ?_
  have hiff : after.place? path = .ok p ↔ files.place? path = .ok p := h.place?_iff
  cases ha : after.place? path <;> cases hf : files.place? path <;>
    simp_all [Except.toOption]

/-- Writing to the file of a handler leaves the others alone. -/
theorem sameBut_write (hp : ∀ name, h = .file name →
      ∀ p, files.place? (Path.ofText name).direct = .ok p → p ∈ places) :
    SameBut places files (write files t h) := by
  cases h with
  | console => exact .refl _ _
  | file name =>
    rw [write]
    split
    · obtain ⟨p, hplace, hsame, -⟩ := exists_of_append? ‹_›
      exact hsame.mono fun q hq => List.mem_singleton.1 hq ▸ hp name rfl p hplace
    · exact .refl _ _

/-- The files after all handlers have written a text. -/
def writeAll (files : FileTree) (t : Text) (handlers : List LogHandler) : FileTree :=
  handlers.foldl (fun files h => write files t h) files

theorem placeOf?_congr (h : SameBut places files after) (handler : LogHandler) :
    placeOf? after handler = placeOf? files handler := by
  cases handler with
  | console => rfl
  | file name => exact toOption_place?_congr h _

theorem sameBut_writeAll (files : FileTree) (t : Text) (handlers : List LogHandler) :
    SameBut (handlers.filterMap (placeOf? files)) files (writeAll files t handlers) := by
  induction handlers generalizing files with
  | nil => exact .refl _ _
  | cons h handlers ih =>
    have hfirst : SameBut ((h :: handlers).filterMap (placeOf? files)) files (write files t h) := by
      refine sameBut_write fun name hname p hp => ?_
      refine List.mem_filterMap.2 ⟨h, List.mem_cons_self, ?_⟩
      rw [hname, placeOf?, hp]
      rfl
    have hrest := ih (write files t h)
    rw [List.filterMap_congr fun h' _ => placeOf?_congr hfirst h'] at hrest
    refine hfirst.trans (hrest.mono fun p hp => ?_)
    obtain ⟨h', hh', hplace⟩ := List.mem_filterMap.1 hp
    exact List.mem_filterMap.2 ⟨h', List.mem_cons_of_mem h hh', hplace⟩

/-- **Taking records changes the files of the handlers only.** -/
theorem sameBut_add (book : LogBook) (records : List LogRecord) :
    SameBut book.places book.files (book.add records).files :=
  sameBut_writeAll _ _ _

@[simp] theorem places_add : (book.add records).places = book.places := by
  rw [LogBook.places, LogBook.places]
  exact List.filterMap_congr fun h _ => placeOf?_congr (sameBut_add book records) h

/-! ### Two books at once -/

theorem write_eq (files : FileTree) (t : Text) (name : Text) :
    write files t (.file name) =
      (files.append? (Path.ofText name).direct t).toOption.getD files := by
  rw [write]
  cases files.append? (Path.ofText name).direct t <;> rfl

/-- A text that is written to the same file in both trees. -/
theorem sameBut_write_both (h : SameBut places files after) (t : Text) (handler : LogHandler) :
    SameBut places (write files t handler) (write after t handler) := by
  cases handler with
  | console => exact h
  | file name =>
    rw [write_eq, write_eq]
    exact h.append? _ _

/-- **Two books that take the same records in the same way and at the same time** have the same
files where they had the same files before. -/
theorem sameBut_add_both {other : LogBook} (hsetup : other.setup = book.setup)
    (htime : other.time = book.time) (h : SameBut places book.files other.files)
    (records : List LogRecord) :
    SameBut places (book.add records).files (other.add records).files := by
  have hall : ∀ (handlers : List LogHandler) (t : Text) {files after : FileTree},
      SameBut places files after →
        SameBut places (writeAll files t handlers) (writeAll after t handlers) := by
    intro handlers t
    induction handlers with
    | nil => exact fun h => h
    | cons handler handlers ih => exact fun h => ih (sameBut_write_both h t handler)
  have hadd := hall book.setup.handlers (book.setup.fileText book.time records) h
  rw [LogBook.add, LogBook.add, hsetup, htime]
  exact hadd

/-! ### Records that are not kept -/

/-- Nothing that is written to the end of a file changes none. -/
theorem bytes?_write_nil {path : Path} {bytes : ByteArray} (h : files.bytes? path = .ok bytes)
    (handler : LogHandler) : (write files [] handler).bytes? path = .ok bytes := by
  cases handler with
  | console => exact h
  | file name =>
    rw [write]
    split
    · rename_i happend
      obtain ⟨q, hq, hfolder, rfl⟩ := append?_eq_ok_iff.1 happend
      obtain ⟨p, hp, hentry⟩ := bytes?_eq_ok_iff.1 h
      refine bytes?_eq_ok_iff.2 ⟨p, (sameBut_put hfolder).place?_iff.2 hp, ?_⟩
      by_cases hpq : p = q
      · subst hpq
        rw [entry?_put_self hfolder, held, hentry]
        exact congrArg (some ∘ FileEntry.file) ByteArray.append_empty
      · rw [entry?_put_of_ne hpq, hentry]
    · exact h

/-- **Records that are not kept change no file.** -/
theorem bytes?_add_of_not_keeps {path : Path} {bytes : ByteArray}
    (hkeeps : ∀ r ∈ records, book.setup.keeps r = false) (h : book.files.bytes? path = .ok bytes) :
    (book.add records).files.bytes? path = .ok bytes := by
  have hnone : records.filter book.setup.keeps = [] :=
    List.filter_eq_nil_iff.2 fun r hr => by simp [hkeeps r hr]
  have hall : ∀ (handlers : List LogHandler) (files : FileTree), files.bytes? path = .ok bytes →
      (writeAll files [] handlers).bytes? path = .ok bytes := by
    intro handlers
    induction handlers with
    | nil => exact fun _ h => h
    | cons handler handlers ih => exact fun _ h => ih _ (bytes?_write_nil h handler)
  rw [add, LogSetup.fileText, hnone]
  exact hall _ _ h

/-! ### Texts that a file mentions -/

theorem mentions_write (hm : files.Mentions p u) : (write files t h).Mentions p u := by
  cases h with
  | console => exact hm
  | file name =>
    rw [write]
    split
    · obtain ⟨q, -, hsame, hq⟩ := exists_of_append? ‹_›
      obtain ⟨before, after, hentry⟩ := hm
      by_cases hpq : p = q
      · subst hpq
        refine ⟨before, after ++ t.toBytes, ?_⟩
        rw [hq, held, hentry]
        simp only [ByteArray.append_assoc]
      · exact ⟨before, after, (hsame.entry?_eq p (mt List.mem_singleton.1 hpq)).trans hentry⟩
    · exact hm

theorem mentions_writeAll {handlers : List LogHandler} (hm : files.Mentions p u) :
    (writeAll files t handlers).Mentions p u := by
  induction handlers generalizing files with
  | nil => exact hm
  | cons h handlers ih => exact ih (mentions_write hm)

/-- A log book takes nothing out of a file. -/
theorem mentions_add (hm : book.files.Mentions p u) : (book.add records).files.Mentions p u :=
  mentions_writeAll hm

/-! ### Setting the log up -/

theorem logPlaces_of_place? {name : Text} (hname : name ≠ [])
    (hp : files.place? (Path.ofText name).direct = .ok p) : files.logPlaces (some name) = [p] := by
  obtain ⟨c, rest, rfl⟩ := List.exists_cons_of_ne_nil hname
  rw [FileTree.logPlaces, hp]
  · rfl
  · exact hname

/-- A log without a file. -/
theorem places_of_console (hsetup : book.setup = LogSetup.ofLevel level []) : book.places = [] := by
  rw [LogBook.places, hsetup]
  rfl

/-- A log with a file. -/
theorem places_of_file {name : Text} (hname : name ≠ [])
    (hsetup : book.setup = LogSetup.ofLevel level name)
    (hp : book.files.place? (Path.ofText name).direct = .ok p) : book.places = [p] := by
  obtain ⟨c, rest, rfl⟩ := List.exists_cons_of_ne_nil hname
  have hplace : placeOf? book.files (.file (c :: rest)) = some p := congrArg Except.toOption hp
  have hhandlers : book.setup.handlers = [.console, .file (c :: rest)] := by rw [hsetup]; rfl
  rw [LogBook.places, hhandlers, List.filterMap_cons_none rfl, List.filterMap_cons_some hplace,
    List.filterMap_nil]

/-- What setting the log up comes to: a fault without any changes, or a log that has taken the
record of its setup. -/
theorem openAt_cases (hopen : book.openAt level file = (opened, fault)) :
    (∃ cause, fault = some (.unwritable cause) ∧ opened.files = book.files) ∨
    (fault = none ∧ ∃ start : LogBook, opened = start.add [LogSetup.setupRecord level file] ∧
      start.places = book.files.logPlaces file ∧
      SameBut (book.files.logPlaces file) book.files start.files ∧
      ∀ p ∈ start.places, start.files.entry? p ≠ some .folder) := by
  unfold openAt at hopen
  split at hopen
  · obtain ⟨rfl, rfl⟩ := Prod.mk.inj hopen
    exact .inr ⟨rfl, _, rfl, places_of_console rfl, .refl _ _, nofun⟩
  · obtain ⟨rfl, rfl⟩ := Prod.mk.inj hopen
    exact .inr ⟨rfl, _, rfl, places_of_console rfl, .refl _ _, nofun⟩
  · rename_i name hname
    split at hopen
    · obtain ⟨rfl, rfl⟩ := Prod.mk.inj hopen
      exact .inl ⟨_, rfl, rfl⟩
    · rename_i files happend
      obtain ⟨rfl, rfl⟩ := Prod.mk.inj hopen
      obtain ⟨p, hp, hsame, hentry⟩ := exists_of_append? happend
      have hplaces : book.files.logPlaces (some name) = [p] := logPlaces_of_place? hname hp
      have hstart :
          LogBook.places { book with setup := LogSetup.ofLevel level name, files } = [p] :=
        places_of_file hname rfl (hsame.place?_iff.2 hp)
      refine .inr ⟨rfl, _, rfl, hstart.trans hplaces.symm, hplaces ▸ hsame, ?_⟩
      intro q hq
      rw [Option.getD_some, hstart, List.mem_singleton] at hq
      rw [hq, hentry]
      exact nofun

/-- Setting the log up with a threshold is setting it up with a number, or the threshold is at
fault. -/
theorem configure_cases (hopen : book.configure threshold file = (opened, fault)) :
    (∃ level, book.openAt level file = (opened, fault)) ∨ fault ≠ none ∧ opened = book := by
  unfold configure at hopen
  split at hopen
  · exact .inl ⟨_, hopen⟩
  · exact .inl ⟨_, hopen⟩
  · split at hopen
    · exact .inl ⟨_, hopen⟩
    · obtain ⟨rfl, rfl⟩ := Prod.mk.inj hopen
      exact .inr ⟨nofun, rfl⟩
  · obtain ⟨rfl, rfl⟩ := Prod.mk.inj hopen
    exact .inr ⟨nofun, rfl⟩

/-- **Setting the log up changes the file of the log only.** -/
theorem sameBut_configure (hopen : book.configure threshold file = (opened, fault)) :
    SameBut (book.files.logPlaces file) book.files opened.files ∧
      (fault = none → opened.places = book.files.logPlaces file) := by
  rcases configure_cases hopen with ⟨level, hopen⟩ | ⟨hfault, rfl⟩
  · rcases openAt_cases hopen with
      ⟨cause, rfl, hfiles⟩ | ⟨rfl, start, rfl, hplaces, hsame, -⟩
    · exact ⟨hfiles ▸ .refl _ _, nofun⟩
    · refine ⟨hsame.trans (hplaces ▸ sameBut_add start _), fun _ => ?_⟩
      rw [places_add, hplaces]
  · exact ⟨.refl _ _, fun h => absurd h hfault⟩

/-! ### The record of the setup -/

/-- A file that can be written mentions what was written to it. -/
theorem mentions_write_self (hp : placeOf? files h = some p)
    (hfolder : files.entry? p ≠ some .folder) : (write files t h).Mentions p t := by
  cases h with
  | console => cases hp
  | file name =>
    rw [placeOf?] at hp
    have hplace : files.place? (Path.ofText name).direct = .ok p := by
      cases hq : files.place? (Path.ofText name).direct with
      | error cause => rw [hq] at hp; cases hp
      | ok q => rw [hq] at hp; rw [Option.some.inj hp]
    rw [write, append?_eq_ok_iff.2 ⟨p, hplace, hfolder, rfl⟩]
    exact ⟨files.held p, .empty, by rw [entry?_put_self hfolder, ByteArray.append_empty]⟩

theorem mentions_writeAll_self {handlers : List LogHandler}
    (hp : p ∈ handlers.filterMap (placeOf? files)) (hfolder : files.entry? p ≠ some .folder) :
    (writeAll files t handlers).Mentions p t := by
  induction handlers generalizing files with
  | nil => cases hp
  | cons h handlers ih =>
    obtain ⟨h', hmem, hplace⟩ := List.mem_filterMap.1 hp
    rcases List.mem_cons.1 hmem with rfl | hmem
    · have hfirst : (write files t h').Mentions p t := mentions_write_self hplace hfolder
      change (writeAll (write files t h') t handlers).Mentions p t
      exact mentions_writeAll hfirst
    · have hsame := sameBut_writeAll files t [h]
      refine ih (List.mem_filterMap.2 ⟨h', hmem, ?_⟩) (mt (hsame.folder_iff p).1 hfolder)
      exact (placeOf?_congr hsame h').trans hplace

/-- All files of a log mention the records that it takes. -/
theorem mentions_add_self (hp : p ∈ book.places)
    (hfolder : ∀ p ∈ book.places, book.files.entry? p ≠ some .folder) :
    (book.add records).files.Mentions p (book.setup.fileText book.time records) :=
  mentions_writeAll_self hp (hfolder p hp)

/-- A text that ends the line of the log for its setup. -/
def closing : Text := [')', '\n']

/-- What mentions a text mentions its parts. -/
theorem mentions_of_infix (hu : u <:+: t) (h : files.Mentions p t) : files.Mentions p u := by
  obtain ⟨front, back, rfl⟩ := hu
  obtain ⟨before, after, hentry⟩ := h
  refine ⟨before ++ Text.toBytes front, Text.toBytes back ++ after, ?_⟩
  rw [hentry, Text.toBytes_append, Text.toBytes_append]
  simp only [ByteArray.append_assoc]

/-- A message that ends with a closing parenthesis ends its line with it. -/
theorem closing_suffix_line (time : Text) {r : LogRecord} (h : [')'] <:+ r.message) :
    closing <:+ LogSetup.line time r := by
  obtain ⟨front, hmessage⟩ := h
  refine ⟨time ++ ' ' :: (Text.padRight 8 r.level.name ++ ' ' :: (r.logger ++ ": " ++ front)), ?_⟩
  simp only [LogSetup.line, ← hmessage, closing, List.append_assoc, List.cons_append,
    List.nil_append]

/-- A record that is kept has its line in the file. -/
theorem line_infix_fileText {s : LogSetup} {r : LogRecord} (time : Text) (hr : r ∈ records)
    (hkeeps : s.keeps r = true) : LogSetup.line time r <:+: s.fileText time records := by
  obtain ⟨before, after, hsplit⟩ := List.append_of_mem (List.mem_filter.2 ⟨hr, hkeeps⟩)
  refine ⟨before.flatMap (LogSetup.line time), after.flatMap (LogSetup.line time), ?_⟩
  rw [LogSetup.fileText, hsplit, List.flatMap_append, List.flatMap_cons, List.append_assoc]

/-- **A file of the log mentions a closing parenthesis at the end of a line** if a message that is
kept ends with one. -/
theorem mentions_closing {r : LogRecord} (hp : p ∈ book.places)
    (hfolder : ∀ p ∈ book.places, book.files.entry? p ≠ some .folder) (hr : r ∈ records)
    (hkeeps : book.setup.keeps r = true) (hmessage : [')'] <:+ r.message) :
    (book.add records).files.Mentions p closing :=
  mentions_of_infix ((closing_suffix_line book.time hmessage).isInfix.trans
    (line_infix_fileText book.time hr hkeeps)) (mentions_add_self hp hfolder)

/-- **The file of a log that keeps all records mentions how the log was set up.** -/
theorem mentions_configure {r : LogRecord}
    (hopen : book.configure threshold file = (opened, none)) (hdebug : r.level = .debug)
    (hkeeps : opened.setup.keeps r = true) (hp : p ∈ opened.places) :
    opened.files.Mentions p closing := by
  rcases configure_cases hopen with ⟨level, hopen⟩ | ⟨hfault, -⟩
  · rcases openAt_cases hopen with ⟨_, hfault, -⟩ | ⟨-, start, rfl, -, -, hfolder⟩
    · cases hfault
    · rw [places_add] at hp
      rw [setup_add] at hkeeps
      have hkept : start.setup.keeps (LogSetup.setupRecord level file) = true := by
        rw [LogSetup.keeps, hdebug] at hkeeps
        exact hkeeps
      exact mentions_closing hp hfolder (List.mem_singleton_self _) hkept ⟨_, rfl⟩
  · exact absurd rfl hfault

/-! ### Documents -/

/-- **A log that keeps all records holds no document**, so the same documents are read before and
after more is recorded. -/
theorem holds_iff_of_mentions (h : SameBut places files after)
    (hfiles : ∀ p ∈ places, files.Mentions p closing)
    (hafter : ∀ p ∈ places, after.Mentions p closing) {path : Path} {document : Json} :
    after.Holds path document ↔ files.Holds path document := by
  cases hp : files.place? path with
  | error cause =>
    -- where nothing can be found nothing is read
    have hnone : ∀ tree : FileTree, (∀ p, tree.place? path ≠ .ok p) →
        ¬ tree.Holds path document := by
      rintro tree hplace ⟨bytes, -, hbytes, -⟩
      obtain ⟨p, hfound, -⟩ := bytes?_eq_ok_iff.1 hbytes
      exact hplace p hfound
    refine iff_of_false (hnone after fun p hfound => ?_) (hnone files fun p hfound => ?_)
    · have hfound : files.place? path = .ok p := h.place?_iff.1 hfound
      rw [hp] at hfound
      cases hfound
    · rw [hp] at hfound
      cases hfound
  | ok p =>
    by_cases hmem : p ∈ places
    · obtain ⟨_, _, hentry⟩ := hfiles p hmem
      obtain ⟨_, _, hentry'⟩ := hafter p hmem
      exact iff_of_false (not_holds_of_broken (h.place?_iff.2 hp) hentry')
        (not_holds_of_broken hp hentry)
    · rw [Holds, Holds, h.bytes?_eq hp hmem]

end LogBook

end SchemaStructs
