import SchemaStructs.Proofs.Files.Document
import SchemaStructs.Proofs.Json.Written
import SchemaStructs.Proofs.Settings.Precedence

/-!
# Settings saved and loaded again

Settings are saved as an object of seven members, which are truth values, texts or `null`.  Such an
object is read as it was written (`Json.read_pretty`), its members take the places of the defaults
one by one (`Settings.update_toMembers`), and checking settings that were checked changes nothing
(`Settings.check?_toMembers`).  So settings that were loaded are loaded from the file that they are
saved to (`Settings.load_of_save`), whatever characters their texts have.
-/

namespace SchemaStructs

namespace Settings

variable {s : Settings} {files after : FileTree} {path : Path}

/-! ### Values -/

/-- The name of the file for the code is a text, or there is none. -/
def NamesOutput (s : Settings) : Prop := s.outputFile = .null ∨ s.outputFile.isText = true

theorem isFlat_of_isText {j : Json} (h : j.isText = true) : j.isFlat = true := by
  cases j with
  | str _ => rfl
  | _ => cases h

theorem isFlat_of_isFlag {j : Json} (h : j.isFlag = true) : j.isFlat = true := by
  cases j with
  | bool _ => rfl
  | _ => cases h

/-- Settings that were checked have values without parts. -/
theorem Checked.isFlat (h : s.Checked) (hout : s.NamesOutput) :
    ∀ m ∈ s.toMembers, m.2.isFlat = true := by
  have houtput : s.outputFile.isFlat = true := by
    rcases hout with hnull | htext
    · rw [hnull]
      rfl
    · exact isFlat_of_isText htext
  intro m hm
  simp only [toMembers, List.mem_cons, List.not_mem_nil, or_false] at hm
  rcases hm with rfl | rfl | rfl | rfl | rfl | rfl | rfl
  · exact houtput
  · exact isFlat_of_isText h.packageName
  · exact isFlat_of_isText h.lead
  · exact isFlat_of_isFlag h.exported
  · rcases ofJson?_isSome_iff.1 h.onConflict with hfirst | herror
    · rw [hfirst]
      rfl
    · rw [herror]
      rfl
  · exact isFlat_of_isFlag h.comments
  · exact isFlat_of_isFlag h.format

/-! ### Members -/

/-- The members of settings take the places of the defaults. -/
theorem update_toMembers (s : Settings) :
    Json.update ({} : Settings).toMembers s.toMembers = s.toMembers := rfl

theorem merge?_toMembers (h : s.Checked) : merge? s.toMembers [] = .ok s := by
  rw [merge?, update_toMembers]
  exact check?_toMembers h

/-! ### Files -/

/-- **Settings that were saved are loaded again**, with the same seven values: whatever settings
were loaded, from a file or not, they can be saved to a file that is named as a document, unless a
folder stands there, and that file gives them. -/
theorem load_of_save {before : FileTree} {file : Option Path} {overrides : List (Text × Json)}
    {place : List Text} (hload : load before file overrides = .ok s) (hout : s.NamesOutput)
    (hname : path.namesJson = true) (hplace : files.place? path = .ok place)
    (hfree : files.entry? place ≠ some .folder) :
    ∃ after, s.save files path = .ok after ∧ load after (some path) [] = .ok s := by
  have hchecked := checked_of_load hload
  have hflat := hchecked.isFlat hout
  have hwrite : files.write? path s.document =
      .ok (files.put place (.file s.document.toBytes)) :=
    FileTree.write?_eq_ok_iff.2 ⟨place, hplace, hfree, rfl⟩
  have hread : Json.read s.document = .ok (.obj s.toMembers) :=
    Json.read_pretty (List.cons_ne_nil _ _) hflat (by rw [map_fst_toMembers]; exact options_nodup)
  have hholds := FileTree.holds_of_write? hwrite (Json.not_mem_pretty hflat) hread
  exact ⟨_, mapError_eq_ok_iff.2 hwrite,
    load_eq_ok_iff.2 ⟨s.toMembers, merge?_toMembers hchecked, hname, hholds⟩⟩

/-- Settings with quotes, backslashes, control characters and line breaks in their texts. -/
def oddSettings : Settings :=
  { outputFile := .str "out\r\n.go", packageName := .str "\"p\\u0041\t", lead := .str "é\x01\x7f\u2028"
    exported := .bool true, onConflict := .str "error" }

theorem load_oddSettings : load {} none
    [Json.entry "prefix" oddSettings.lead, Json.entry "output_file" oddSettings.outputFile,
      Json.entry "package_name" oddSettings.packageName, Json.entry "exported" (.bool true),
      Json.entry "conflict_strategy" (.str "error")] = .ok oddSettings := by
  have hchecked : oddSettings.Checked := ⟨rfl, rfl, rfl, rfl, rfl, .error, rfl⟩
  exact load_eq_ok_iff.2 ⟨[], check?_toMembers hchecked, rfl⟩

theorem load_of_save_odd :
    oddSettings.NamesOutput ∧ (Path.ofText "s.json").namesJson = true ∧
    (∃ overrides, load {} none overrides = .ok oddSettings) ∧
    ∃ place, FileTree.place? {} (Path.ofText "s.json") = .ok place ∧
      FileTree.entry? {} place ≠ some .folder ∧
      ∃ after, oddSettings.save {} (Path.ofText "s.json") = .ok after ∧
        load after (some (Path.ofText "s.json")) [] = .ok oddSettings := by
  have hplace : FileTree.place? {} (Path.ofText "s.json") = .ok [("s.json" : Text)] := rfl
  have hfree : FileTree.entry? {} [("s.json" : Text)] ≠ some .folder := nofun
  exact ⟨.inr rfl, by decide +kernel, ⟨_, load_oddSettings⟩, _, hplace, hfree,
    load_of_save load_oddSettings (.inr rfl) (by decide +kernel) hplace hfree⟩

end Settings

end SchemaStructs
