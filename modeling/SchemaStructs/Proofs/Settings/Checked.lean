import SchemaStructs.Proofs.Computation
import SchemaStructs.Proofs.Schema.RoundTrip
import SchemaStructs.Settings.File

/-!
# Settings that were checked

Settings that pass the check have texts and truth values where they are due, and a strategy that is
known (`Settings.Checked`).  The check looks at the members of an object; that its result has values
of the right kinds follows option by option, since the default of an option passes the check, too
(`Settings.valueFault?_getD`).
-/

namespace SchemaStructs

theorem Json.mem_of_lookup {members : List (Text × Json)} {key : Text} {value : Json}
    (h : lookup members key = some value) : (key, value) ∈ members := by
  induction members with
  | nil => cases h
  | cons m rest ih =>
    rw [lookup] at h
    split at h
    · rename_i hkey
      rw [← hkey, ← Option.some.inj h]
      exact List.mem_cons_self
    · exact List.mem_cons_of_mem _ (ih h)

namespace Settings

/-- The values of the settings are of the right kinds. -/
structure Checked (s : Settings) : Prop where
  /-- The name of the package is a text. -/
  packageName : s.packageName.isText = true
  /-- The prefix is a text. -/
  lead : s.lead.isText = true
  /-- Whether types are exported is a truth value. -/
  exported : s.exported.isFlag = true
  /-- Whether there are comments is a truth value. -/
  comments : s.comments.isFlag = true
  /-- Whether the code is formatted is a truth value. -/
  format : s.format.isFlag = true
  /-- The strategy for conflicts is known. -/
  onConflict : ∃ strategy, ConflictStrategy.ofJson? s.onConflict = some strategy

variable {members : List (Text × Json)} {option : Text} {value default : Json} {s : Settings}

theorem isText_of_valueFault? (hboolean : booleanOptions.contains option = false)
    (htext : textOptions.contains option = true) (h : valueFault? option value = none) :
    value.isText = true := by
  simpa [valueFault?, -List.contains_eq_mem, hboolean, htext] using h

theorem isFlag_of_valueFault? (hboolean : booleanOptions.contains option = true)
    (h : valueFault? option value = none) : value.isFlag = true := by
  cases value with
  | bool _ => rfl
  | _ => simp [valueFault?, -List.contains_eq_mem, hboolean] at h

/-- An option has a value without faults, whether it is given or not. -/
theorem valueFault?_getD (h : ∀ m ∈ members, valueFault? m.1 m.2 = none)
    (hdefault : valueFault? option default = none) :
    valueFault? option ((Json.lookup members option).getD default) = none := by
  cases hvalue : Json.lookup members option with
  | none => exact hdefault
  | some value => exact h _ (Json.mem_of_lookup hvalue)

/-- **Settings that pass the check have values of the right kinds.** -/
theorem checked_of_check? (h : check? members = .ok s) : s.Checked := by
  unfold check? at h
  split at h
  · cases h
  split at h
  · cases h
  rename_i hnone
  have hvalues : ∀ m ∈ members, valueFault? m.1 m.2 = none := List.findSome?_eq_none_iff.1 hnone
  dsimp only at h
  split at h
  · rename_i strategy hstrategy
    cases h
    refine ⟨?_, ?_, ?_, ?_, ?_, strategy, hstrategy⟩
    · exact isText_of_valueFault? (by decide) (by decide) (valueFault?_getD hvalues (by decide))
    · exact isText_of_valueFault? (by decide) (by decide) (valueFault?_getD hvalues (by decide))
    · exact isFlag_of_valueFault? (by decide) (valueFault?_getD hvalues (by decide))
    · exact isFlag_of_valueFault? (by decide) (valueFault?_getD hvalues (by decide))
    · exact isFlag_of_valueFault? (by decide) (valueFault?_getD hvalues (by decide))
  · cases h

/-- Settings that are loaded have values of the right kinds. -/
theorem checked_of_load {files : FileTree} {file : Option Path} {overrides : List (Text × Json)}
    (h : load files file overrides = .ok s) : s.Checked := by
  cases file with
  | none => exact checked_of_check? (mapError_eq_ok_iff.1 h)
  | some path =>
    obtain ⟨read, -, h⟩ := bind_eq_ok_iff.1 h
    exact checked_of_check? (mapError_eq_ok_iff.1 h)

/-- The defaults pass the check. -/
theorem check?_default : check? ({} : Settings).toMembers = .ok {} := by
  have hknown : unknownOptions ({} : Settings).toMembers = [] := by decide +kernel
  rw [check?, hknown]
  rfl

theorem load_default (files : FileTree) : load files none [] = .ok {} :=
  bind_eq_ok_iff.2 ⟨[], rfl, mapError_eq_ok_iff.2 check?_default⟩

end Settings

end SchemaStructs
