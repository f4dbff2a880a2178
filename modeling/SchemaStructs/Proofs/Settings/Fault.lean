import SchemaStructs.Cli.Run
import SchemaStructs.Proofs.Files.Document
import SchemaStructs.Proofs.Json.Shown
import SchemaStructs.Proofs.Settings.Checked

/-!
# Values at fault

A fault of settings is told with the value that is at fault, and the value is one of the members that
were checked (`Settings.exists_mem_of_check?`).  Defaults can be shown, and so can what was read from
a file and what the command line gives.  So if a fault cannot be told, the value is one that a caller
gave in an override (`Settings.exists_mem_of_merge?`).
-/

namespace SchemaStructs

namespace Json

variable {members others : List (Text × Json)} {key : Text} {value : Json} {m : Text × Json}

theorem mem_of_mem_insert (h : m ∈ insert members key value) : m ∈ members ∨ m = (key, value) := by
  induction members with
  | nil => exact .inr (List.mem_singleton.1 h)
  | cons first rest ih =>
    rw [insert] at h
    split at h
    · rcases List.mem_cons.1 h with rfl | h
      · exact .inr rfl
      · exact .inl (List.mem_cons_of_mem _ h)
    · rcases List.mem_cons.1 h with rfl | h
      · exact .inl List.mem_cons_self
      · exact (ih h).imp_left (List.mem_cons_of_mem _)

/-- An update has no other members than those that it puts together. -/
theorem mem_of_mem_update (h : m ∈ update members others) : m ∈ members ∨ m ∈ others := by
  induction others generalizing members with
  | nil => exact .inl h
  | cons other rest ih =>
    have hstep : update members (other :: rest) =
        update (insert members other.1 other.2) rest := rfl
    rw [hstep] at h
    rcases ih h with h | h
    · refine (mem_of_mem_insert h).imp_right fun hm => ?_
      rw [hm]
      exact List.mem_cons_self
    · exact .inr (List.mem_cons_of_mem _ h)

end Json

namespace Settings

variable {members file overrides : List (Text × Json)} {fault : SettingsFault} {value : Json}
variable {files : FileTree} {path : Path} {option : Text} {cause : Json.ShowError}

/-! ### The value at fault -/

theorem value?_of_valueFault? (h : valueFault? option value = some fault) :
    fault.value? = some value := by
  unfold valueFault? at h
  split at h
  · split at h <;> cases h
    rfl
  · split at h
    · split at h <;> cases h
      rfl
    · cases h

/-- **The value at fault is that of a member**; the default of an option is none. -/
theorem exists_mem_of_check? (h : check? members = .error fault) (hvalue : fault.value? = some value) :
    ∃ m ∈ members, m.2 = value := by
  unfold check? at h
  split at h
  · cases h
    cases hvalue
  · split at h
    · rename_i found hfound
      cases h
      obtain ⟨m, hm, hfault⟩ := List.exists_of_findSome?_eq_some hfound
      rw [value?_of_valueFault? hfault] at hvalue
      exact ⟨m, hm, Option.some.inj hvalue⟩
    · dsimp only at h
      split at h
      · cases h
      · rename_i hstrategy
        cases h
        obtain rfl := Option.some.inj hvalue
        have hgiven : (ofMembers members).onConflict =
            (Json.lookup members "conflict_strategy").getD (.str "first") := rfl
        rw [hgiven] at hstrategy ⊢
        cases hlookup : Json.lookup members "conflict_strategy" with
        | none =>
          rw [hlookup] at hstrategy
          cases hstrategy
        | some value => exact ⟨_, Json.mem_of_lookup hlookup, rfl⟩

/-- **A fault that cannot be told is that of an override**, if what was read from the file can be
shown. -/
theorem exists_mem_of_merge? (hfile : ∀ m ∈ file, m.2.obstacle? = none)
    (h : merge? file overrides = .error fault) (hcause : fault.obstacle? = some cause) :
    ∃ m ∈ overrides, m.2.obstacle? = some cause := by
  have hdefault : ∀ m ∈ ({} : Settings).toMembers, m.2.obstacle? = none := by decide +kernel
  obtain ⟨value, hvalue, hobstacle⟩ := Option.bind_eq_some_iff.1 hcause
  obtain ⟨m, hm, rfl⟩ := exists_mem_of_check? h hvalue
  rcases Json.mem_of_mem_update hm with hm | hm
  · have hnone : m.2.obstacle? = none := (Json.mem_of_mem_update hm).elim (hdefault m) (hfile m)
    rw [hnone] at hobstacle
    cases hobstacle
  · exact ⟨m, hm, hobstacle⟩

/-! ### Values that can be shown -/

/-- What was read from a file can be shown. -/
theorem obstacle?_of_readFile? (h : readFile? files path = .ok members) :
    ∀ m ∈ members, m.2.obstacle? = none := by
  obtain ⟨-, bytes, doc, -, -, hread⟩ := readFile?_eq_ok_iff.1 h
  exact fun m hm => Json.obstacle?_of_mem (Json.obstacle?_of_read hread) hm

end Settings

namespace Cli

theorem obstacle?_given (key : String) (value : OptionValue) :
    ∀ m ∈ Arguments.given key value, m.2.obstacle? = none := by
  cases value <;> simp [Arguments.given, Json.entry, OptionValue.toJson, Json.obstacle?,
    Json.obstacleWithin?, Json.maxDepth, Json.obstacleItems?]

theorem obstacle?_filled (key : String) (value : OptionValue) :
    ∀ m ∈ Arguments.filled key value, m.2.obstacle? = none := by
  rw [Arguments.filled]
  cases value.text? <;> simp [Json.entry, Json.obstacle?, Json.obstacleWithin?]

theorem obstacle?_flag (given : Bool) (key : String) (b : Bool) :
    ∀ m ∈ if given then [Json.entry key (.bool b)] else [], m.2.obstacle? = none := by
  cases given <;> simp [Json.entry, Json.obstacle?, Json.obstacleWithin?]

/-- What the command line gives can be shown. -/
theorem obstacle?_overrides (a : Arguments) : ∀ m ∈ a.overrides, m.2.obstacle? = none := by
  simp only [Arguments.overrides, List.forall_mem_append]
  exact ⟨⟨⟨⟨⟨⟨obstacle?_given _ _, obstacle?_given _ _⟩, obstacle?_flag _ _ _⟩,
    obstacle?_filled _ _⟩, obstacle?_flag _ _ _⟩, obstacle?_flag _ _ _⟩, obstacle?_filled _ _⟩

/-- A fault of the settings of a run is told. -/
theorem ofFault_of_merge? {a : Arguments} {file : List (Text × Json)} {fault : SettingsFault}
    (hfile : ∀ m ∈ file, m.2.obstacle? = none)
    (h : Settings.merge? file a.overrides = .error fault) :
    SettingsFailure.ofFault fault = .values fault := by
  unfold SettingsFailure.ofFault
  split
  · rename_i cause hcause
    obtain ⟨m, hm, hobstacle⟩ := Settings.exists_mem_of_merge? hfile h hcause
    rw [obstacle?_overrides a m hm] at hobstacle
    cases hobstacle
  · rfl

end Cli

end SchemaStructs
