import SchemaStructs.Proofs.Json.Members
import SchemaStructs.Proofs.Json.Written
import SchemaStructs.Proofs.Schema.Shape
import SchemaStructs.Proofs.Settings.Fault

/-!
# Defaults, files and overrides

Settings are made of the defaults, updated by a file and then by overrides (`Settings.merged`).
Only the outcome of both updates is checked, so a wrong value in a file does no harm if it is
overridden.

* `Settings.check?_eq_ok_iff`: the check passes exactly for admissible members
  (`Settings.Admissible`), and its result has their values (`Settings.TakenFrom`);
* `Cli.lookup_merged_overrides`: the options that are given on the command line win over the file,
  and one that is not given changes nothing;
* `Settings.load_of_file`: the whole account of loading settings from a file.

A document with an integer of more digits than are converted is an object, too, but it cannot be
read: then loading ends with a failure that is none of the settings (`Settings.not_madeOf`).  So it
does if an override is at fault that has such an integer, since the fault is told with its value.
-/

namespace SchemaStructs

namespace Settings

variable {members file overrides : List (Text × Json)} {option : Text} {value : Json} {s : Settings}

/-! ### Admissible members -/

/-- The keys of settings are the names of the options. -/
theorem map_fst_toMembers (s : Settings) : s.toMembers.map (·.1) = options := rfl

theorem options_nodup : options.Nodup := by decide +kernel

/-- The defaults, updated by a file and then by overrides. -/
def merged (file overrides : List (Text × Json)) : List (Text × Json) :=
  Json.update (Json.update ({} : Settings).toMembers file) overrides

/-- The members of an object are values for settings. -/
structure Admissible (members : List (Text × Json)) : Prop where
  /-- There are no other options. -/
  known : ∀ m ∈ members, m.1 ∈ options
  /-- Truth values are given where they are due. -/
  boolean : ∀ option ∈ booleanOptions, ∃ b, Json.lookup members option = some (.bool b)
  /-- Texts are given where they are due. -/
  text : ∀ option ∈ textOptions, ∃ t, Json.lookup members option = some (.str t)
  /-- The strategy for conflicts is one of two. -/
  strategy : Json.lookup members "conflict_strategy" = some (.str "first") ∨
    Json.lookup members "conflict_strategy" = some (.str "error")

/-- All settings have the values of the members of an object. -/
def TakenFrom (s : Settings) (members : List (Text × Json)) : Prop :=
  ∀ m ∈ s.toMembers, Json.lookup members m.1 = some m.2

/-! ### The check -/

theorem unknownOptions_eq_nil_iff : unknownOptions members = [] ↔ ∀ m ∈ members, m.1 ∈ options := by
  have hperm := List.mergeSort_perm ((members.map (·.1)).filter (!options.contains ·))
    (fun a b => !decide (b < a))
  rw [unknownOptions, ← List.length_eq_zero_iff, hperm.length_eq, List.length_eq_zero_iff]
  simp

/-- No option takes both a truth value and a text. -/
theorem valueFault?_eq_none_iff : valueFault? option value = none ↔
    (option ∈ booleanOptions → value.isFlag = true) ∧
      (option ∈ textOptions → value.isText = true) := by
  have hdisjoint : ∀ option ∈ booleanOptions, option ∉ textOptions := by decide
  unfold valueFault?
  by_cases hboolean : option ∈ booleanOptions
  · have htext := hdisjoint option hboolean
    cases value <;> simp [hboolean, htext, Json.isFlag]
  · rw [if_neg (mt List.contains_iff_mem.1 hboolean)]
    by_cases htext : option ∈ textOptions
    · rw [if_pos (List.contains_iff_mem.2 htext)]
      simp [hboolean, htext]
    · rw [if_neg (mt List.contains_iff_mem.1 htext)]
      simp [hboolean, htext]

theorem ofJson?_isSome_iff : (∃ strategy, ConflictStrategy.ofJson? value = some strategy) ↔
    value = .str "first" ∨ value = .str "error" := by
  constructor
  · rintro ⟨strategy, h⟩
    cases value with
    | str t =>
      have hname : strategy.name = t := by simpa using List.find?_some h
      cases strategy with
      | first => exact .inl (congrArg _ hname.symm)
      | error => exact .inr (congrArg _ hname.symm)
    | _ => cases h
  · rintro (rfl | rfl)
    · exact ⟨.first, rfl⟩
    · exact ⟨.error, rfl⟩

/-- The check passes over the names of the options, their values and the strategy. -/
theorem check?_eq_ok_iff_ofMembers : check? members = .ok s ↔
    (∀ m ∈ members, m.1 ∈ options) ∧ (∀ m ∈ members, valueFault? m.1 m.2 = none) ∧
      ((ofMembers members).onConflict = .str "first" ∨
        (ofMembers members).onConflict = .str "error") ∧
      s = ofMembers members := by
  rw [← unknownOptions_eq_nil_iff, ← ofJson?_isSome_iff, check?]
  cases hunknown : unknownOptions members with
  | cons name names => simp
  | nil =>
    dsimp only
    generalize hfound : members.findSome? _ = found
    cases found with
    | some fault =>
      obtain ⟨m, hm, hfault⟩ := List.exists_of_findSome?_eq_some hfound
      have hfault : valueFault? m.1 m.2 = some fault := hfault
      have hfaults : ¬ ∀ m ∈ members, valueFault? m.1 m.2 = none := fun h => by
        rw [h m hm] at hfault
        cases hfault
      exact iff_of_false (by simp) fun h => hfaults h.2.1
    | none =>
      have hfaults : ∀ m ∈ members, valueFault? m.1 m.2 = none :=
        List.findSome?_eq_none_iff.1 hfound
      dsimp only
      rw [eq_true hfaults]
      cases ConflictStrategy.ofJson? (ofMembers members).onConflict with
      | none => simp
      | some strategy => simp [eq_comm]

/-- The members have a value for every option. -/
def Complete (members : List (Text × Json)) : Prop :=
  (members.map (·.1)).Nodup ∧ ∀ option ∈ options, option ∈ members.map (·.1)

theorem Complete.exists_lookup (h : Complete members) (hoption : option ∈ options) :
    ∃ value, Json.lookup members option = some value :=
  Json.exists_of_mem_keys (h.2 option hoption)

theorem ofMembers_congr {others : List (Text × Json)}
    (h : ∀ option ∈ options, Json.lookup members option = Json.lookup others option) :
    ofMembers members = ofMembers others := by
  simp only [ofMembers]
  rw [h "output_file" (by decide), h "package_name" (by decide), h "prefix" (by decide),
    h "exported" (by decide), h "conflict_strategy" (by decide), h "add_comments" (by decide),
    h "format_output" (by decide)]

/-- The settings that members give are those that have their values. -/
theorem takenFrom_iff (h : Complete members) : s.TakenFrom members ↔ s = ofMembers members := by
  constructor
  · intro hs
    have hlookup : ∀ option ∈ options,
        Json.lookup s.toMembers option = Json.lookup members option := by
      intro option hoption
      rw [← map_fst_toMembers s] at hoption
      obtain ⟨m, hm, rfl⟩ := List.mem_map.1 hoption
      rw [hs m hm, Json.lookup_of_mem (map_fst_toMembers s ▸ options_nodup) hm]
    exact ofMembers_congr hlookup
  · rintro rfl m hm
    have hvalue : ∀ {option : Text} {default : Json}, option ∈ options →
        Json.lookup members option = some ((Json.lookup members option).getD default) := by
      intro option default hoption
      obtain ⟨value, hvalue⟩ := h.exists_lookup hoption
      rw [hvalue]
      rfl
    have hoption : m.1 ∈ options := map_fst_toMembers (ofMembers members) ▸ List.mem_map_of_mem hm
    simp only [toMembers, List.mem_cons, List.not_mem_nil, or_false] at hm
    rcases hm with rfl | rfl | rfl | rfl | rfl | rfl | rfl <;> exact hvalue hoption

/-- **The check passes exactly for admissible members**, and its result has their values. -/
theorem check?_eq_ok_iff (h : Complete members) :
    check? members = .ok s ↔ Admissible members ∧ s.TakenFrom members := by
  have hbooleans : ∀ option ∈ booleanOptions, option ∈ options := by decide
  have htexts : ∀ option ∈ textOptions, option ∈ options := by decide
  have hoption : ("conflict_strategy" : Text) ∈ options := by decide
  obtain ⟨strategy, hstrategy⟩ := h.exists_lookup hoption
  have hvalue : (ofMembers members).onConflict = strategy := by
    simp only [ofMembers, hstrategy, Option.getD_some]
  rw [check?_eq_ok_iff_ofMembers, takenFrom_iff h, hvalue, ← and_assoc, ← and_assoc]
  refine and_congr_left fun _ => ⟨?_, ?_⟩
  · rintro ⟨⟨hknown, hfaults⟩, hfirst⟩
    have hfault : ∀ option value, Json.lookup members option = some value →
        valueFault? option value = none := fun option value hlookup =>
      hfaults _ (Json.mem_of_lookup hlookup)
    refine ⟨hknown, fun option hoption => ?_, fun option hoption => ?_, ?_⟩
    · obtain ⟨value, hlookup⟩ := h.exists_lookup (hbooleans option hoption)
      obtain ⟨b, rfl⟩ := Tree.exists_of_isFlag
        ((valueFault?_eq_none_iff.1 (hfault _ _ hlookup)).1 hoption)
      exact ⟨b, hlookup⟩
    · obtain ⟨value, hlookup⟩ := h.exists_lookup (htexts option hoption)
      have htext := (valueFault?_eq_none_iff.1 (hfault _ _ hlookup)).2 hoption
      exact ⟨value.display, by rw [hlookup, Json.eq_str_display htext]; rfl⟩
    · rw [hstrategy]
      exact hfirst.imp (congrArg some) (congrArg some)
  · intro hadmissible
    refine ⟨⟨hadmissible.known, fun m hm => valueFault?_eq_none_iff.2 ⟨fun hoption => ?_,
      fun hoption => ?_⟩⟩, ?_⟩
    · obtain ⟨b, hlookup⟩ := hadmissible.boolean _ hoption
      rw [Json.lookup_of_mem h.1 hm] at hlookup
      rw [Option.some.inj hlookup]
      rfl
    · obtain ⟨t, hlookup⟩ := hadmissible.text _ hoption
      rw [Json.lookup_of_mem h.1 hm] at hlookup
      rw [Option.some.inj hlookup]
      rfl
    · have hfirst := hadmissible.strategy
      rw [hstrategy] at hfirst
      exact hfirst.imp Option.some.inj Option.some.inj

/-- Settings that were checked are admissible themselves. -/
theorem Checked.admissible (h : s.Checked) : Admissible s.toMembers where
  known m hm := map_fst_toMembers s ▸ List.mem_map_of_mem hm
  boolean option hoption := by
    simp only [booleanOptions, Text.ofStrings, List.map_cons, List.map_nil, List.mem_cons,
      List.not_mem_nil, or_false] at hoption
    rcases hoption with rfl | rfl | rfl
    · exact (Tree.exists_of_isFlag h.exported).imp fun _ hb => congrArg some hb
    · exact (Tree.exists_of_isFlag h.comments).imp fun _ hb => congrArg some hb
    · exact (Tree.exists_of_isFlag h.format).imp fun _ hb => congrArg some hb
  text option hoption := by
    simp only [textOptions, Text.ofStrings, List.map_cons, List.map_nil, List.mem_cons,
      List.not_mem_nil, or_false] at hoption
    rcases hoption with rfl | rfl | rfl
    · exact ⟨_, congrArg some (Json.eq_str_display h.packageName)⟩
    · exact ⟨_, congrArg some (Json.eq_str_display h.lead)⟩
    · rcases ofJson?_isSome_iff.1 h.onConflict with hfirst | herror
      · exact ⟨_, congrArg some hfirst⟩
      · exact ⟨_, congrArg some herror⟩
  strategy := (ofJson?_isSome_iff.1 h.onConflict).imp (congrArg some) (congrArg some)

theorem complete_toMembers (s : Settings) : Complete s.toMembers := ⟨options_nodup, fun _ h => h⟩

/-- **Checking settings once more changes nothing.** -/
theorem check?_toMembers (h : s.Checked) : check? s.toMembers = .ok s :=
  (check?_eq_ok_iff (complete_toMembers s)).2
    ⟨h.admissible, fun _ hm => Json.lookup_of_mem options_nodup hm⟩

theorem complete_merged (file overrides : List (Text × Json)) :
    Complete (merged file overrides) := by
  refine ⟨Json.nodup_keys_update (Json.nodup_keys_update options_nodup), fun option hoption => ?_⟩
  exact Json.mem_keys_update.2 (.inl (Json.mem_keys_update.2 (.inl hoption)))

/-! ### Loading -/

/-- A result is made of the members of an object: it is settings with their values if these are
admissible, and a fault of the values if not. -/
def MadeOf (result : Except SettingsFailure Settings) (members : List (Text × Json)) : Prop :=
  (Admissible members → ∃ s, result = .ok s ∧ s.TakenFrom members) ∧
    (¬ Admissible members → ∃ fault, result = .error (.values fault))

/-- A result is made of the members of an object as far as these can be shown: where they are not
admissible, the value at fault may be one that cannot be shown, and then it is one of the overrides.
-/
def MadeAsFarAsShown (result : Except SettingsFailure Settings)
    (members overrides : List (Text × Json)) : Prop :=
  (Admissible members → ∃ s, result = .ok s ∧ s.TakenFrom members) ∧
    (¬ Admissible members → (∃ fault, result = .error (.values fault)) ∨
      ∃ cause, result = .error (.unshowable cause) ∧ ∃ m ∈ overrides, m.2.obstacle? = some cause)

theorem madeAsFarAsShown_merge? (hfile : ∀ m ∈ file, m.2.obstacle? = none) :
    MadeAsFarAsShown ((merge? file overrides).mapError .ofFault) (merged file overrides)
      overrides := by
  have hcheck {s} := check?_eq_ok_iff (s := s) (complete_merged file overrides)
  refine ⟨fun hadmissible => ?_, fun hnot => ?_⟩
  · have htaken := (takenFrom_iff (complete_merged file overrides)).2 rfl
    exact ⟨_, mapError_eq_ok_iff.2 (hcheck.2 ⟨hadmissible, htaken⟩), htaken⟩
  · cases hmerge : merge? file overrides with
    | ok s => exact absurd (hcheck.1 hmerge).1 hnot
    | error fault =>
      rw [Except.mapError, SettingsFailure.ofFault]
      cases hcause : fault.obstacle? with
      | none => exact .inl ⟨fault, rfl⟩
      | some cause => exact .inr ⟨cause, rfl, exists_mem_of_merge? hfile hmerge hcause⟩

/-- Overrides that can be shown lead to faults that can be told. -/
theorem MadeAsFarAsShown.madeOf {result : Except SettingsFailure Settings}
    (h : MadeAsFarAsShown result members overrides)
    (hoverrides : ∀ m ∈ overrides, m.2.obstacle? = none) : MadeOf result members := by
  refine ⟨h.1, fun hnot => (h.2 hnot).resolve_right ?_⟩
  rintro ⟨cause, -, m, hm, hcause⟩
  rw [hoverrides m hm] at hcause
  cases hcause

end Settings

/-! ### The command line -/

namespace Cli

/-- The value of an option that is given. -/
def OptionValue.given? : OptionValue → Option Json
  | .absent => none
  | value => some value.toJson

namespace Arguments

open Json (entry)

/-- What the command line gives for each setting, if it gives anything. -/
def given? (a : Arguments) : List (Text × Option Json) :=
  [("output_file", a.output.text?.map .str), ("package_name", a.package.given?),
    ("prefix", a.lead.given?), ("exported", if a.exported then some (.bool true) else none),
    ("conflict_strategy", a.onConflict.text?.map .str),
    ("add_comments", if a.noComments then some (.bool false) else none),
    ("format_output", if a.noFormat then some (.bool false) else none)]

theorem lookup_reverse_given (key : String) (value : OptionValue) (k : Text) :
    Json.lookup (given key value).reverse k = if key = k then value.given? else none := by
  cases value <;> simp [given, OptionValue.given?, Json.lookup, entry]

theorem lookup_reverse_filled (key : String) (value : OptionValue) (k : Text) :
    Json.lookup (filled key value).reverse k = if key = k then value.text?.map .str else none := by
  rw [filled]
  cases value.text? <;> simp [Json.lookup, entry]

theorem lookup_reverse_flag (b : Bool) (key : String) (value : Json) (k : Text) :
    Json.lookup (if b then [entry key value] else []).reverse k =
      if key = k then if b then some value else none else none := by
  cases b <;> simp [Json.lookup, entry]

/-- The overrides hold what the command line gives, and nothing else. -/
theorem lookup_overrides (a : Arguments) :
    ∀ o ∈ a.given?, Json.lookup a.overrides.reverse o.1 = o.2 := by
  intro o ho
  simp only [overrides, List.reverse_append, Json.lookup_append, lookup_reverse_given,
    lookup_reverse_filled, lookup_reverse_flag]
  simp only [given?, List.mem_cons, List.not_mem_nil, or_false] at ho
  rcases ho with rfl | rfl | rfl | rfl | rfl | rfl | rfl <;> simp

end Arguments

/-- **What the command line gives wins over the file**, and what it does not give changes nothing.
-/
theorem lookup_merged_overrides (a : Arguments) (file : List (Text × Json)) :
    ∀ o ∈ a.given?, Json.lookup (Settings.merged file a.overrides) o.1 =
      o.2.or (Json.lookup (Settings.merged file []) o.1) := by
  intro o ho
  rw [Settings.merged, Json.lookup_update, a.lookup_overrides o ho]
  rfl

end Cli

/-! ### Files with settings -/

namespace Settings

variable {files : FileTree} {path : Path} {bytes : ByteArray} {doc : Text}
variable {file : List (Text × Json)}
variable {overrides : List (Text × Json)}

theorem load_of_read (hname : path.namesJson = true) (hholds : files.Holds path (.obj file)) :
    load files (some path) overrides = (merge? file overrides).mapError .ofFault := by
  have hread : readFile? files path = .ok file := readFile?_eq_ok_iff.2 ⟨hname, hholds⟩
  rw [load]
  simp only [hread]
  rfl

/-- A document with a number or a depth beyond the limits ends the loading, whatever is overridden.
-/
theorem load_of_excessive {cause : Json.ReadError} (hname : path.namesJson = true)
    (hbytes : files.bytes? path = .ok bytes) (htext : FileTree.readText? bytes = .ok doc)
    (hread : Json.read doc = .error cause)
    (hcause : ∀ fault offset, cause ≠ .invalid fault offset) :
    load files (some path) overrides = .error (.excessive cause) := by
  have hfile : readFile? files path = .error (.excessive cause) := by
    rw [readFile?, FileTree.contains?_of_bytes? hbytes, hbytes]
    simp only [hname, htext, hread]
    cases cause with
    | invalid fault offset => exact absurd rfl (hcause fault offset)
    | _ => rfl
  rw [load]
  simp only [hfile]
  rfl

open Cli in
/-- **What a file and overrides give.**  If the file holds an object, settings are loaded exactly if
the defaults, updated by the object and then by the overrides, are admissible; they have the values
of these, and otherwise the values are at fault, unless an override is that cannot be shown.  So it
is with the command line, where an option wins over the file if it is given, and changes nothing if
not, and a fault is always told.  A file with a number or a depth beyond the limits ends the loading
with a failure of its own, whatever is overridden. -/
theorem load_of_file (hname : path.namesJson = true) (hbytes : files.bytes? path = .ok bytes)
    (htext : FileTree.readText? bytes = .ok doc) :
    (∀ file, Json.read doc = .ok (.obj file) →
      (∀ overrides, MadeAsFarAsShown (load files (some path) overrides) (merged file overrides)
        overrides) ∧
      (∀ overrides, (∀ m ∈ overrides, m.2.obstacle? = none) →
        MadeOf (load files (some path) overrides) (merged file overrides)) ∧
      ∀ a : Arguments, a.settingsFile? = some path →
        (∃ result, readSettings a files = result.mapError .settings ∧
          MadeOf result (merged file a.overrides)) ∧
        ∀ o ∈ a.given?, Json.lookup (merged file a.overrides) o.1 =
          o.2.or (Json.lookup (merged file []) o.1)) ∧
    ∀ cause overrides, Json.read doc = .error cause →
      (∀ fault offset, cause ≠ .invalid fault offset) →
      load files (some path) overrides = .error (.excessive cause) := by
  refine ⟨fun file hread => ?_, fun cause overrides hread hcause =>
    load_of_excessive hname hbytes htext hread hcause⟩
  have hshown : ∀ m ∈ file, m.2.obstacle? = none := fun m hm =>
    Json.obstacle?_of_mem (Json.obstacle?_of_read hread) hm
  have hmade : ∀ overrides, MadeAsFarAsShown (load files (some path) overrides)
      (merged file overrides) overrides := by
    intro overrides
    rw [load_of_read hname ⟨bytes, doc, hbytes, htext, hread⟩]
    exact madeAsFarAsShown_merge? hshown
  refine ⟨hmade, fun overrides => (hmade overrides).madeOf, fun a ha => ⟨⟨_, rfl, ?_⟩,
    lookup_merged_overrides a file⟩⟩
  rw [ha]
  exact (hmade a.overrides).madeOf (obstacle?_overrides a)

/-- The members of a file with a text where a truth value is due. -/
def illTyped : List (Text × Json) := [("exported", .str "yes"), ("prefix", .str "P")]

/-- A file that holds them. -/
def illTypedFile : FileTree :=
  { entries := [([("c.json" : Text)], .file (Json.obj illTyped).pretty.toBytes)] }

/-- The wrong value in the file is overridden, and the other one counts. -/
theorem load_of_file_overridden :
    (Path.ofText "c.json").namesJson = true ∧
    illTypedFile.bytes? (Path.ofText "c.json") = .ok (Json.obj illTyped).pretty.toBytes ∧
    FileTree.readText? (Json.obj illTyped).pretty.toBytes = .ok (Json.obj illTyped).pretty ∧
    Json.read (Json.obj illTyped).pretty = .ok (.obj illTyped) ∧
    ∃ s, load illTypedFile (some (Path.ofText "c.json")) [("exported", .bool true)] = .ok s ∧
      s.TakenFrom ({ lead := .str "P", exported := .bool true } : Settings).toMembers := by
  have hflat : ∀ m ∈ illTyped, m.2.isFlat = true := by decide
  have hname : (Path.ofText "c.json").namesJson = true := by decide +kernel
  have hbytes : illTypedFile.bytes? (Path.ofText "c.json") =
      .ok (Json.obj illTyped).pretty.toBytes :=
    FileTree.bytes?_eq_ok_iff.2 ⟨[("c.json" : Text)], rfl, rfl⟩
  have htext : FileTree.readText? (Json.obj illTyped).pretty.toBytes =
      .ok (Json.obj illTyped).pretty := by
    rw [FileTree.readText?_toBytes, FileTree.unifyLineBreaks_eq_self (Json.not_mem_pretty hflat)]
  have hread : Json.read (Json.obj illTyped).pretty = .ok (.obj illTyped) :=
    Json.read_pretty (List.cons_ne_nil _ _) hflat (by decide)
  have hmerged : merged illTyped [("exported", .bool true)] =
      ({ lead := .str "P", exported := .bool true } : Settings).toMembers := rfl
  have hchecked : ({ lead := .str "P", exported := .bool true } : Settings).Checked :=
    ⟨rfl, rfl, rfl, rfl, rfl, .first, rfl⟩
  have hmade := ((load_of_file hname hbytes htext).1 _ hread).1 [("exported", .bool true)]
  rw [hmerged] at hmade
  exact ⟨hname, hbytes, htext, hread, hmade.1 hchecked.admissible⟩

/-! ### A number beyond the limit -/

/-- An object with a power of ten as the prefix of type names. -/
def powerMembers (n : Nat) : List (Text × Json) := [("prefix", .int (Int.ofNat (10 ^ n)))]

theorem compact_powerMembers (n : Nat) : (Json.obj (powerMembers n)).compact =
    '\x7b' :: ("\"prefix\":" ++ (Text.ofNat (10 ^ n) ++ ['\x7d'])) := by
  have hinner : Json.compactMembers (powerMembers n) = "\"prefix\":" ++ Text.ofNat (10 ^ n) := by
    rw [powerMembers, Json.compactMembers, Json.compact]
    rfl
  rw [Json.compact, hinner, List.append_assoc]

/-- An object with too long a number is not read. -/
theorem read_powerMembers {n : Nat} (hn : Json.maxDigits ≤ n) :
    Json.read (Json.obj (powerMembers n)).compact = .error (.tooManyDigits (n + 1)) := by
  obtain ⟨text, htext⟩ : ∃ text, text = Text.ofNat (10 ^ n) ++ ['\x7d'] := ⟨_, rfl⟩
  have hdoc : (Json.obj (powerMembers n)).compact = '\x7b' :: ("\"prefix\":" ++ text) :=
    htext ▸ compact_powerMembers n
  obtain ⟨fuel, hfuel⟩ : ∃ fuel,
      2 * ((Json.obj (powerMembers n)).compact).length + 2 = fuel + 20 := by
    refine Nat.exists_eq_add_of_le' ?_
    have hlength : ("\"prefix\":" : Text).length = 9 := rfl
    rw [hdoc, List.length_cons, List.length_append, hlength]
    omega
  obtain ⟨more, hmore⟩ : ∃ more, text = '1' :: more :=
    ⟨_, by rw [htext, Text.ofNat_ten_pow]; rfl⟩
  have hvalue : Json.readValue (fuel + 18) 984 10 text = .error (.tooManyDigits (n + 1)) := by
    have hplain : Json.readPlain 10 ('1' :: more) = Json.readNumber 10 ('1' :: more) := rfl
    rw [hmore, Json.readValue_plain (by decide) (by decide) (by decide), hplain, ← hmore, htext]
    exact Json.readNumber_ten_pow hn rfl (by decide) (by decide) (by decide) []
  have hkey : Json.readString 1 (fuel + 18) 2 ("prefix\":" ++ text) =
      .ok ("prefix", 9, ':' :: text) := rfl
  have hskip : Json.skipSpace 10 text = (10, text) := by
    rw [hmore]
    rfl
  have hcolon : Json.skipSpace 9 (':' :: text) = (9, ':' :: text) := rfl
  have hmembers : Json.readMembers (fuel + 19) 984 [] 1 ("\"prefix\":" ++ text) =
      .error (.tooManyDigits (n + 1)) := by
    have hquote : ("\"prefix\":" : Text) ++ text = '"' :: ("prefix\":" ++ text) := rfl
    rw [hquote, Json.readMembers_eq, hkey]
    simp only [bind, Except.bind, hcolon, Json.afterKey, hskip, hvalue]
  have hobject : Json.readValue (fuel + 20) Json.maxDepth 0 ('\x7b' :: ("\"prefix\":" ++ text)) =
      .error (.tooManyDigits (n + 1)) := by
    have hopen : Json.skipSpace (0 + 1) ("\"prefix\":" ++ text) =
        (1, "\"prefix\":" ++ text) := rfl
    have hquote (rest : Text) : ("\"prefix\":" : Text) ++ text ≠ '\x7d' :: rest :=
      fun h => absurd (List.cons.inj h).1 (by decide)
    rw [Json.maxDepth, Json.readValue_object hopen hquote, hmembers]
    rfl
  have hspace : Json.skipSpace 0 ('\x7b' :: ("\"prefix\":" ++ text)) =
      (0, '\x7b' :: ("\"prefix\":" ++ text)) := rfl
  have hmark (rest : Text) :
      (Json.obj (powerMembers n)).compact ≠ Char.ofNat 0xfeff :: rest := by
    rw [hdoc]
    exact fun h => absurd (List.cons.inj h).1 (by decide)
  rw [Json.read_eq hmark, hfuel, hdoc, hspace, hobject]
  rfl

/-- A file that holds an object with too long a number. -/
def powerFile : FileTree :=
  { entries := [([("c.json" : Text)],
      .file (Json.obj (powerMembers Json.maxDigits)).compact.toBytes)] }

/-- **An object in a file can make its loading fail even if its values are overridden.**  A number
of more digits than are converted is not read, and that is no fault of the values. -/
theorem not_madeOf :
    ¬ ∀ (files : FileTree) (path : Path) (file overrides : List (Text × Json)),
      path.namesJson = true → files.bytes? path = .ok (Json.obj file).compact.toBytes →
      MadeOf (load files (some path) overrides) (merged file overrides) := by
  intro h
  have hname : (Path.ofText "c.json").namesJson = true := by decide +kernel
  have hbytes : powerFile.bytes? (Path.ofText "c.json") =
      .ok (Json.obj (powerMembers Json.maxDigits)).compact.toBytes :=
    FileTree.bytes?_eq_ok_iff.2 ⟨[("c.json" : Text)], rfl, rfl⟩
  have hreturn : '\r' ∉ (Json.obj (powerMembers Json.maxDigits)).compact := by
    rw [compact_powerMembers, Text.ofNat_ten_pow]
    simp
  have htext : FileTree.readText? (Json.obj (powerMembers Json.maxDigits)).compact.toBytes =
      .ok (Json.obj (powerMembers Json.maxDigits)).compact := by
    rw [FileTree.readText?_toBytes, FileTree.unifyLineBreaks_eq_self hreturn]
  -- the number is overridden, so the members are admissible
  have hmerged : merged (powerMembers Json.maxDigits) [("prefix", .str "x")] =
      ({ lead := .str "x" } : Settings).toMembers := rfl
  have hchecked : ({ lead := .str "x" } : Settings).Checked := ⟨rfl, rfl, rfl, rfl, rfl, .first, rfl⟩
  obtain ⟨s, hload, -⟩ := (h _ _ _ [("prefix", .str "x")] hname hbytes).1
    (hmerged ▸ hchecked.admissible)
  rw [load_of_excessive hname hbytes htext (read_powerMembers (Nat.le_refl _)) nofun] at hload
  cases hload

end Settings

end SchemaStructs
