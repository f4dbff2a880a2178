import SchemaStructs.Cli.Arguments
import SchemaStructs.Proofs.Computation

/-!
# Values that options can have

An option with choices has one of them as its value, or two hyphens were given for it.  For the
threshold of the log this is `Cli.thresholded_of_request`.  The reading of the arguments keeps it at
every step, for all options that it meets are options of the program (`Cli.known_of_marks`).
-/

namespace SchemaStructs

namespace Cli

variable {r r' : Reading} {a : Arguments} {spec : OptionSpec} {t argument : Text} {argv : List Text}
variable {marked : List (Text × Mark)} {mark : Mark} {source : Source} {value : Option Text}
variable {dashes : Dashes}

/-! ### Options -/

theorem mem_options_of_mem_optionNames {name : Text} (h : (name, spec) ∈ optionNames) :
    spec ∈ options := by
  obtain ⟨spec', hmem, hname⟩ := List.mem_flatMap.1 h
  obtain ⟨_, -, heq⟩ := List.mem_map.1 hname
  rwa [← (Prod.mk.inj heq).2]

theorem mem_options_of_named? (h : named? t = some spec) : spec ∈ options := by
  obtain ⟨⟨name, spec'⟩, hfind, rfl⟩ := Option.map_eq_some_iff.1 h
  exact mem_options_of_mem_optionNames (List.mem_of_find?_eq_some hfind)

theorem mem_options_of_candidates {name : Text} (h : (name, spec, value) ∈ candidates argument) :
    spec ∈ options := by
  have hmem : ∀ {p : Text × OptionSpec → Bool} {f : Text × OptionSpec → Option Text},
      (name, spec, value) ∈ (optionNames.filter p).map (fun o => (o.1, o.2, f o)) →
        spec ∈ options := by
    intro p f h
    obtain ⟨⟨name', spec'⟩, hfilter, heq⟩ := List.mem_map.1 h
    obtain ⟨-, hspec⟩ := Prod.mk.inj heq
    obtain ⟨rfl, -⟩ := Prod.mk.inj hspec
    exact mem_options_of_mem_optionNames (List.mem_filter.1 hfilter).1
  unfold candidates at h
  split at h
  · exact hmem h
  · exact hmem h

theorem mem_options_of_markOf (h : markOf argument = .ok (.option spec value)) :
    spec ∈ options := by
  unfold markOf at h
  split at h
  · split at h
    · cases h
      exact mem_options_of_named? ‹_›
    · dsimp only at h
      split at h
      · rename_i hnamed
        cases h
        obtain ⟨_, -, hnamed⟩ := Option.bind_eq_some_iff.1 hnamed
        exact mem_options_of_named? hnamed
      · split at h
        · rename_i hcandidates
          cases h
          exact mem_options_of_candidates (hcandidates ▸ List.mem_singleton_self _)
        · cases h
        · split at h <;> cases h
  · cases h

/-- All options among the marked arguments are options of the program. -/
def Known (marked : List (Text × Mark)) : Prop :=
  ∀ m ∈ marked, ∀ spec value, m.2 = .option spec value → spec ∈ options

theorem Known.tail {m : Text × Mark} (h : Known (m :: marked)) : Known marked :=
  fun m' hm' => h m' (List.mem_cons_of_mem m hm')

theorem Known.head (h : Known ((argument, .option spec value) :: marked)) : spec ∈ options :=
  h _ List.mem_cons_self spec value rfl

/-- **The arguments mean options of the program only.** -/
theorem known_of_marks (h : marks argv = .ok marked) : Known marked := by
  induction argv generalizing marked with
  | nil =>
    cases h
    exact nofun
  | cons argument rest ih =>
    rw [marks] at h
    split at h
    · cases h
      intro m hm spec value hmark
      rcases List.mem_cons.1 hm with rfl | hm
      · cases hmark
      · obtain ⟨_, -, rfl⟩ := List.mem_map.1 hm
        cases hmark
    · obtain ⟨mark, hmark, h⟩ := bind_eq_ok_iff.1 h
      obtain ⟨others, hothers, h⟩ := bind_eq_ok_iff.1 h
      cases h
      intro m hm spec value hoption
      rcases List.mem_cons.1 hm with rfl | hm
      · exact mem_options_of_markOf (hmark.trans (congrArg _ hoption))
      · exact ih hothers m hm spec value hoption

/-! ### The threshold of the log -/

/-- The names of thresholds that the program takes. -/
def thresholds : List Text := Text.ofStrings ["DEBUG", "INFO", "WARNING", "ERROR"]

/-- The threshold of the log is one of those that the program takes, or two hyphens were given for
it. -/
def Arguments.Thresholded (a : Arguments) : Prop :=
  a.logLevel = .noItems ∨ ∃ t ∈ thresholds, a.logLevel = .text t

theorem choices_of_logLevel :
    ∀ spec ∈ options, spec.key = .logLevel → spec.choices = thresholds := by
  decide

/-- A text is a value by itself, unless it is two hyphens that are dropped. -/
theorem OptionValue.ofText_cases (dashes : Dashes) (t : Text) :
    ofText dashes t = .noItems ∨ ofText dashes t = .text t := by
  unfold ofText
  split
  · exact .inl rfl
  · exact .inr rfl

theorem arguments_source (h : r.source source = .ok r') : r'.arguments = r.arguments := by
  unfold Reading.source at h
  split at h
  · cases h
  · cases h
    rfl

theorem Arguments.Thresholded.congr {a' : Arguments} (h : a.Thresholded)
    (heq : a'.logLevel = a.logLevel) : a'.Thresholded := by
  rwa [Thresholded, heq]

theorem thresholded_takeFile (h : r.takeFile t = .ok r') (hr : r.arguments.Thresholded) :
    r'.arguments.Thresholded := by
  obtain ⟨r₁, hsource, h⟩ := bind_eq_ok_iff.1 h
  cases h
  rw [← arguments_source hsource] at hr
  exact hr.congr rfl

theorem thresholded_takeFlag (h : r.takeFlag spec = .ok r') (hr : r.arguments.Thresholded) :
    r'.arguments.Thresholded := by
  unfold Reading.takeFlag at h
  dsimp only at h
  split at h
  case h_1 | h_2 => cases h
  case h_3 =>
    obtain ⟨r₁, -, h⟩ := bind_eq_ok_iff.1 h
    cases h
    exact hr
  all_goals
    cases h
    exact hr

theorem thresholded_takeValue (hspec : spec ∈ options) (h : r.takeValue spec t = .ok r')
    (hr : r.arguments.Thresholded) : r'.arguments.Thresholded := by
  unfold Reading.takeValue at h
  dsimp only at h
  split at h
  · cases h
  · rename_i hadmits
    split at h
    case h_1 hkey =>
      cases h
      have hadmits : spec.admits (.ofText r.dashes t) = true := by simpa using hadmits
      have hchoices := choices_of_logLevel spec hspec hkey
      rcases OptionValue.ofText_cases r.dashes t with hvalue | hvalue
      · exact .inl hvalue
      · rw [hvalue, OptionSpec.admits, hchoices] at hadmits
        have hmem : thresholds.contains t = true := hadmits
        exact .inr ⟨t, List.contains_iff_mem.1 hmem, hvalue⟩
    case h_3 =>
      obtain ⟨r₁, -, h⟩ := bind_eq_ok_iff.1 h
      cases h
      exact hr
    all_goals
      cases h
      exact hr

/-- **Reading arguments keeps the threshold among those that the program takes.** -/
theorem thresholded_readMarked (h : readMarked r marked = .ok r') (hmarked : Known marked)
    (hr : r.arguments.Thresholded) : r'.arguments.Thresholded := by
  fun_induction readMarked r marked
  case case1 =>
    cases h
    exact hr
  -- an option with its value
  case case3 ih =>
    obtain ⟨r₁, hvalue, h⟩ := bind_eq_ok_iff.1 h
    exact ih r₁ h hmarked.tail (thresholded_takeValue hmarked.head hvalue hr)
  case case5 ih =>
    obtain ⟨r₁, hvalue, h⟩ := bind_eq_ok_iff.1 h
    exact ih r₁ h hmarked.tail.tail (thresholded_takeValue hmarked.head hvalue hr)
  case case6 => cases h
  -- an option without a value
  case case4 ih =>
    obtain ⟨_, -, h⟩ := bind_eq_ok_iff.1 h
    obtain ⟨r₁, hflag, h⟩ := bind_eq_ok_iff.1 h
    exact ih r₁ h hmarked.tail (thresholded_takeFlag hflag hr)
  case case7 ih =>
    obtain ⟨r₁, hflag, h⟩ := bind_eq_ok_iff.1 h
    exact ih r₁ h hmarked.tail (thresholded_takeFlag hflag hr)
  -- the name of the file
  case case9 ih | case13 ih =>
    obtain ⟨r₁, hfile, h⟩ := bind_eq_ok_iff.1 h
    exact ih r₁ h hmarked.tail.tail (thresholded_takeFile hfile hr)
  case case11 ih =>
    obtain ⟨r₁, hfile, h⟩ := bind_eq_ok_iff.1 h
    exact ih r₁ h hmarked.tail (thresholded_takeFile hfile hr)
  -- what means nothing
  case case8 ih | case12 ih => exact ih h hmarked.tail.tail hr
  case case2 ih | case10 ih | case14 ih | case15 ih => exact ih h hmarked.tail hr

/-- **The threshold of a run is one of those that the program takes**, unless two hyphens were given
for it. -/
theorem thresholded_of_request (h : Request.ofArguments dashes argv = .run a) :
    a.Thresholded := by
  unfold Request.ofArguments at h
  split at h
  · cases h
  · rename_i hmarks
    split at h
    case h_1 | h_2 | h_3 => cases h
    case h_4 hread =>
      have hthreshold := thresholded_readMarked hread (known_of_marks hmarks)
        (.inr ⟨"WARNING", by decide, rfl⟩)
      split at h
      · cases h
      · split at h <;> cases h
        exact hthreshold

end Cli

end SchemaStructs
