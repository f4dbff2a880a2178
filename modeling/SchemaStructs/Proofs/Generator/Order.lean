import SchemaStructs.Proofs.Generator.Contained
import SchemaStructs.Proofs.Schema.Search

/-!
# The order of warnings

A validation checks every element that a walk could declare, once and in the order of the recursive
depth-first search, and each against the Go names of all of them.  Its warnings are those about the
elements one after another (`Generator.Found`), behind the warning that there are no roots.

* `Generator.validate_eq_ok_iff`: when a validation has which warnings;
* `Generator.noRoots_mem_iff`: there is the warning that there are no roots if and only if there are
  none;
* `Generator.exists_validate_eq_ok`: a validation passes if names and types are texts;
* `Generator.validate_order`: all this together with the order in which elements are checked.
-/

namespace SchemaStructs

namespace Generator

open Validation

variable {gen : Generator} {g : Graph} {roots elements : List ElementId} {i : ElementId}
variable {declared : List Text} {struct : Text} {ws : List Warning}

/-- The warnings `own` are those about the elements, list by list, given the Go names of all of
them. -/
def Found (gen : Generator) (g : Graph) (elements : List ElementId) (own : List (List Warning)) :
    Prop :=
  ∃ declared, List.Forall₂ (fun i t => gen.typeName? (g.rawName i) = .ok t) elements declared ∧
    List.Forall₂ (fun i ws => gen.elementWarnings? g declared i = .ok ws) elements own

/-- **A validation that passes has the warnings of the elements it checks**, in their order. -/
theorem validate_eq_ok_iff :
    gen.validate g roots = .ok ws ↔ (∀ i ∈ checked g roots, (g.get i).isFit = true) ∧
      ∃ own, gen.Found g (checked g roots) own ∧
        ws = (if roots = [] then [.noRoots] else []) ++ own.flatten := by
  have hfit : ((checked g roots).map g.get).find? (!·.isFit) = none ↔
      ∀ i ∈ checked g roots, (g.get i).isFit = true := by
    simp [List.find?_eq_none]
  rw [← hfit]
  dsimp only [validate]
  split
  · -- an element that cannot be looked up
    rename_i e he
    simp [he, bind, Except.bind]
  · rename_i hnone
    have hnone : ((checked g roots).map g.get).find? (!·.isFit) = none :=
      Option.eq_none_iff_forall_not_mem.2 hnone
    simp only [bind_eq_ok_iff, mapM_eq_ok_iff, pure_eq_ok_iff, List.isEmpty_iff, Found,
      hnone, true_and]
    constructor
    · rintro ⟨declared, hdeclared, own, hown, rfl⟩
      exact ⟨own, ⟨declared, hdeclared, hown⟩, rfl⟩
    · rintro ⟨own, ⟨declared, hdeclared, hown⟩, rfl⟩
      exact ⟨declared, hdeclared, own, hown, rfl⟩

/-! ### No roots -/

theorem noRoots_not_mem_flatten {α : Type} {f : α → Except GenerationFailure (List Warning)}
    {l : List α} {own : List (List Warning)} (h : List.Forall₂ (fun a ws => f a = .ok ws) l own)
    (hf : ∀ a ws, f a = .ok ws → .noRoots ∉ ws) : .noRoots ∉ own.flatten := by
  intro hmem
  obtain ⟨ws, hws, hmem⟩ := List.mem_flatten.1 hmem
  obtain ⟨a, -, ha⟩ := exists_of_forall₂ h.flip hws
  exact hf a ws ha hmem

theorem noRoots_not_mem_fieldWarnings (struct : Text) (seen : List (Text × Text))
    (members : List Text) : .noRoots ∉ fieldWarnings struct seen members := by
  induction members generalizing seen with
  | nil => simp [fieldWarnings]
  | cons member rest ih =>
    rw [fieldWarnings, List.mem_append, not_or]
    constructor
    · split <;> simp
    · split
      · simp [ih]
      · exact ih _

theorem noRoots_not_mem_danglingWarning? {child : Element}
    (h : gen.danglingWarning? declared struct child = .ok ws) : .noRoots ∉ ws := by
  unfold danglingWarning? at h
  split at h
  · cases h
    simp
  obtain ⟨referenced, -, h⟩ := bind_eq_ok_iff.1 h
  split at h
  · cases pure_eq_ok_iff.1 h
    simp
  · obtain ⟨own, -, h⟩ := bind_eq_ok_iff.1 h
    cases pure_eq_ok_iff.1 h
    simp

theorem noRoots_not_mem_elementWarnings? (h : gen.elementWarnings? g declared i = .ok ws) :
    .noRoots ∉ ws := by
  obtain ⟨struct, -, h⟩ := bind_eq_ok_iff.1 h
  obtain ⟨members, -, h⟩ := bind_eq_ok_iff.1 h
  obtain ⟨dangling, hdangling, h⟩ := bind_eq_ok_iff.1 h
  obtain rfl := pure_eq_ok_iff.1 h
  have hname : .noRoots ∉ typeNameWarnings struct (g.name i) := by
    unfold typeNameWarnings
    split <;> split <;> simp_all
  have hbelow : .noRoots ∉ dangling.flatten :=
    noRoots_not_mem_flatten (mapM_eq_ok_iff.1 hdangling) fun _ _ =>
      noRoots_not_mem_danglingWarning?
  simp [hname, noRoots_not_mem_fieldWarnings, hbelow]

/-- **There is a warning that there are no roots if there are none**, and only then. -/
theorem noRoots_mem_iff (h : gen.validate g roots = .ok ws) : .noRoots ∈ ws ↔ roots = [] := by
  obtain ⟨-, own, ⟨declared, -, hown⟩, rfl⟩ := validate_eq_ok_iff.1 h
  have helements : .noRoots ∉ own.flatten :=
    noRoots_not_mem_flatten hown fun _ _ => noRoots_not_mem_elementWarnings?
  rw [List.mem_append, or_iff_left helements]
  by_cases hroots : roots = [] <;> simp [hroots]

/-! ### The whole validation -/

/-- **A validation passes if names and types are texts**, whatever the templates are. -/
theorem exists_validate_eq_ok (hlead : gen.settings.lead.isText = true)
    (hnamed : ∀ i, g.Occurs roots i → (g.get i).Named) (hattributes : g.AttributesNamed roots) :
    ∃ ws, gen.validate g roots = .ok ws := by
  -- no template is looked at, so the library can be taken to be the usual one
  let standard : Generator := { gen with library := libraryFor gen.settings }
  have hstandard : standard.Standard := ⟨rfl, hlead⟩
  have hsame : standard.validate g roots = gen.validate g roots := rfl
  cases hvalidate : gen.validate g roots with
  | ok ws => exact ⟨ws, rfl⟩
  | error failure =>
    obtain ⟨i, hi, a, ha, hname, -⟩ :=
      exists_of_validate_eq_error hstandard hnamed (hsame.trans hvalidate)
    rw [hattributes i hi a ha] at hname
    cases hname

/-- **A validation checks elements in the order of the recursive search.**  On every graph the loop
comes to its end; it has visited each element that is reachable once, in the order in which the
recursive search visits it.  The warnings are the one that there are no roots, if there are none,
and then those about the elements in that order.  If names and types are texts, the validation
passes. -/
theorem validate_order (gen : Generator) (g : Graph) (roots : List ElementId) :
    g.DepthFirst (fun i => !g.isPrimitive i) roots (checked g roots) ∧
    (∀ i, i ∈ checked g roots ↔ g.Reachable roots i) ∧
    (∀ ws, gen.validate g roots = .ok ws ↔ (∀ i ∈ checked g roots, (g.get i).isFit = true) ∧
      ∃ own, gen.Found g (checked g roots) own ∧
        ws = (if roots = [] then [.noRoots] else []) ++ own.flatten) ∧
    (∀ ws, gen.validate g roots = .ok ws → (.noRoots ∈ ws ↔ roots = [])) ∧
    (gen.settings.lead.isText = true → (∀ i, g.Occurs roots i → (g.get i).Named) →
      g.AttributesNamed roots → ∃ ws, gen.validate g roots = .ok ws) :=
  ⟨Graph.depthFirst_preorder g _ roots, fun _ => mem_checked_iff, fun _ => validate_eq_ok_iff,
    fun _ => noRoots_mem_iff, exists_validate_eq_ok⟩

section Folders

open Walk (plainGenerator withAttribute)

/-- A folder that holds itself, a file and a note, twice the file; the file leads back to the
folder. -/
def folders : Graph :=
  ⟨#[{ name := .str "folder", type := .str "folder", children := [0, 1, 3, 2, 1] },
    { name := .str "file", type := .str "file", children := [2, 0] },
    withAttribute "owner" "id",
    { name := .str "note", type := .str "string" }]⟩

theorem occurs_folders (h : folders.Occurs [1, 0, 1] i) : i < 4 := by
  have hchildren : ∀ i < 4, ∀ c ∈ folders.children i, c < 4 := by decide
  exact h.of_closed (P := (· < 4)) (by decide) hchildren

/-- What the recursive search does there: everything below the folder but the note was visited. -/
theorem searches_folders :
    folders.Searches (fun i => !folders.isPrimitive i) [] [1, 0, 1] [1, 2, 0] := by
  refine .visit (by decide) rfl ?file (.pass (by decide) (.pass (by decide) .nil))
  refine .visit (by decide) rfl .nil (.visit (by decide) rfl ?folder .nil)
  exact .pass (by decide) (.pass (by decide) (.pass (by decide) (.pass (by decide)
    (.pass (by decide) .nil))))

/-- The file comes first, then the owner, and the folder last. -/
theorem validate_order_folders :
    (∀ i, folders.Occurs [1, 0, 1] i → (folders.get i).Named) ∧
    folders.AttributesNamed [1, 0, 1] ∧
    checked folders [1, 0, 1] = [1, 2, 0] ∧
    ∃ ws, (plainGenerator .first).validate folders [1, 0, 1] = .ok ws ∧ .noRoots ∉ ws := by
  have hall : ∀ i < 4, (folders.get i).Textual := by decide
  have hnamed : ∀ i, folders.Occurs [1, 0, 1] i → (folders.get i).Named := fun i hi =>
    (hall i (occurs_folders hi)).named
  have hattributes : folders.AttributesNamed [1, 0, 1] := fun i hi a ha =>
    ((hall i (occurs_folders hi.occurs)).attributes a ha).1
  obtain ⟨hvisited, -, -, hroots, hpasses⟩ :=
    validate_order (plainGenerator .first) folders [1, 0, 1]
  have hchecked : checked folders [1, 0, 1] = [1, 2, 0] :=
    ((hvisited.search [1, 2, 0]).1 searches_folders).symm
  obtain ⟨ws, hws⟩ := hpasses rfl hnamed hattributes
  exact ⟨hnamed, hattributes, hchecked, ws, hws, by simp [hroots ws hws]⟩

end Folders

end Generator

end SchemaStructs
