import SchemaStructs.Naming.Reserved
import SchemaStructs.Proofs.Naming.Capital
import SchemaStructs.Settings.File

/-!
# Exported names

A type that is exported is named as a field is: the name with its prefix is put in title case and
normalized (`Naming.typeName_of_exported`).  So the name of such a type does not start with a small
letter, as that of a field, and it is no keyword and no predeclared identifier, which all do
(`Naming.names_exported`).

A prefix that is not warned of starts with a letter and has letters, digits and separators only.
Whatever letters, digits and separators follow, the name of the type is a word that starts with a
letter (`Naming.typeName_of_warnings`): normalizing keeps the skeleton, and with it the first letter
up to case (`Naming.IsGoWord.exists_isAlpha`).
-/

namespace SchemaStructs

namespace Naming

variable {style : TypeStyle} {s t n : Text} {c : Char}

/-! ### Exported types -/

/-- An exported type is named as a field is. -/
theorem typeName_of_exported (h : isPrimitive n = false) (hexported : style.exported = true) :
    style.typeName n = normalizeTitle (style.led n) := by
  rw [typeName_eq h, if_pos hexported]
  rfl

theorem IsAscii.led (hlead : IsAscii style.lead) (hn : IsAscii n) : IsAscii (style.led n) := by
  rw [TypeStyle.led]
  split
  · exact hn
  · exact List.forall_mem_append.2 ⟨hlead, hn.title⟩

/-! ### Reserved names -/

/-- All keywords and predeclared identifiers start with a small letter. -/
theorem head?_reserved :
    ∀ w ∈ keywords ++ predeclared, w.head?.any Char.isLower = true := by
  decide +kernel

theorem Raised.not_mem_reserved (h : Raised t) : t ∉ keywords ++ predeclared := by
  intro hmem
  obtain ⟨c, hc, hlower⟩ := (Option.any_eq_true _ _).1 (head?_reserved t hmem)
  rw [h c hc] at hlower
  cases hlower

theorem Raised.isKeyword_eq (h : Raised t) : isKeyword t = false :=
  Bool.eq_false_iff.2 fun hmem =>
    h.not_mem_reserved (List.mem_append_left _ (List.contains_iff_mem.1 hmem))

theorem Raised.isPredeclared_eq (h : Raised t) : isPredeclared t = false :=
  Bool.eq_false_iff.2 fun hmem =>
    h.not_mem_reserved (List.mem_append_right _ (List.contains_iff_mem.1 hmem))

/-- **Names for export are exported.**  The field of an ASCII name is empty or does not start with a
small letter, and it starts with a capital if it is an identifier.  The name of an exported type,
unless Go provides the type, does not start with a small letter either, and it is not reserved. -/
theorem names_exported :
    (∀ s, IsAscii s → IsAscii (normalizeTitle s) ∧ Raised (normalizeTitle s) ∧
      (Text.isIdentifier (normalizeTitle s) = true →
        ∃ c rest, normalizeTitle s = c :: rest ∧ c.isUpper = true)) ∧
    ∀ style : TypeStyle, style.exported = true → IsAscii style.lead →
      ∀ n, IsAscii n → isPrimitive n = false →
        IsAscii (style.typeName n) ∧ Raised (style.typeName n) ∧
          isKeyword (style.typeName n) = false ∧ isPredeclared (style.typeName n) = false := by
  refine ⟨fun s hs => ⟨hs.normalizeTitle, raised_normalizeTitle hs,
    exists_isUpper_of_isIdentifier hs⟩, fun style hexported hlead n hn hprimitive => ?_⟩
  have hled : IsAscii (style.led n) := hlead.led hn
  rw [typeName_of_exported hprimitive hexported]
  have hraised := raised_normalizeTitle hled
  exact ⟨hled.normalizeTitle, hraised, hraised.isKeyword_eq, hraised.isPredeclared_eq⟩

/-- An underscore hides the first letter of a name from the title, but not from folding; and the
type of `type_` would be a keyword if it were not exported. -/
theorem names_exported_underscores :
    title "_first name" = "_first Name" ∧ normalizeTitle "_first name" = "FirstName" ∧
    IsAscii (normalizeTitle "_first name") ∧ Raised (normalizeTitle "_first name") ∧
    isPrimitive "type_" = false ∧
    isKeyword ((⟨[], false⟩ : TypeStyle).typeName "type_") = true ∧
    isKeyword ((⟨[], true⟩ : TypeStyle).typeName "type_") = false := by
  have h := names_exported
  have hfield := h.1 "_first name" (by decide)
  have htype := h.2 ⟨[], true⟩ rfl (by decide) "type_" (by decide) (by decide +kernel)
  exact ⟨by decide +kernel, by decide +kernel, hfield.1, hfield.2.1, by decide +kernel,
    by decide +kernel, htype.2.2.1⟩

/-! ### Prefixes that are not warned of -/

/-- A prefix that is not warned of is plain. -/
theorem isPlain_of_isPlainLead (h : Settings.isPlainLead t = true) : isPlain t = true := by
  cases t with
  | nil => cases h
  | cons c rest =>
    simp only [Settings.isPlainLead, isPlain, Bool.and_eq_true, List.all_eq_true, Bool.or_eq_true,
      beq_iff_eq] at h ⊢
    refine ⟨h.1, fun d hd => (or_assoc.1 (or_assoc.1 (h.2 d hd))).imp_right fun hsep => ?_⟩
    rcases hsep with rfl | rfl | rfl <;> rfl

theorem of_leadWarnings (h : Settings.leadWarnings t = []) : t = [] ∨ isPlain t = true := by
  unfold Settings.leadWarnings at h
  split at h
  · rename_i hplain
    exact (Bool.or_eq_true_iff.1 hplain).imp List.isEmpty_iff.1 isPlain_of_isPlainLead
  · cases h

/-- The warnings about the prefix are among those about the settings. -/
theorem leadWarnings_of_warnings? {settings : Settings} {ws : List SettingsWarning}
    (hlead : settings.lead = .str t) (hws : settings.warnings? = some ws)
    (hnone : ∀ value, SettingsWarning.lead value ∉ ws) : Settings.leadWarnings t = [] := by
  unfold Settings.warnings? at hws
  rw [hlead] at hws
  dsimp only at hws
  split at hws
  · rename_i hlead'
    obtain rfl := Option.some.inj hws
    obtain rfl := Option.some.inj hlead'
    unfold Settings.leadWarnings at hnone ⊢
    split
    · rfl
    · rename_i hplain
      exact absurd (by simp [hplain]) (hnone t)
  · cases hws

theorem Over.isAscii {seps : Text} (hseps : IsAscii seps) (h : Over seps t) : IsAscii t :=
  fun c hc => (h c hc).elim val_lt_of_isAlphanum (hseps c)

theorem isAlpha_toUpper (hc : c.val < 128) : c.toUpper.isAlpha = c.isAlpha := by
  have hascii : ∀ n < 128, (Char.ofNat n).toUpper.isAlpha = (Char.ofNat n).isAlpha := by
    decide +kernel
  exact Text.forall_ascii (P := fun c => c.toUpper.isAlpha = c.isAlpha) hascii hc

/-- The skeleton of a plain name starts with a letter. -/
theorem exists_isAlpha_skeleton (h : isPlain t = true) :
    ∃ x more, skeleton t = x :: more ∧ x.isAlpha = true := by
  cases t with
  | nil => cases h
  | cons c rest =>
    have hc : c.isAlpha = true := (Bool.and_eq_true_iff.1 h).1
    have halphanum := isAlphanum_of_isAlpha hc
    refine ⟨c.toUpper, skeleton rest, ?_, ?_⟩
    · rw [skeleton_cons, skeletonChar_of_isAlphanum halphanum]
      rfl
    · rw [isAlpha_toUpper (val_lt_of_isAlphanum halphanum), hc]

/-- A word starts with a letter if its skeleton does. -/
theorem IsGoWord.exists_isAlpha {x : Char} {more : Text} (h : IsGoWord t)
    (hskeleton : skeleton t = x :: more) (hx : x.isAlpha = true) :
    ∃ c rest, t = c :: rest ∧ c.isAlpha = true := by
  obtain ⟨hne, hall⟩ := h
  cases t with
  | nil => exact absurd rfl hne
  | cons c rest =>
    have hc := hall c List.mem_cons_self
    rw [skeleton_cons, skeletonChar_of_isAlphanum hc] at hskeleton
    obtain ⟨rfl, -⟩ := List.cons.inj hskeleton
    exact ⟨c, rest, rfl, isAlpha_toUpper (val_lt_of_isAlphanum hc) ▸ hx⟩

theorem isPlain_of_over (hn : Over [' ', '-', '_'] n) (hstart : n.head?.any Char.isAlpha = true) :
    isPlain n = true := by
  cases n with
  | nil => cases hstart
  | cons c rest =>
    refine Bool.and_eq_true_iff.2 ⟨hstart, List.all_eq_true.2 fun d hd => ?_⟩
    refine Bool.or_eq_true_iff.2 ((hn d (List.mem_cons_of_mem c hd)).imp_right fun hsep => ?_)
    exact isSeparator_iff.2 (by simpa using hsep)

/-- The prefix, or the name if there is none, gives the skeleton of the type its first letter. -/
theorem exists_isAlpha_skeleton_typeName (hlead : style.lead = [] ∨ isPlain style.lead = true)
    (hplain : style.lead = [] → isPlain n = true) (hprimitive : isPrimitive n = false) :
    ∃ x more, skeleton (style.typeName n) = x :: more ∧ x.isAlpha = true := by
  rw [skeleton_typeName style hprimitive]
  rcases hlead with hempty | hlead
  · rw [hempty]
    exact exists_isAlpha_skeleton (hplain hempty)
  · obtain ⟨x, more, hskeleton, hx⟩ := exists_isAlpha_skeleton hlead
    exact ⟨x, more ++ skeleton n, by rw [hskeleton, List.cons_append], hx⟩

/-- **The check of the prefix is sound.**  If the settings have a prefix that is not warned of, and
letters, digits and separators make up a name that is no primitive one, and that starts with a
letter if there is no prefix, then the name of the type is a letter with letters and digits after
it, and the letter is a capital if the type is exported. -/
theorem typeName_of_warnings {settings : Settings} {ws : List SettingsWarning}
    (hlead : settings.lead = .str style.lead) (hws : settings.warnings? = some ws)
    (hnone : ∀ value, SettingsWarning.lead value ∉ ws) (hn : Over [' ', '-', '_'] n)
    (hstart : style.lead = [] → n.head?.any Char.isAlpha = true)
    (hprimitive : isPrimitive n = false) :
    ∃ c rest, style.typeName n = c :: rest ∧ c.isAlpha = true ∧
      (∀ d ∈ rest, d.isAlphanum = true) ∧ (style.exported = true → c.isUpper = true) := by
  have hplain := of_leadWarnings (leadWarnings_of_warnings? hlead hws hnone)
  have hname : style.lead = [] → isPlain n = true := fun hempty =>
    isPlain_of_over hn (hstart hempty)
  have hraw : IsRaw (style.led n) := .led hplain hn hname
  have hword := hraw.isGoWord_typeName hprimitive
  obtain ⟨x, more, hskeleton, hx⟩ := exists_isAlpha_skeleton_typeName hplain hname hprimitive
  obtain ⟨c, rest, htype, hc⟩ := hword.exists_isAlpha hskeleton hx
  refine ⟨c, rest, htype, hc,
    fun d hd => hword.isAlphanum d (htype ▸ List.mem_cons_of_mem c hd), fun hexported => ?_⟩
  -- the name of an exported type does not start with a small letter
  have hraised := raised_normalizeTitle (hraw.chars.isAscii (by decide))
  rw [← typeName_of_exported hprimitive hexported, htype, raised_cons] at hraised
  exact (Bool.or_eq_true_iff.1 hc).resolve_right (by simp [hraised])

/-- The settings with the prefix `xs-`. -/
def dashedSettings : Settings := { lead := .str "xs-" }

/-- Exported types with the prefix `xs-`, after which a name may start with anything. -/
def dashedStyle : TypeStyle := ⟨"xs-", true⟩

theorem typeName_of_warnings_dashed :
    dashedSettings.warnings? = some [] ∧ Over [' ', '-', '_'] "_9 lives" ∧
    dashedStyle.typeName "_9 lives" = "Xs9Lives" ∧
    ∃ c rest, dashedStyle.typeName "_9 lives" = c :: rest ∧ c.isAlpha = true ∧
      (∀ d ∈ rest, d.isAlphanum = true) ∧ c.isUpper = true := by
  have hwarnings : dashedSettings.warnings? = some [] := by decide +kernel
  have hlead : dashedSettings.lead = .str dashedStyle.lead := rfl
  have hchars : Over [' ', '-', '_'] "_9 lives" := by decide +kernel
  obtain ⟨c, rest, htype, hc, hrest, hupper⟩ := typeName_of_warnings hlead hwarnings
    (fun _ => List.not_mem_nil) hchars (by decide) (by decide +kernel)
  exact ⟨hwarnings, hchars, by decide +kernel, c, rest, htype, hc, hrest, hupper rfl⟩

end Naming

end SchemaStructs
