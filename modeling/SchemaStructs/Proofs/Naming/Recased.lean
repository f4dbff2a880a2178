import SchemaStructs.Proofs.Naming.Capital
import SchemaStructs.Proofs.Naming.Initialism

/-!
# Naming loses separators and case only

The identifier of an ASCII name has the characters of the name that are no separators, in their
order and with none left out, put in twice or exchanged; all that can happen to one of them is that
a small letter becomes a capital (`Naming.Recased`).  Every pass is of this kind
(`Naming.recased_title`, `Naming.recased_replaceInitialisms`, `Naming.recased_squish`,
`Naming.recased_foldSeparator`), and so are several of them in a row (`Naming.Recased.trans`).

The last pass leaves no separators, so the identifier is spelled by the name up to case
(`Naming.spells_normalize`), and names of one identifier differ in case and separators at most.
-/

namespace SchemaStructs

namespace Naming

/-- The name without its separators. -/
def joined (t : Text) : Text := t.filter (!isSeparator ·)

/-- The character stays, or it is put in upper case. -/
def Kept (c d : Char) : Prop := d = c ∨ Text.upperChar c = [d]

/-- Separators apart, the second text has the characters of the first one, each of which stays or is
put in upper case. -/
def Recased (s t : Text) : Prop := List.Forall₂ Kept (joined s) (joined t)

variable {s t u : Text} {c d sep : Char}

/-! ### Characters -/

theorem Kept.isSeparator_eq (h : Kept c d) : isSeparator d = isSeparator c := by
  rcases h with rfl | h
  · rfl
  · cases hc : isSeparator c with
    | true =>
      rw [upperChar_of_isSeparator hc, List.singleton_inj] at h
      exact h ▸ hc
    | false => exact isSeparator_of_mem_upperChar hc (h ▸ List.mem_singleton_self d)

theorem Kept.trans {e : Char} (hcd : Kept c d) (hde : Kept d e) : Kept c e := by
  rcases hcd with rfl | hcd
  · exact hde
  · -- what is in upper case stays as it is
    rw [Kept, Text.upperChar_of_mem (hcd ▸ List.mem_singleton_self d), List.singleton_inj] at hde
    have hed : e = d := hde.elim id Eq.symm
    exact .inr (hed ▸ hcd)

/-- A capital stays as it is. -/
theorem Kept.eq_of_isUpper (h : Kept c d) (hc : c.isUpper = true) : d = c := by
  rcases h with rfl | h
  · rfl
  · rw [upperChar_of_isUpper hc, List.singleton_inj] at h
    exact h.symm

theorem toLower_toUpper (hc : c.val < 128) : c.toUpper.toLower = c.toLower := by
  have hascii : ∀ n < 128, (Char.ofNat n).toUpper.toLower = (Char.ofNat n).toLower := by
    decide +kernel
  exact Text.forall_ascii (P := fun c => c.toUpper.toLower = c.toLower) hascii hc

theorem Kept.toLower_eq (h : Kept c d) (hc : c.val < 128) : d.toLower = c.toLower := by
  rcases h with rfl | h
  · rfl
  · rw [Text.upperChar_ascii hc, List.singleton_inj] at h
    rw [← h, toLower_toUpper hc]

/-! ### Recased texts -/

namespace Recased

theorem refl (t : Text) : Recased t t := List.forall₂_same.2 fun _ _ => .inl rfl

theorem trans (hst : Recased s t) (htu : Recased t u) : Recased s u := by
  rw [Recased] at hst htu ⊢
  generalize joined s = s, joined t = t, joined u = u at hst htu
  induction hst generalizing u with
  | nil => exact htu
  | cons hcd _ ih =>
    cases htu with
    | cons hde hrest => exact .cons (hcd.trans hde) (ih _ hrest)

theorem append {s' t' : Text} (h : Recased s t) (h' : Recased s' t') :
    Recased (s ++ s') (t ++ t') := by
  rw [Recased, joined, joined, List.filter_append, List.filter_append]
  exact List.rel_append h h'

/-- Characters that are kept place by place. -/
theorem of_forall₂ (h : List.Forall₂ Kept s t) : Recased s t :=
  List.rel_filter (fun c d (hkept : Kept c d) =>
    Bool.eq_iff_iff.1 (congrArg (!·) hkept.isSeparator_eq.symm)) h

theorem cons (hcd : Kept c d) (h : Recased s t) : Recased (c :: s) (d :: t) :=
  append (s := [c]) (t := [d]) (of_forall₂ (.cons hcd .nil)) h

end Recased

/-! ### The passes -/

theorem recased_titleFrom (inside : Bool) (ht : IsAscii t) : Recased t (titleFrom inside t) := by
  induction t generalizing inside with
  | nil => exact .refl []
  | cons c rest ih =>
    obtain ⟨hc, hrest⟩ := List.forall_mem_cons.1 ht
    rw [titleFrom]
    split
    · split
      · exact .cons (.inl rfl) (ih true hrest)
      · rw [Text.upperChar_ascii hc]
        exact .cons (.inr (Text.upperChar_ascii hc)) (ih true hrest)
    · exact .cons (.inl rfl) (ih false hrest)

theorem recased_title (ht : IsAscii t) : Recased t (title t) := recased_titleFrom false ht

theorem recased_replaceInitialisms (t : Text) : Recased t (replaceInitialisms t) :=
  .of_forall₂ (forall₂_capitalize 0 t)

/-- Spaces are separators. -/
theorem recased_squish (t : Text) : Recased t (squish t) := by
  have hspace : joined (squish t) = joined t := by
    rw [joined, squish, List.filter_filter]
    refine List.filter_congr fun c _ => ?_
    by_cases hc : c = ' '
    · subst hc
      rfl
    · simp [hc]
  rw [Recased, hspace]
  exact Recased.refl t

/-- Where two parts are joined, a separator goes and a title begins. -/
theorem recased_foldSeparator (hsep : isSeparator sep = true) (ht : IsAscii t) :
    Recased t (foldSeparator sep t) := by
  obtain ⟨first, others, hsplit, htext⟩ := Text.exists_of_splitOn sep t
  have hothers : ∀ p ∈ others, IsAscii p := fun p hp c hc =>
    ht c (Text.of_mem_splitWhere (hsplit ▸ List.mem_cons_of_mem first hp) hc).1
  have hdrop : ∀ rest, joined (sep :: rest) = joined rest := fun rest => by
    rw [joined, List.filter_cons_of_neg (by simp [hsep])]
    rfl
  rw [foldSeparator, hsplit, htext]
  refine (Recased.refl first).append ?_
  clear hsplit htext
  induction others with
  | nil => exact .refl []
  | cons p others ih =>
    obtain ⟨hp, hothers⟩ := List.forall_mem_cons.1 hothers
    rw [List.flatMap_cons, List.flatMap_cons, List.cons_append, Recased, hdrop]
    exact (recased_title hp).append (ih hothers)

theorem recased_normalize (ht : IsAscii t) : Recased t (normalize t) := by
  have hsquished : IsAscii (squish (replaceInitialisms t)) := ht.replaceInitialisms.squish
  have hspelled : Recased t (squish (replaceInitialisms t)) :=
    (recased_replaceInitialisms t).trans (recased_squish _)
  have hdashed : Recased _ (dashToCamel (squish (replaceInitialisms t))) :=
    recased_foldSeparator rfl hsquished
  exact (hspelled.trans hdashed).trans (recased_foldSeparator rfl hsquished.foldSeparator)

/-! ### What names of one identifier have in common -/

/-- The name spells the identifier: this is the name without its separators, in which some small
letters are capitals. -/
structure Spells (raw name : Text) : Prop where
  /-- There are no separators in the identifier. -/
  isSeparator_eq : ∀ c ∈ name, isSeparator c = false
  /-- In small letters it is the name without its separators. -/
  map_toLower_eq : name.map Char.toLower = (joined raw).map Char.toLower
  /-- Every capital of the name is a capital at its place. -/
  capitals : List.Forall₂ (fun c d => c.isUpper = true → d = c) (joined raw) name

theorem Recased.spells (h : Recased s (normalize t)) (hs : IsAscii s) :
    Spells s (normalize t) := by
  have hnone : ∀ c ∈ normalize t, isSeparator c = false := isSeparator_of_mem_normalize t
  have hname : joined (normalize t) = normalize t :=
    List.filter_eq_self.2 fun c hc => by rw [hnone c hc]; rfl
  rw [Recased, hname] at h
  have hascii : ∀ c ∈ joined s, c.val < 128 := fun c hc => hs c (List.mem_filter.1 hc).1
  refine ⟨hnone, ?_, h.imp fun _ _ => Kept.eq_of_isUpper⟩
  rw [← List.forall₂_eq_eq_eq, List.forall₂_map_left_iff, List.forall₂_map_right_iff]
  exact ((List.forall₂_and_left _ _).2 ⟨hascii, h⟩).flip.imp
    fun _ _ hkept => hkept.2.toLower_eq hkept.1

/-- **Naming loses separators and case only.**  The identifier of an ASCII name is spelled by the
name, whether it is to start with a capital or not; so two names with one identifier are equal up to
case and separators. -/
theorem spells_normalize (hs : IsAscii s) :
    Spells s (normalize s) ∧ Spells s (normalizeTitle s) ∧
    ∀ t, IsAscii t → ∀ name ∈ [normalize s, normalizeTitle s],
      name ∈ [normalize t, normalizeTitle t] →
        (joined s).map Char.toLower = (joined t).map Char.toLower := by
  have hboth : ∀ {t}, IsAscii t → Spells t (normalize t) ∧ Spells t (normalizeTitle t) :=
    fun ht => ⟨(recased_normalize ht).spells ht,
      ((recased_title ht).trans (recased_normalize ht.title)).spells ht⟩
  have hname : ∀ {t}, IsAscii t → ∀ name ∈ [normalize t, normalizeTitle t], Spells t name := by
    intro t ht name hmem
    rcases List.mem_pair.1 hmem with rfl | rfl
    · exact (hboth ht).1
    · exact (hboth ht).2
  refine ⟨(hboth hs).1, (hboth hs).2, fun t ht name hmem hmem' => ?_⟩
  rw [← (hname hs name hmem).map_toLower_eq, ← (hname ht name hmem').map_toLower_eq]

/-- `user-id` and `User_ID` have one field, which both of them spell. -/
theorem spells_normalize_userID :
    IsAscii "user-id" ∧ IsAscii "User_ID" ∧ Spells "user-id" (normalizeTitle "user-id") ∧
    ("UserID" : Text) ∈ [normalize "user-id", normalizeTitle "user-id"] ∧
    ("UserID" : Text) ∈ [normalize "User_ID", normalizeTitle "User_ID"] ∧
    (joined "user-id").map Char.toLower = (joined "User_ID").map Char.toLower := by
  have hascii : IsAscii "user-id" ∧ IsAscii "User_ID" := by decide
  have hleft : ("UserID" : Text) ∈ [normalize "user-id", normalizeTitle "user-id"] := by
    decide +kernel
  have hright : ("UserID" : Text) ∈ [normalize "User_ID", normalizeTitle "User_ID"] := by
    decide +kernel
  have h := spells_normalize hascii.1
  exact ⟨hascii.1, hascii.2, h.2.1, hleft, hright, h.2.2 _ hascii.2 _ hleft hright⟩

end Naming

end SchemaStructs
