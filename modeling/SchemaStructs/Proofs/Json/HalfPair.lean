import SchemaStructs.Proofs.Json.LineBreaks
import SchemaStructs.Proofs.Json.Steps

/-!
# Escapes of half a surrogate pair

The scan for such an escape (`Json.halfPair?`) goes from one character or escape to the next one.
Whether it finds one does not depend on the line breaks of the text (`Json.hasHalfPair_unify`), since
an escape by number has none.
-/

namespace SchemaStructs

namespace Json

open FileTree (unifyLineBreaks)

/-- The text has an escape of half of a surrogate pair. -/
def hasHalfPair (t : Text) : Bool := (halfPair? 0 0 t).isSome

variable {t u rest hex : Text} {c d : Char} {size n : Nat}

theorem halfPair?_eq_none_iff : halfPair? 0 0 t = none ↔ hasHalfPair t = false := by
  rw [hasHalfPair, Option.isSome_eq_false_iff, Option.isNone_iff_eq_none]

/-! ### Steps of the scan -/

/-- Where a text starts does not matter for what is found in it. -/
theorem isSome_halfPair? (pos pos' skip : Nat) (t : Text) :
    (halfPair? pos skip t).isSome = (halfPair? pos' skip t).isSome := by
  induction t generalizing pos pos' skip with
  | nil => rfl
  | cons c rest ih =>
    cases skip with
    | succ skip => exact ih (pos + 1) (pos' + 1) skip
    | zero =>
      rw [halfPair?, halfPair?]
      split
      · cases escapeSize? rest with
        | some size => exact ih (pos + 1) (pos' + 1) size
        | none => rfl
      · exact ih (pos + 1) (pos' + 1) 0

/-- The characters of an escape that was looked at are passed over. -/
theorem isSome_halfPair?_append (pos : Nat) (u t : Text) :
    (halfPair? pos u.length (u ++ t)).isSome = hasHalfPair t := by
  induction u generalizing pos with
  | nil => exact isSome_halfPair? pos 0 0 t
  | cons c u ih => exact ih (pos + 1)

theorem hasHalfPair_cons (hc : c ≠ '\\') (t : Text) : hasHalfPair (c :: t) = hasHalfPair t := by
  rw [hasHalfPair, halfPair?, if_neg hc]
  exact isSome_halfPair? 1 0 0 t

/-- An escape that is not half of a pair is passed over. -/
theorem hasHalfPair_escape (hsize : escapeSize? (u ++ t) = some u.length) :
    hasHalfPair ('\\' :: (u ++ t)) = hasHalfPair t := by
  rw [hasHalfPair, halfPair?, if_pos rfl, hsize]
  exact isSome_halfPair?_append 1 u t

theorem hasHalfPair_of_escape (hsize : escapeSize? t = none) : hasHalfPair ('\\' :: t) = true := by
  rw [hasHalfPair, halfPair?, if_pos rfl, hsize]
  rfl

/-- One half by itself, and both. -/
example : hasHalfPair "\"\\ud83d\"" = true ∧ hasHalfPair "\"\\ud83d\\ude00\"" = false := ⟨rfl, rfl⟩

/-- A text without backslashes is passed over. -/
theorem hasHalfPair_append (hu : '\\' ∉ u) (t : Text) : hasHalfPair (u ++ t) = hasHalfPair t := by
  induction u with
  | nil => rfl
  | cons c u ih =>
    rw [List.mem_cons, not_or] at hu
    rw [List.cons_append, hasHalfPair_cons (Ne.symm hu.1), ih hu.2]

/-! ### The size of an escape -/

theorem escapeSize?_of_ne (hd : d ≠ 'u') (t : Text) : escapeSize? (d :: t) = some 1 := by
  rw [escapeSize?]
  · exact List.cons_ne_nil d t
  · exact fun _ h => hd (List.cons.inj h).1

theorem escapeSize?_none (h : hexFour? hex = none) : escapeSize? ('u' :: hex) = some 1 := by
  rw [escapeSize?, h]

theorem escapeSize?_some (h : hexFour? hex = some (n, rest)) : escapeSize? ('u' :: hex) =
    if isHighSurrogate n then if startsWithLow rest then some 11 else none
    else if isLowSurrogate n then none else some 5 := by
  rw [escapeSize?, h]

theorem exists_of_hexFour? (h : hexFour? t = some (n, rest)) :
    ∃ u, t = u ++ rest ∧ u.length = 4 ∧ '\r' ∉ u := by
  obtain ⟨a, b, c, d, rfl, -, i, j, k, l, ha, hb, hc, hd, -⟩ := hexFour?_eq_some_iff.1 h
  refine ⟨[a, b, c, d], rfl, rfl, ?_⟩
  simp only [List.mem_cons, List.not_mem_nil, or_false, not_or]
  exact ⟨(ne_break_of_hexDigit? ha).1.symm, (ne_break_of_hexDigit? hb).1.symm,
    (ne_break_of_hexDigit? hc).1.symm, (ne_break_of_hexDigit? hd).1.symm⟩

theorem exists_of_startsWithLow (h : startsWithLow t = true) :
    ∃ u rest, t = u ++ rest ∧ u.length = 6 ∧ '\r' ∉ u := by
  unfold startsWithLow at h
  split at h
  · rename_i hex
    cases hfour : hexFour? hex with
    | none =>
      rw [hfour] at h
      cases h
    | some found =>
      obtain ⟨u, hex, hlength, hu⟩ := exists_of_hexFour? hfour
      exact ⟨'\\' :: 'u' :: u, found.2, by rw [hex]; rfl, by simp [hlength], by simp [hu]⟩
  · cases h

/-- An escape by number that is not half of a pair has no carriage return. -/
theorem exists_of_codePoint (h : escapeSize? ('u' :: t) = some size) :
    ∃ u rest, 'u' :: t = u ++ rest ∧ u.length = size ∧ '\r' ∉ u := by
  cases hfour : hexFour? t with
  | none =>
    rw [escapeSize?_none hfour] at h
    exact ⟨['u'], t, rfl, Option.some.inj h, by decide⟩
  | some found =>
    obtain ⟨n, rest⟩ := found
    obtain ⟨u, rfl, hlength, hu⟩ := exists_of_hexFour? hfour
    rw [escapeSize?_some hfour] at h
    split at h
    · split at h
      · rename_i hlow
        obtain ⟨v, rest, rfl, hlength', hv⟩ := exists_of_startsWithLow hlow
        refine ⟨'u' :: (u ++ v), rest, by simp, ?_, by simp [hu, hv]⟩
        rw [List.length_cons, List.length_append, hlength, hlength']
        exact Option.some.inj h
      · cases h
    · split at h
      · cases h
      · refine ⟨'u' :: u, rest, rfl, ?_, by simp [hu]⟩
        rw [List.length_cons, hlength]
        exact Option.some.inj h

/-- No escape that is not half of a pair has a carriage return, unless that is the character that was
escaped. -/
theorem exists_of_escapeSize? (h : escapeSize? t = some size)
    (ht : ∀ rest, t ≠ '\r' :: rest) : ∃ u rest, t = u ++ rest ∧ u.length = size ∧ '\r' ∉ u := by
  cases t with
  | nil => exact ⟨[], [], rfl, Option.some.inj h, List.not_mem_nil⟩
  | cons d t =>
    by_cases hcode : d = 'u'
    · subst hcode
      exact exists_of_codePoint h
    · have hd : '\r' ≠ d := fun hd => ht t (hd ▸ rfl)
      rw [escapeSize?_of_ne hcode] at h
      exact ⟨[d], t, rfl, Option.some.inj h, by simpa using hd⟩

/-! ### Line breaks -/

theorem startsWithLow_unify (t : Text) : startsWithLow (unifyLineBreaks t) = startsWithLow t := by
  by_cases hpair : ∃ hex, t = '\\' :: 'u' :: hex
  · obtain ⟨hex, rfl⟩ := hpair
    rw [unify_cons (by decide), unify_cons (by decide), startsWithLow, startsWithLow, hexFour?_unify,
      Option.any_map]
  · rw [startsWithLow, startsWithLow]
    · exact fun hex h => hpair ⟨hex, h⟩
    · intro hex h
      obtain ⟨u, rfl, hu, -⟩ := exists_of_unify_eq_cons h (by decide)
      obtain ⟨u, rfl, -⟩ := exists_of_unify_eq_cons hu (by decide)
      exact hpair ⟨u, rfl⟩

theorem escapeSize?_unify (t : Text) : escapeSize? (unifyLineBreaks t) = escapeSize? t := by
  cases t with
  | nil => rw [unify_nil]
  | cons d t =>
    by_cases hd : d = '\r'
    · subst hd
      obtain ⟨u, hu⟩ := exists_unify_return t
      rw [hu, escapeSize?_of_ne (by decide), escapeSize?_of_ne (by decide)]
    rw [unify_cons hd]
    by_cases hcode : d = 'u'
    · subst hcode
      have hfour' := hexFour?_unify t
      cases hfour : hexFour? t with
      | none =>
        rw [hfour] at hfour'
        rw [escapeSize?_none hfour, escapeSize?_none hfour']
      | some found =>
        obtain ⟨n, rest⟩ := found
        rw [hfour] at hfour'
        rw [escapeSize?_some hfour, escapeSize?_some hfour', startsWithLow_unify]
    · rw [escapeSize?_of_ne hcode, escapeSize?_of_ne hcode]

/-- After a carriage return the text goes on, or its line ends with the newline that follows. -/
theorem hasHalfPair_unify_return (t : Text) :
    hasHalfPair (unifyLineBreaks ('\r' :: t)) = hasHalfPair (unifyLineBreaks t) := by
  rcases eq_cons_or_ne '\n' t with ⟨rest, rfl⟩ | hne
  · rw [unifyLineBreaks, unify_cons (by decide)]
  · rw [unifyLineBreaks, if_pos rfl, hasHalfPair_cons (by decide)]
    exact fun rest _ h => hne rest h

/-- An escape of half of a pair is found whatever the line breaks are, if this is so of shorter
texts. -/
theorem hasHalfPair_unify_escape (ih : ∀ u : Text, u.length ≤ t.length →
      hasHalfPair (unifyLineBreaks u) = hasHalfPair u) :
    hasHalfPair ('\\' :: unifyLineBreaks t) = hasHalfPair ('\\' :: t) := by
  rcases eq_cons_or_ne '\r' t with ⟨rest, rfl⟩ | hne
  · obtain ⟨v, hv⟩ := exists_unify_return rest
    have hrest : hasHalfPair v = hasHalfPair rest := by
      have hreturn := ih ('\r' :: rest) (Nat.le_refl _)
      rwa [hv, hasHalfPair_cons (by decide), hasHalfPair_cons (by decide)] at hreturn
    have hafter : hasHalfPair ('\\' :: '\n' :: v) = hasHalfPair v :=
      hasHalfPair_escape (u := ['\n']) (escapeSize?_of_ne (by decide) v)
    have hbefore : hasHalfPair ('\\' :: '\r' :: rest) = hasHalfPair rest :=
      hasHalfPair_escape (u := ['\r']) (escapeSize?_of_ne (by decide) rest)
    rw [hv, hafter, hbefore, hrest]
  · have hsize' := escapeSize?_unify t
    cases hsize : escapeSize? t with
    | none =>
      rw [hsize] at hsize'
      rw [hasHalfPair_of_escape hsize, hasHalfPair_of_escape hsize']
    | some size =>
      obtain ⟨u, rest, rfl, rfl, hu⟩ := exists_of_escapeSize? hsize hne
      rw [hsize, unify_append hu] at hsize'
      have hrest : hasHalfPair (unifyLineBreaks rest) = hasHalfPair rest :=
        ih rest (by rw [List.length_append]; exact Nat.le_add_left _ _)
      rw [unify_append hu, hasHalfPair_escape hsize, hasHalfPair_escape hsize', hrest]

/-- **The line breaks of a text do not matter for whether it has half of a surrogate pair.** -/
theorem hasHalfPair_unify (t : Text) : hasHalfPair (unifyLineBreaks t) = hasHalfPair t := by
  obtain ⟨n, hn⟩ : ∃ n, t.length ≤ n := ⟨_, Nat.le_refl _⟩
  induction n generalizing t with
  | zero =>
    rw [List.length_eq_zero_iff.1 (Nat.le_zero.1 hn), unify_nil]
  | succ n ih =>
    cases t with
    | nil => rw [unify_nil]
    | cons c t =>
      have ht : t.length ≤ n := Nat.le_of_succ_le_succ hn
      by_cases hreturn : c = '\r'
      · subst hreturn
        rw [hasHalfPair_unify_return, hasHalfPair_cons (by decide), ih t ht]
      rw [unify_cons hreturn]
      by_cases hslash : c = '\\'
      · subst hslash
        exact hasHalfPair_unify_escape fun u hu => ih u (Nat.le_trans hu ht)
      · rw [hasHalfPair_cons hslash, hasHalfPair_cons hslash, ih t ht]

end Json

end SchemaStructs
