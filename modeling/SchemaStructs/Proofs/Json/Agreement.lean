import SchemaStructs.Proofs.Json.HalfPair

/-!
# Documents that agree

A text and the same text with its line breaks unified hold the same document
(`Json.alike_unify`), although the second one may be shorter, so that faults are found at other
offsets and the reader starts with less fuel.

* `Json.Agree` relates two readings of a part of a document.  It also says that what is left is
  shorter, which is what the fuel of later readings is counted by;
* `Json.agree_readString`, `Json.agree_readValue` and their like take one step of the reader;
* `Json.Agreeing` says what holds of values, items and members together, and `Json.agreeing` that it
  does, by induction on the fuel.

Where neither text is a document the fault is the same one, at another offset.
-/

namespace SchemaStructs

namespace Json

open FileTree (unifyLineBreaks)

variable {t u rest : Text} {c d : Char} {pos pos' start start' fuel fuel' room n m : Nat}

/-! ### Readings that agree -/

/-- Two readings of parts of a document agree, if what is left of the second document is what is
left of the first one with its line breaks unified.  Less is left than `n` and `m` characters. -/
inductive Agree {α : Type} (n m : Nat) :
    Except ReadError (α × Rest) → Except ReadError (α × Rest) → Prop where
  /-- Both read the same value. -/
  | ok {a : α} {pos pos' : Nat} {t : Text} (ht : t.length < n)
      (hu : (unifyLineBreaks t).length < m) :
      Agree n m (.ok (a, pos, t)) (.ok (a, pos', unifyLineBreaks t))
  /-- Both find the same fault. -/
  | invalid {fault : Fault} {offset offset' : Nat} :
      Agree n m (.error (.invalid fault offset)) (.error (.invalid fault offset'))
  /-- Both are beyond the same limit. -/
  | limit (e : ReadError) : Agree n m (.error e) (.error e)

variable {α β : Type} {x y : Except ReadError (α × Rest)} {n' m' : Nat}

theorem Agree.mono (h : Agree n m x y) (hn : n ≤ n') (hm : m ≤ m') : Agree n' m' x y := by
  cases h with
  | ok ht hu => exact .ok (Nat.lt_of_lt_of_le ht hn) (Nat.lt_of_lt_of_le hu hm)
  | invalid => exact .invalid
  | limit e => exact .limit e

/-- Readings that agree go on in agreement. -/
theorem Agree.bind {f g : α × Rest → Except ReadError (β × Rest)} (h : Agree n m x y)
    (hfg : ∀ a pos pos' t, t.length < n → (unifyLineBreaks t).length < m →
      Agree n' m' (f (a, pos, t)) (g (a, pos', unifyLineBreaks t))) :
    Agree n' m' (x >>= f) (y >>= g) := by
  cases h with
  | ok ht hu => exact hfg _ _ _ _ ht hu
  | invalid => exact .invalid
  | limit e => exact .limit e

/-- Readings that agree on a value agree on what is made of it. -/
theorem Agree.map {f : α → β} (h : Agree n m x y) :
    Agree n m (x >>= fun (a, next) => pure (f a, next)) (y >>= fun (a, next) => pure (f a, next)) :=
  h.bind fun _ _ _ _ ht hu => .ok ht hu

/-! ### Words and numbers -/

theorem agree_readUnsigned (negative : Bool) (size : Nat) (t : Text) :
    Agree t.length (unifyLineBreaks t).length (readUnsigned pos (negative, size, t))
      (readUnsigned pos' (negative, size, unifyLineBreaks t)) := by
  have hwhole' := wholePart_unify t
  cases hwhole : wholePart t with
  | none =>
    rw [hwhole, Option.map_none] at hwhole'
    simp only [readUnsigned, hwhole, hwhole']
    exact .invalid
  | some part =>
    obtain ⟨whole, after⟩ := part
    rw [hwhole, Option.map_some] at hwhole'
    have hrest : (fractionPart after).2.length < t.length :=
      Nat.lt_of_le_of_lt (length_fractionPart after) (length_wholePart hwhole)
    have hrest' : (unifyLineBreaks (fractionPart after).2).length < (unifyLineBreaks t).length := by
      have hle := length_fractionPart (unifyLineBreaks after)
      rw [fractionPart_unify] at hle
      exact Nat.lt_of_le_of_lt hle (length_wholePart hwhole')
    have hexponent' := exponentPart_unify (fractionPart after).2
    simp only [readUnsigned, hwhole, hwhole', fractionPart_unify]
    cases hexponent : exponentPart (fractionPart after).2 with
    | some part =>
      obtain ⟨negative', ds, size', rest⟩ := part
      rw [hexponent, Option.map_some] at hexponent'
      simp only [hexponent']
      exact .ok (Nat.lt_of_le_of_lt (length_exponentPart hexponent) hrest)
        (Nat.lt_of_le_of_lt (length_exponentPart hexponent') hrest')
    | none =>
      rw [hexponent, Option.map_none] at hexponent'
      simp only [hexponent']
      split
      · split
        · exact .limit _
        · exact .ok hrest hrest'
      · exact .ok hrest hrest'

theorem agree_readNumber (t : Text) :
    Agree t.length (unifyLineBreaks t).length (readNumber pos t)
      (readNumber pos' (unifyLineBreaks t)) := by
  have hsize := length_signPart t
  have hsize' := length_signPart (unifyLineBreaks t)
  rw [signPart_unify] at hsize'
  rw [readNumber_eq, readNumber_eq, signPart_unify]
  exact (agree_readUnsigned _ _ _).mono hsize hsize'

/-- No word is empty. -/
theorem length_pos_of_mem_words {p : Text × Json} (hp : p ∈ words) : 0 < p.1.length := by
  have hall : ∀ p ∈ words, 0 < p.1.length := by decide +kernel
  exact hall p hp

theorem agree_readPlain (pos pos' : Nat) (t : Text) :
    Agree t.length (unifyLineBreaks t).length (readPlain pos t)
      (readPlain pos' (unifyLineBreaks t)) := by
  rw [readPlain, readPlain, find?_words_unify]
  generalize hfound : words.find? _ = found
  cases found with
  | none => exact agree_readNumber t
  | some m =>
    obtain ⟨word, value⟩ := m
    have hword := List.mem_of_find?_eq_some hfound
    have hpos : 0 < word.length := length_pos_of_mem_words hword
    have hreturn : '\r' ∉ word := (not_mem_words hword).1
    have hprefix : word.isPrefixOf t = true := by simpa using List.find?_some hfound
    clear hfound
    obtain ⟨after, rfl⟩ := List.isPrefixOf_iff_prefix.1 hprefix
    dsimp only
    rw [unify_append hreturn, List.drop_left, List.drop_left, List.length_append,
      List.length_append]
    exact .ok (Nat.lt_add_of_pos_left hpos) (Nat.lt_add_of_pos_left hpos)

/-! ### Strings -/

theorem length_hexFour? (h : hexFour? t = some (n, rest)) : rest.length < t.length := by
  obtain ⟨a, b, c, d, rfl, -⟩ := hexFour?_eq_some_iff.1 h
  simp only [List.length_cons]
  omega

/-- The first reading is at fault where the second one takes half of a pair for a character and
leaves an escape without digits. -/
def Halved (x y : Except ReadError (Char × Rest)) : Prop :=
  (∃ offset, x = .error (.invalid .codePoint offset)) ∧
    ∃ c pos hex, y = .ok (c, pos, '\\' :: 'u' :: hex) ∧ hexFour? hex = none

/-- The second half of a pair is read from both texts, or from none, unless it is cut off by the end
of one text only. -/
theorem agree_readSecondHalf (high pos pos' : Nat) (hex : Text) :
    Agree (hex.length + 3) ((unifyLineBreaks hex).length + 3) (readSecondHalf high pos hex)
        (readSecondHalf high pos' (unifyLineBreaks hex)) ∨
      Halved (readSecondHalf high pos hex) (readSecondHalf high pos' (unifyLineBreaks hex)) := by
  have hunify : unifyLineBreaks ('\\' :: 'u' :: hex) = '\\' :: 'u' :: unifyLineBreaks hex := by
    rw [unify_cons (by decide), unify_cons (by decide)]
  have hsingle : Agree (hex.length + 3) ((unifyLineBreaks hex).length + 3)
      (.ok (Char.ofNat high, pos + 6, '\\' :: 'u' :: hex))
      (.ok (Char.ofNat high, pos' + 6, '\\' :: 'u' :: unifyLineBreaks hex)) :=
    hunify ▸ .ok (Nat.lt_succ_self _) (hunify ▸ Nat.lt_succ_self _)
  have hlow' := hexFour?_unify hex
  cases hlow : hexFour? hex with
  | some found =>
    obtain ⟨low, after⟩ := found
    rw [hlow, Option.map_some] at hlow'
    have hafter := length_hexFour? hlow
    have hafter' := length_hexFour? hlow'
    simp only [readSecondHalf, hlow, hlow']
    split
    · exact .inl (.ok (Nat.lt_add_right 3 hafter) (Nat.lt_add_right 3 hafter'))
    · exact .inl hsingle
  | none =>
    rw [hlow, Option.map_none] at hlow'
    simp only [readSecondHalf, hlow, hlow']
    -- the text with unified line breaks is not the longer one
    by_cases hshort : hex.length ≤ 4
    · rw [if_pos hshort, if_pos (Nat.le_trans (length_unify_le hex) hshort)]
      exact .inl hsingle
    · rw [if_neg hshort]
      split
      · exact .inr ⟨⟨_, rfl⟩, _, _, _, rfl, hlow'⟩
      · exact .inl .invalid

/-- A character is read by its number from both texts, or from none, unless the second half of a
pair is cut off by the end of one text only. -/
theorem agree_readCodePoint (pos pos' : Nat) (t : Text) :
    Agree t.length (unifyLineBreaks t).length (readCodePoint pos t)
        (readCodePoint pos' (unifyLineBreaks t)) ∨
      Halved (readCodePoint pos t) (readCodePoint pos' (unifyLineBreaks t)) := by
  have hfour' := hexFour?_unify t
  cases hfour : hexFour? t with
  | none =>
    rw [hfour, Option.map_none] at hfour'
    rw [readCodePoint_none hfour, readCodePoint_none hfour']
    exact .inl .invalid
  | some found =>
    obtain ⟨n, rest⟩ := found
    rw [hfour, Option.map_some] at hfour'
    dsimp only at hfour'
    have hrest := length_hexFour? hfour
    have hrest' := length_hexFour? hfour'
    by_cases hpair : isHighSurrogate n = true ∧ ∃ hex, rest = '\\' :: 'u' :: hex
    · obtain ⟨hhigh, hex, rfl⟩ := hpair
      rw [unify_cons (by decide), unify_cons (by decide)] at hfour' hrest'
      rw [readCodePoint_pair hfour hhigh, readCodePoint_pair hfour' hhigh]
      simp only [List.length_cons] at hrest hrest'
      exact (agree_readSecondHalf n pos pos' hex).imp_left fun h => h.mono hrest hrest'
    · have halone (hhigh : isHighSurrogate n = true) (hex : Text) : rest ≠ '\\' :: 'u' :: hex :=
        fun h => hpair ⟨hhigh, hex, h⟩
      have halone' (hhigh : isHighSurrogate n = true) (hex : Text) :
          unifyLineBreaks rest ≠ '\\' :: 'u' :: hex := by
        intro h
        obtain ⟨u, rfl, hu, -⟩ := exists_of_unify_eq_cons h (by decide)
        obtain ⟨u, rfl, -⟩ := exists_of_unify_eq_cons hu (by decide)
        exact halone hhigh u rfl
      rw [readCodePoint_alone hfour halone, readCodePoint_alone hfour' halone']
      exact .inl (.ok hrest hrest')

/-- An escape by number without a number is no string. -/
theorem readString_invalid (start fuel pos : Nat) {hex : Text} (h : hexFour? hex = none) :
    readString start (fuel + 1) pos ('\\' :: 'u' :: hex) =
      .error (.invalid .codePoint (pos + 1)) := by
  rw [readString_codePoint, readCodePoint_none h]
  rfl

/-- What follows a backslash is read from both texts, or from none. -/
theorem agree_escape
    (ih : ∀ {pos pos' fuel' : Nat} {t : Text}, t.length ≤ fuel →
      (unifyLineBreaks t).length ≤ fuel' → Agree t.length (unifyLineBreaks t).length
        (readString start fuel pos t) (readString start' fuel' pos' (unifyLineBreaks t)))
    (hfuel : rest.length ≤ fuel) (hfuel' : (unifyLineBreaks rest).length ≤ fuel') :
    Agree rest.length (unifyLineBreaks rest).length (readString start (fuel + 1) pos ('\\' :: rest))
      (readString start' (fuel' + 1) pos' ('\\' :: unifyLineBreaks rest)) := by
  cases rest with
  | nil =>
    rw [unify_nil]
    exact .invalid
  | cons d rest =>
    by_cases hd : d = '\r'
    · subst hd
      obtain ⟨u, hu⟩ := exists_unify_return rest
      rw [hu]
      exact .invalid
    rw [unify_cons hd, List.length_cons] at hfuel'
    rw [unify_cons hd, List.length_cons, List.length_cons]
    rw [List.length_cons] at hfuel
    by_cases hcode : d = 'u'
    · subst hcode
      rw [readString_codePoint, readString_codePoint]
      rcases agree_readCodePoint pos pos' rest with
        h | ⟨⟨offset, herror⟩, c, q, hex, hok, hnone⟩
      · refine h.bind fun c p p' t ht ht' => ?_
        exact ((ih (by omega) (by omega)).mono (by omega) (by omega)).map
      · -- the second text is at fault where its half of a pair is read again
        obtain ⟨fuel', rfl⟩ : ∃ n, fuel' = n + 1 := Nat.exists_eq_succ_of_ne_zero (by omega)
        rw [herror, hok]
        change Agree _ _ (.error _) (readString start' (fuel' + 1) q _ >>= _)
        rw [readString_invalid start' fuel' q hnone]
        exact .invalid
    · rw [readString_escape hcode, readString_escape hcode]
      cases shortEscape? d with
      | none => exact .invalid
      | some c => exact ((ih (by omega) (by omega)).mono (by omega) (by omega)).map

/-- **A string is read from both texts, or from none.** -/
theorem agree_readString (hfuel : t.length ≤ fuel) (hfuel' : (unifyLineBreaks t).length ≤ fuel') :
    Agree t.length (unifyLineBreaks t).length (readString start fuel pos t)
      (readString start' fuel' pos' (unifyLineBreaks t)) := by
  induction fuel generalizing pos pos' fuel' t with
  | zero =>
    obtain rfl : t = [] := List.length_eq_zero_iff.1 (Nat.le_zero.1 hfuel)
    rw [unify_nil]
    cases fuel' <;> exact .invalid
  | succ fuel ih =>
    cases t with
    | nil =>
      rw [unify_nil]
      cases fuel' <;> exact .invalid
    | cons c rest =>
      by_cases hc : c = '\r'
      · subst hc
        obtain ⟨u, hu⟩ := exists_unify_return rest
        rw [hu, List.length_cons] at hfuel'
        rw [hu]
        obtain ⟨fuel', rfl⟩ : ∃ n, fuel' = n + 1 := Nat.exists_eq_succ_of_ne_zero (by omega)
        exact .invalid
      rw [unify_cons hc, List.length_cons] at hfuel'
      rw [unify_cons hc, List.length_cons, List.length_cons]
      obtain ⟨fuel', rfl⟩ : ∃ n, fuel' = n + 1 := Nat.exists_eq_succ_of_ne_zero (by omega)
      have hfuel : rest.length ≤ fuel := Nat.le_of_succ_le_succ hfuel
      have hfuel' : (unifyLineBreaks rest).length ≤ fuel' := Nat.le_of_succ_le_succ hfuel'
      by_cases hquote : c = '"'
      · subst hquote
        exact .ok (Nat.lt_succ_self _) (Nat.lt_succ_self _)
      by_cases hslash : c = '\\'
      · subst hslash
        exact (agree_escape ih ‹_› hfuel').mono (Nat.le_succ _) (Nat.le_succ _)
      · rw [readString_cons hquote hslash, readString_cons hquote hslash]
        split
        · exact .invalid
        · exact ((ih hfuel hfuel').mono (Nat.le_succ _) (Nat.le_succ _)).map

/-! ### White space -/

theorem snd_skipSpace (pos : Nat) (t : Text) : (skipSpace pos t).2 = t.dropWhile isSpace := by
  induction t generalizing pos with
  | nil => rfl
  | cons c t ih =>
    rw [skipSpace, List.dropWhile_cons]
    split
    · exact ih _
    · rfl

/-- White space is skipped in both texts. -/
theorem exists_skipSpace_unify (pos pos' : Nat) (t : Text) :
    ∃ q q' u, skipSpace pos t = (q, u) ∧
      skipSpace pos' (unifyLineBreaks t) = (q', unifyLineBreaks u) ∧
      u.length ≤ t.length ∧ (unifyLineBreaks u).length ≤ (unifyLineBreaks t).length := by
  have hskip := snd_skipSpace pos t
  have hskip' := snd_skipSpace pos' (unifyLineBreaks t)
  rw [dropWhile_isSpace_unify] at hskip'
  refine ⟨(skipSpace pos t).1, (skipSpace pos' (unifyLineBreaks t)).1, t.dropWhile isSpace,
    Prod.ext rfl hskip, Prod.ext rfl hskip', (List.dropWhile_suffix _).length_le, ?_⟩
  rw [← dropWhile_isSpace_unify]
  exact (List.dropWhile_suffix _).length_le

/-! ### Values -/

/-- With fuel for the texts, whatever a text holds is read from it and from the one with unified
line breaks, or from none. -/
structure Agreeing (fuel : Nat) : Prop where
  /-- Values agree. -/
  value : ∀ {room pos pos' fuel' : Nat} {t : Text}, 2 * t.length + 1 ≤ fuel →
    2 * (unifyLineBreaks t).length + 1 ≤ fuel' →
    Agree t.length (unifyLineBreaks t).length (readValue fuel room pos t)
      (readValue fuel' room pos' (unifyLineBreaks t))
  /-- The items of lists agree. -/
  items : ∀ {room pos pos' fuel' : Nat} {t : Text}, 2 * t.length + 2 ≤ fuel →
    2 * (unifyLineBreaks t).length + 2 ≤ fuel' →
    Agree t.length (unifyLineBreaks t).length (readItems fuel room pos t)
      (readItems fuel' room pos' (unifyLineBreaks t))
  /-- The members of objects agree. -/
  members : ∀ {room pos pos' fuel' : Nat} {before : List (Text × Json)} {t : Text},
    2 * t.length + 2 ≤ fuel → 2 * (unifyLineBreaks t).length + 2 ≤ fuel' →
    Agree t.length (unifyLineBreaks t).length (readMembers fuel room before pos t)
      (readMembers fuel' room before pos' (unifyLineBreaks t))

/-- A text starts with a character other than a line break before and after. -/
theorem unify_ne_cons (hd : d ≠ '\n') (h : ∀ rest, t ≠ d :: rest) (rest : Text) :
    unifyLineBreaks t ≠ d :: rest := by
  intro hunify
  obtain ⟨u, rfl, -⟩ := exists_of_unify_eq_cons hunify hd
  exact h u rfl

variable {members : List (Text × Json)} {q q' : Nat}

theorem agree_afterItem (h : Agreeing fuel) (item : Json) (ht : 2 * t.length ≤ fuel)
    (ht' : 2 * (unifyLineBreaks t).length ≤ fuel') :
    Agree t.length (unifyLineBreaks t).length (afterItem fuel room item q t)
      (afterItem fuel' room item q' (unifyLineBreaks t)) := by
  rcases eq_cons_or_ne ']' t with ⟨rest, rfl⟩ | hclose
  · rw [unify_cons (by decide)]
    exact .ok (Nat.lt_succ_self _) (Nat.lt_succ_self _)
  rcases eq_cons_or_ne ',' t with ⟨rest, rfl⟩ | hcomma
  · rw [unify_cons (by decide)] at ht' ⊢
    rw [List.length_cons] at ht ht'
    obtain ⟨r, r', u, hskip, hskip', hu, hu'⟩ := exists_skipSpace_unify (q + 1) (q' + 1) rest
    simp only [afterItem, hskip, hskip']
    exact ((h.items (by omega) (by omega)).mono (Nat.le_succ_of_le hu) (Nat.le_succ_of_le hu')).map
  · rw [afterItem, afterItem]
    · exact .invalid
    · exact unify_ne_cons (by decide) hclose
    · exact unify_ne_cons (by decide) hcomma
    · exact hclose
    · exact hcomma

/-- Items agree if values and fewer items do. -/
theorem agree_readItems (h : Agreeing fuel) (hfuel : 2 * t.length + 2 ≤ fuel + 1)
    (hfuel' : 2 * (unifyLineBreaks t).length + 2 ≤ fuel' + 1) :
    Agree t.length (unifyLineBreaks t).length (readItems (fuel + 1) room pos t)
      (readItems (fuel' + 1) room pos' (unifyLineBreaks t)) := by
  rw [readItems_eq, readItems_eq]
  refine (h.value (by omega) (by omega)).bind fun item p p' rest hrest hrest' => ?_
  obtain ⟨q, q', u, hskip, hskip', hu, hu'⟩ := exists_skipSpace_unify p p' rest
  simp only [hskip, hskip']
  exact (agree_afterItem h item (by omega) (by omega)).mono (by omega) (by omega)

theorem agree_afterMember (h : Agreeing fuel) (members : List (Text × Json))
    (ht : 2 * t.length ≤ fuel) (ht' : 2 * (unifyLineBreaks t).length ≤ fuel') :
    Agree t.length (unifyLineBreaks t).length (afterMember fuel room members q t)
      (afterMember fuel' room members q' (unifyLineBreaks t)) := by
  rcases eq_cons_or_ne '\x7d' t with ⟨rest, rfl⟩ | hclose
  · rw [unify_cons (by decide)]
    exact .ok (Nat.lt_succ_self _) (Nat.lt_succ_self _)
  rcases eq_cons_or_ne ',' t with ⟨rest, rfl⟩ | hcomma
  · rw [unify_cons (by decide)] at ht' ⊢
    rw [List.length_cons] at ht ht'
    obtain ⟨r, r', u, hskip, hskip', hu, hu'⟩ := exists_skipSpace_unify (q + 1) (q' + 1) rest
    simp only [afterMember, hskip, hskip']
    exact (h.members (by omega) (by omega)).mono (Nat.le_succ_of_le hu) (Nat.le_succ_of_le hu')
  · rw [afterMember, afterMember]
    · exact .invalid
    · exact unify_ne_cons (by decide) hclose
    · exact unify_ne_cons (by decide) hcomma
    · exact hclose
    · exact hcomma

theorem agree_afterKey (h : Agreeing fuel) (members : List (Text × Json)) (key : Text)
    (ht : 2 * t.length ≤ fuel) (ht' : 2 * (unifyLineBreaks t).length ≤ fuel') :
    Agree t.length (unifyLineBreaks t).length (afterKey fuel room members key q t)
      (afterKey fuel' room members key q' (unifyLineBreaks t)) := by
  rcases eq_cons_or_ne ':' t with ⟨rest, rfl⟩ | hcolon
  · rw [unify_cons (by decide)] at ht' ⊢
    rw [List.length_cons] at ht ht'
    obtain ⟨r, r', u, hskip, hskip', hu, hu'⟩ := exists_skipSpace_unify (q + 1) (q' + 1) rest
    simp only [afterKey, hskip, hskip', List.length_cons]
    refine (h.value (by omega) (by omega)).bind fun value p p' v hv hv' => ?_
    obtain ⟨s, s', v', hskip, hskip', hle, hle'⟩ := exists_skipSpace_unify p p' v
    simp only [hskip, hskip']
    exact (agree_afterMember h _ (by omega) (by omega)).mono (by omega) (by omega)
  · rw [afterKey, afterKey]
    · exact .invalid
    · exact unify_ne_cons (by decide) hcolon
    · exact hcolon

/-- Members agree if values and fewer members do. -/
theorem agree_readMembers (h : Agreeing fuel) (hfuel : 2 * t.length + 2 ≤ fuel + 1)
    (hfuel' : 2 * (unifyLineBreaks t).length + 2 ≤ fuel' + 1) :
    Agree t.length (unifyLineBreaks t).length (readMembers (fuel + 1) room members pos t)
      (readMembers (fuel' + 1) room members pos' (unifyLineBreaks t)) := by
  rcases eq_cons_or_ne '"' t with ⟨rest, rfl⟩ | hquote
  · rw [unify_cons (by decide)] at hfuel' ⊢
    rw [List.length_cons] at hfuel hfuel'
    rw [readMembers_eq, readMembers_eq, List.length_cons, List.length_cons]
    refine (agree_readString (by omega) (by omega)).bind fun key p p' after hafter hafter' => ?_
    obtain ⟨q, q', u, hskip, hskip', hu, hu'⟩ := exists_skipSpace_unify p p' after
    simp only [hskip, hskip']
    exact (agree_afterKey h members key (by omega) (by omega)).mono (by omega) (by omega)
  · rw [readMembers_of_ne hquote, readMembers_of_ne (unify_ne_cons (by decide) hquote)]
    exact .invalid

/-- Lists agree if items do. -/
theorem agree_readValue_list (h : Agreeing fuel) (hfuel : 2 * t.length + 2 ≤ fuel)
    (hfuel' : 2 * (unifyLineBreaks t).length + 2 ≤ fuel') :
    Agree (t.length + 1) ((unifyLineBreaks t).length + 1) (readValue (fuel + 1) room pos ('[' :: t))
      (readValue (fuel' + 1) room pos' ('[' :: unifyLineBreaks t)) := by
  obtain ⟨q, q', u, hskip, hskip', hu, hu'⟩ := exists_skipSpace_unify (pos + 1) (pos' + 1) t
  cases room with
  | zero =>
    rw [readValue_list_tooDeep, readValue_list_tooDeep]
    exact .limit .tooDeep
  | succ room =>
    rcases eq_cons_or_ne ']' u with ⟨after, rfl⟩ | hopen
    · rw [unify_cons (by decide)] at hskip' hu'
      rw [readValue_list_empty hskip, readValue_list_empty hskip']
      exact .ok (Nat.lt_succ_of_lt hu) (Nat.lt_succ_of_lt hu')
    · rw [readValue_list hskip hopen, readValue_list hskip' (unify_ne_cons (by decide) hopen)]
      exact ((h.items (by omega) (by omega)).mono (Nat.le_succ_of_le hu)
        (Nat.le_succ_of_le hu')).map

/-- Objects agree if members do. -/
theorem agree_readValue_object (h : Agreeing fuel) (hfuel : 2 * t.length + 2 ≤ fuel)
    (hfuel' : 2 * (unifyLineBreaks t).length + 2 ≤ fuel') :
    Agree (t.length + 1) ((unifyLineBreaks t).length + 1)
      (readValue (fuel + 1) room pos ('\x7b' :: t))
      (readValue (fuel' + 1) room pos' ('\x7b' :: unifyLineBreaks t)) := by
  obtain ⟨q, q', u, hskip, hskip', hu, hu'⟩ := exists_skipSpace_unify (pos + 1) (pos' + 1) t
  cases room with
  | zero =>
    rw [readValue_object_tooDeep, readValue_object_tooDeep]
    exact .limit .tooDeep
  | succ room =>
    rcases eq_cons_or_ne '\x7d' u with ⟨after, rfl⟩ | hopen
    · rw [unify_cons (by decide)] at hskip' hu'
      rw [readValue_object_empty hskip, readValue_object_empty hskip']
      exact .ok (Nat.lt_succ_of_lt hu) (Nat.lt_succ_of_lt hu')
    · rw [readValue_object hskip hopen, readValue_object hskip' (unify_ne_cons (by decide) hopen)]
      exact ((h.members (by omega) (by omega)).mono (Nat.le_succ_of_le hu)
        (Nat.le_succ_of_le hu')).map

/-- Values agree if items and members do. -/
theorem agree_readValue (h : Agreeing fuel) (hfuel : 2 * t.length + 1 ≤ fuel + 1)
    (hfuel' : 2 * (unifyLineBreaks t).length + 1 ≤ fuel' + 1) :
    Agree t.length (unifyLineBreaks t).length (readValue (fuel + 1) room pos t)
      (readValue (fuel' + 1) room pos' (unifyLineBreaks t)) := by
  cases t with
  | nil =>
    rw [unify_nil, readValue_nil, readValue_nil]
    exact .invalid
  | cons c rest =>
    have hplain := agree_readPlain pos pos' (c :: rest)
    by_cases hc : c = '\r'
    · subst hc
      obtain ⟨u, hu⟩ := exists_unify_return rest
      rw [hu] at hplain ⊢
      rw [readValue_plain (by decide) (by decide) (by decide),
        readValue_plain (by decide) (by decide) (by decide)]
      exact hplain
    rw [unify_cons hc] at hfuel' hplain ⊢
    rw [List.length_cons] at hfuel hfuel'
    by_cases hquote : c = '"'
    · subst hquote
      rw [readValue_string, readValue_string]
      exact ((agree_readString (by omega) (by omega)).mono (by simp) (by simp)).map
    by_cases hlist : c = '['
    · subst hlist
      exact agree_readValue_list h (by omega) (by omega)
    by_cases hobject : c = '\x7b'
    · subst hobject
      exact agree_readValue_object h (by omega) (by omega)
    · rw [readValue_plain hquote hlist hobject, readValue_plain hquote hlist hobject]
      exact hplain

/-- **With enough fuel, whatever a text holds is read from it and from the one with unified line
breaks, or from none.** -/
theorem agreeing (fuel : Nat) : Agreeing fuel := by
  induction fuel with
  | zero => exact ⟨fun h => by omega, fun h => by omega, fun h => by omega⟩
  | succ fuel ih =>
    refine ⟨fun {room pos pos' fuel' t} h h' => ?_, fun {room pos pos' fuel' t} h h' => ?_,
      fun {room pos pos' fuel' before t} h h' => ?_⟩
    all_goals obtain ⟨fuel', rfl⟩ : ∃ n, fuel' = n + 1 := Nat.exists_eq_succ_of_ne_zero (by omega)
    · exact agree_readValue ih h h'
    · exact agree_readItems ih h h'
    · exact agree_readMembers ih h h'

/-! ### Documents -/

/-- Two readings of documents come to the same: a value, a fault, or a limit. -/
def Alike (x y : Except ReadError Json) : Prop :=
  (∃ j, x = .ok j ∧ y = .ok j) ∨
  (∃ fault offset offset', x = .error (.invalid fault offset) ∧
    y = .error (.invalid fault offset')) ∨
  ∃ e, x = .error e ∧ y = .error e

/-- Documents come to the same if their values do. -/
theorem Agree.alike {x y : Except ReadError (Json × Rest)} (h : Agree n m x y) :
    Alike (x >>= ended u) (y >>= ended (unifyLineBreaks u)) := by
  cases h with
  | @ok j p p' t _ _ =>
    have hempty : (unifyLineBreaks (t.dropWhile isSpace)).isEmpty =
        (t.dropWhile isSpace).isEmpty := by
      rw [Bool.eq_iff_iff, List.isEmpty_iff, List.isEmpty_iff, unify_eq_nil_iff]
    have hhalf : (halfPair? 0 0 (unifyLineBreaks u)).isSome = (halfPair? 0 0 u).isSome :=
      hasHalfPair_unify u
    change Alike (ended u (j, p, t)) (ended (unifyLineBreaks u) (j, p', unifyLineBreaks t))
    simp only [ended, snd_skipSpace, dropWhile_isSpace_unify, hempty]
    split
    · cases hbefore : halfPair? 0 0 u <;> cases hafter : halfPair? 0 0 (unifyLineBreaks u) <;>
        rw [hbefore, hafter] at hhalf
      · exact .inl ⟨j, rfl, rfl⟩
      · cases hhalf
      · cases hhalf
      · exact .inr (.inl ⟨_, _, _, rfl, rfl⟩)
    · exact .inr (.inl ⟨_, _, _, rfl, rfl⟩)
  | invalid => exact .inr (.inl ⟨_, _, _, rfl, rfl⟩)
  | limit e => exact .inr (.inr ⟨e, rfl, rfl⟩)

/-- **Line breaks do not matter**: a text and the one with unified line breaks hold the same
document, or both have the same fault, or both are beyond the same limit. -/
theorem alike_unify (t : Text) : Alike (read t) (read (unifyLineBreaks t)) := by
  rcases eq_cons_or_ne (Char.ofNat 0xfeff) t with ⟨rest, rfl⟩ | hmark
  · rw [unify_cons (by decide), read_mark, read_mark]
    exact .inr (.inr ⟨_, rfl, rfl⟩)
  · obtain ⟨q, q', u, hskip, hskip', hu, hu'⟩ := exists_skipSpace_unify 0 0 t
    rw [read_eq hmark, read_eq (unify_ne_cons (by decide) hmark)]
    simp only [hskip, hskip']
    exact ((agreeing _).value (by omega) (by omega)).alike

end Json

end SchemaStructs
