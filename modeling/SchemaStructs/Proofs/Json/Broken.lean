import SchemaStructs.Proofs.Json.Number
import SchemaStructs.Proofs.Json.Steps

/-!
# Texts that are no documents

A JSON document has closing parentheses inside of strings only, and there they are not followed by
the end of the line.  So a text in which a closing parenthesis ends a line is no document
(`Json.read_ne_ok`), whatever stands before and after it.

The parts of the reader are followed with what they leave: none of them passes over a broken place
(`Json.Broken`) and goes on.  Readings of which this holds (`Json.Defers`) are put together to others
(`Json.Defers.bind`), and so it holds of all by induction on the fuel (`Json.leaves_all`).
-/

namespace SchemaStructs

namespace Json

/-- A closing parenthesis ends a line. -/
def Broken (t : Text) : Prop := [')', '\n'] <:+: t

variable {t u rest : Text} {c : Char} {pos : Nat} {fuel room start : Nat} {j : Json}

theorem not_broken_nil : ¬ Broken [] := by simp [Broken]

theorem Broken.cons (h : Broken t) : Broken (c :: t) := List.infix_cons h

/-- A broken place that does not start with the first character lies in the rest. -/
theorem broken_cons_iff :
    Broken (c :: t) ↔ c = ')' ∧ ['\n'] <+: t ∨ Broken t := by
  rw [Broken, List.infix_cons_iff, List.cons_prefix_cons, eq_comm]
  rfl

theorem Broken.of_cons (h : Broken (c :: t)) (hc : c ≠ ')') : Broken t :=
  (broken_cons_iff.1 h).resolve_left fun hfirst => hc hfirst.1

theorem Broken.of_append (h : Broken (u ++ t)) (hu : ')' ∉ u) : Broken t := by
  induction u with
  | nil => exact h
  | cons c u ih =>
    rw [List.mem_cons, not_or] at hu
    exact ih (h.of_cons (Ne.symm hu.1)) hu.2

theorem broken_skipSpace (h : Broken t) : Broken (skipSpace pos t).2 := by
  induction t generalizing pos with
  | nil => exact h
  | cons c rest ih =>
    rw [skipSpace]
    split
    · refine ih (h.of_cons ?_)
      rintro rfl
      exact absurd ‹isSpace ')' = true› (by decide)
    · exact h

theorem broken_of_skipSpace {q : Nat} (h : Broken t) (hskip : skipSpace pos t = (q, u)) :
    Broken u := by
  have hbroken : Broken (skipSpace pos t).2 := broken_skipSpace h
  rwa [hskip] at hbroken

/-! ### Readings that leave a broken place -/

/-- The reading of a text leaves a broken place of it for later. -/
def Defers {α : Type} (t : Text) (x : Except ReadError (α × Rest)) : Prop :=
  ∀ a next, Broken t → x = .ok (a, next) → Broken next.2

namespace Defers

variable {α β : Type} {x : Except ReadError (α × Rest)} {a : α}

theorem error {e : ReadError} : Defers (α := α) t (.error e) := fun _ _ _ h => by cases h

theorem ok (h : Broken t → Broken rest) : Defers t (.ok (a, pos, rest)) := fun _ _ ht hok => by
  cases hok
  exact h ht

/-- Nothing is said of a text that is not broken. -/
theorem imp (hx : Defers u x) (h : Broken t → Broken u) : Defers t x :=
  fun a next ht => hx a next (h ht)

theorem cons (hx : Defers t x) (hc : c ≠ ')') : Defers (c :: t) x := hx.imp fun h => h.of_cons hc

theorem skip (hx : Defers (skipSpace pos t).2 x) : Defers t x := hx.imp broken_skipSpace

/-- What goes on with the rest of a text leaves what the first part has left. -/
theorem bind {f : α × Rest → Except ReadError (β × Rest)} (hx : Defers t x)
    (hf : ∀ a pos rest, Defers rest (f (a, pos, rest))) : Defers t (x >>= f) := by
  intro b next ht h
  obtain ⟨⟨a, pos, rest⟩, hfirst, hrest⟩ := bind_eq_ok_iff.1 h
  exact hf a pos rest b next (hx a (pos, rest) ht hfirst) hrest

theorem map {f : α → β} (hx : Defers t x) :
    Defers t (x >>= fun (a, next) => pure (f a, next)) :=
  hx.bind fun _ _ _ => .ok id

end Defers

/-! ### Strings -/

theorem ne_of_hexDigit? {n : Nat} (h : Text.hexDigit? c = some n) : c ≠ ')' := by
  rintro rfl
  cases h

theorem broken_hexFour? {n : Nat} (h : Broken t) (hread : hexFour? t = some (n, rest)) :
    Broken rest := by
  unfold hexFour? at hread
  split at hread
  · split at hread
    · cases hread
    · split at hread
      · rename_i ha hb hc hd
        obtain ⟨-, rfl⟩ := Prod.mk.inj (Option.some.inj hread)
        exact (((h.of_cons (ne_of_hexDigit? ha)).of_cons (ne_of_hexDigit? hb)).of_cons
          (ne_of_hexDigit? hc)).of_cons (ne_of_hexDigit? hd)
      · cases hread
  · cases hread

theorem defers_readSecondHalf (high pos : Nat) (hex : Text) :
    Defers ('\\' :: 'u' :: hex) (readSecondHalf high pos hex) := by
  unfold readSecondHalf
  split
  · split
    · exact .ok id
    · exact .error
  · rename_i low rest hlow
    split
    · exact .ok fun h => broken_hexFour? ((h.of_cons (by decide)).of_cons (by decide)) hlow
    · exact .ok id

theorem defers_readCodePoint (pos : Nat) (t : Text) : Defers t (readCodePoint pos t) := by
  cases hfour : hexFour? t with
  | none =>
    rw [readCodePoint_none hfour]
    exact .error
  | some found =>
    obtain ⟨n, rest⟩ := found
    by_cases hpair : isHighSurrogate n = true ∧ ∃ hex, rest = '\\' :: 'u' :: hex
    · obtain ⟨hhigh, hex, rfl⟩ := hpair
      rw [readCodePoint_pair hfour hhigh]
      exact (defers_readSecondHalf n pos hex).imp fun h => broken_hexFour? h hfour
    · rw [readCodePoint_alone hfour fun hhigh hex h => hpair ⟨hhigh, hex, h⟩]
      exact .ok fun h => broken_hexFour? h hfour

theorem ne_of_shortEscape? {d : Char} (h : shortEscape? c = some d) : c ≠ ')' := by
  rintro rfl
  cases h

/-- A string does not go on at the end of a line. -/
theorem readString_newline_ne_ok {s : Text} {next : Rest} (ht : ['\n'] <+: t) :
    readString start fuel pos t ≠ .ok (s, next) := by
  obtain ⟨after, rfl⟩ := ht
  cases fuel with
  | zero => exact nofun
  | succ fuel =>
    have hcontrol : readString start (fuel + 1) pos ('\n' :: after) =
        .error (.invalid .control pos) := rfl
    exact hcontrol ▸ nofun

/-- **A string is not broken**: reading one leaves a broken place for later. -/
theorem defers_readString (start fuel pos : Nat) (t : Text) :
    Defers t (readString start fuel pos t) := by
  fun_induction readString start fuel pos t with
  | case1 => exact .error
  | case2 => exact .error
  | case3 fuel pos rest => exact .ok fun h => h.of_cons (by decide)
  | case4 => exact .error
  | case5 fuel pos hex hc ih =>
    refine Defers.cons (.cons ?_ (by decide)) (by decide)
    exact (defers_readCodePoint pos hex).bind fun c pos rest => (ih pos rest).map
  | case6 => exact .error
  | case7 fuel pos e rest he c hshort hc ih =>
    exact .cons (ih.map.cons (ne_of_shortEscape? hshort)) (by decide)
  | case8 => exact .error
  | case9 fuel pos c rest hquote hescape hcontrol ih =>
    intro s next h hread
    -- a parenthesis at the end of a line would be followed by a control character
    rcases broken_cons_iff.1 h with ⟨-, hline⟩ | h
    · obtain ⟨⟨t, next'⟩, hrest, -⟩ := bind_eq_ok_iff.1 hread
      exact absurd hrest (readString_newline_ne_ok hline)
    · exact ih.map s next h hread

/-! ### Numbers and words -/

theorem broken_digitRun (h : Broken t) : Broken (digitRun t).2 := by
  rw [digitRun]
  induction t with
  | nil => exact h
  | cons c t ih =>
    rw [List.dropWhile_cons]
    split
    · refine ih (h.of_cons ?_)
      rintro rfl
      exact absurd ‹Char.isDigit ')' = true› (by decide)
    · exact h

theorem broken_fractionPart (h : Broken t) : Broken (fractionPart t).2 := by
  unfold fractionPart
  split
  · dsimp only
    split
    · exact h
    · exact broken_digitRun (h.of_cons (by decide))
  · exact h

theorem broken_exponentSign (h : Broken t) : Broken (exponentSign t).2.2 := by
  unfold exponentSign
  split
  · exact h.of_cons (by decide)
  · exact h.of_cons (by decide)
  · exact h

theorem broken_exponentDigits {sign : Bool × Nat × Text} {part : Bool × Text × Nat × Text}
    (h : Broken sign.2.2) (hread : exponentDigits sign = some part) : Broken part.2.2.2 := by
  obtain ⟨negative, size, rest⟩ := sign
  dsimp only [exponentDigits] at hread
  split at hread
  · cases hread
  · cases hread
    exact broken_digitRun h

theorem broken_exponentPart {part : Bool × Text × Nat × Text} (h : Broken t)
    (hread : exponentPart t = some part) : Broken part.2.2.2 := by
  cases t with
  | nil => exact absurd h not_broken_nil
  | cons e after =>
    rw [exponentPart_eq] at hread
    split at hread
    · have hafter : Broken after := by
        refine h.of_cons ?_
        rintro rfl
        exact absurd ‹(')' == 'e' || ')' == 'E') = true› (by decide)
      exact broken_exponentDigits (broken_exponentSign hafter) hread
    · cases hread

theorem broken_wholePart {whole : Text} (h : Broken t) (hread : wholePart t = some (whole, rest)) :
    Broken rest := by
  unfold wholePart at hread
  split at hread
  · cases hread
    exact h.of_cons (by decide)
  · dsimp only at hread
    split at hread
    · cases hread
    · cases hread
      exact broken_digitRun h

theorem broken_signPart (h : Broken t) : Broken (signPart t).2.2 := by
  unfold signPart
  split
  · exact h.of_cons (by decide)
  · exact h

theorem defers_readNumber (pos : Nat) (t : Text) : Defers t (readNumber pos t) := by
  rw [readNumber_eq, readUnsigned]
  split
  · exact .error
  · rename_i whole after hwhole
    have hafter (h : Broken t) : Broken (fractionPart after).2 :=
      broken_fractionPart (broken_wholePart (broken_signPart h) hwhole)
    dsimp only
    split
    · exact .ok fun h => broken_exponentPart (hafter h) ‹_›
    · split
      · split
        · exact .error
        · exact .ok hafter
      · exact .ok hafter

theorem defers_readPlain (pos : Nat) (t : Text) : Defers t (readPlain pos t) := by
  have hwords : ∀ p ∈ words, ')' ∉ p.1 := by decide +kernel
  unfold readPlain
  split
  · rename_i word value hfound
    refine .ok fun h => ?_
    have hprefix : word.isPrefixOf t = true := by simpa using List.find?_some hfound
    obtain ⟨after, rfl⟩ := List.isPrefixOf_iff_prefix.1 hprefix
    rw [List.drop_left]
    exact h.of_append (hwords _ (List.mem_of_find?_eq_some hfound))
  · exact defers_readNumber pos t

/-! ### Values -/

/-- The reader of a part leaves a broken place for later. -/
def Leaves {α : Type} (reader : Nat → Text → Except ReadError (α × Rest)) : Prop :=
  ∀ pos t a next, Broken t → reader pos t = .ok (a, next) → Broken next.2

theorem Leaves.defers {α : Type} {reader : Nat → Text → Except ReadError (α × Rest)}
    (h : Leaves reader) (pos : Nat) (t : Text) : Defers t (reader pos t) := h pos t

variable {members : List (Text × Json)}

theorem defers_list (hitems : ∀ room, Leaves (readItems fuel room)) (room pos : Nat) (t : Text) :
    Defers ('[' :: t) (readValue (fuel + 1) room pos ('[' :: t)) := by
  obtain ⟨q, u, hskip⟩ : ∃ q u, skipSpace (pos + 1) t = (q, u) := ⟨_, _, rfl⟩
  have hu (h : Broken ('[' :: t)) : Broken u := broken_of_skipSpace (h.of_cons (by decide)) hskip
  cases room with
  | zero =>
    rw [readValue_list_tooDeep]
    exact .error
  | succ room =>
    rcases eq_cons_or_ne ']' u with ⟨rest, rfl⟩ | hopen
    · rw [readValue_list_empty hskip]
      exact .ok fun h => (hu h).of_cons (by decide)
    · rw [readValue_list hskip hopen]
      exact ((hitems room).defers q u).map.imp hu

theorem defers_object (hmembers : ∀ room members, Leaves (readMembers fuel room members))
    (room pos : Nat) (t : Text) :
    Defers ('\x7b' :: t) (readValue (fuel + 1) room pos ('\x7b' :: t)) := by
  obtain ⟨q, u, hskip⟩ : ∃ q u, skipSpace (pos + 1) t = (q, u) := ⟨_, _, rfl⟩
  have hu (h : Broken ('\x7b' :: t)) : Broken u :=
    broken_of_skipSpace (h.of_cons (by decide)) hskip
  cases room with
  | zero =>
    rw [readValue_object_tooDeep]
    exact .error
  | succ room =>
    rcases eq_cons_or_ne '\x7d' u with ⟨rest, rfl⟩ | hopen
    · rw [readValue_object_empty hskip]
      exact .ok fun h => (hu h).of_cons (by decide)
    · rw [readValue_object hskip hopen]
      exact ((hmembers room []).defers q u).map.imp hu

theorem leaves_readValue (hitems : ∀ room, Leaves (readItems fuel room))
    (hmembers : ∀ room members, Leaves (readMembers fuel room members)) (room : Nat) :
    Leaves (readValue (fuel + 1) room) := by
  intro pos t
  change Defers t (readValue (fuel + 1) room pos t)
  cases t with
  | nil =>
    rw [readValue_nil]
    exact .error
  | cons c rest =>
    by_cases hquote : c = '"'
    · subst hquote
      rw [readValue_string]
      exact (defers_readString pos fuel (pos + 1) rest).map.cons (by decide)
    by_cases hlist : c = '['
    · subst hlist
      exact defers_list hitems room pos rest
    by_cases hobject : c = '\x7b'
    · subst hobject
      exact defers_object hmembers room pos rest
    · rw [readValue_plain hquote hlist hobject]
      exact defers_readPlain pos (c :: rest)

theorem defers_afterItem (hitems : Leaves (readItems fuel room)) (item : Json) (pos : Nat)
    (t : Text) : Defers t (afterItem fuel room item pos t) := by
  unfold afterItem
  split
  · exact .ok fun h => h.of_cons (by decide)
  · exact (hitems.defers _ _).map.skip.cons (by decide)
  · exact .error

theorem leaves_readItems (hvalue : Leaves (readValue fuel room))
    (hitems : Leaves (readItems fuel room)) : Leaves (readItems (fuel + 1) room) := by
  intro pos t
  change Defers t (readItems (fuel + 1) room pos t)
  rw [readItems_eq]
  exact (hvalue.defers pos t).bind fun item pos rest => (defers_afterItem hitems item _ _).skip

theorem defers_afterMember (hmembers : ∀ members, Leaves (readMembers fuel room members))
    (members : List (Text × Json)) (pos : Nat) (t : Text) :
    Defers t (afterMember fuel room members pos t) := by
  unfold afterMember
  split
  · exact .ok fun h => h.of_cons (by decide)
  · exact ((hmembers members).defers _ _).skip.cons (by decide)
  · exact .error

theorem defers_afterKey (hvalue : Leaves (readValue fuel room))
    (hmembers : ∀ members, Leaves (readMembers fuel room members))
    (members : List (Text × Json)) (key : Text) (pos : Nat) (t : Text) :
    Defers t (afterKey fuel room members key pos t) := by
  unfold afterKey
  split
  · refine Defers.cons ?_ (by decide)
    exact ((hvalue.defers _ _).bind fun value pos rest =>
      (defers_afterMember hmembers _ _ _).skip).skip
  · exact .error

theorem leaves_readMembers (hvalue : Leaves (readValue fuel room))
    (hmembers : ∀ members, Leaves (readMembers fuel room members)) :
    Leaves (readMembers (fuel + 1) room members) := by
  intro pos t
  change Defers t (readMembers (fuel + 1) room members pos t)
  rcases eq_cons_or_ne '"' t with ⟨rest, rfl⟩ | hquote
  · rw [readMembers_eq]
    refine Defers.cons ?_ (by decide)
    exact (defers_readString pos fuel (pos + 1) rest).bind fun key pos rest =>
      (defers_afterKey hvalue hmembers members key _ _).skip
  · rw [readMembers_of_ne hquote]
    exact .error

/-- **A value is not broken**: the reader leaves a broken place for later. -/
theorem leaves_all (fuel : Nat) :
    (∀ room, Leaves (readValue fuel room)) ∧ (∀ room, Leaves (readItems fuel room)) ∧
      ∀ room members, Leaves (readMembers fuel room members) := by
  induction fuel with
  | zero =>
    refine ⟨fun room pos t j next _ hread => ?_, fun room pos t items next _ hread => ?_,
      fun room members pos t members' next _ hread => ?_⟩
    · rw [readValue] at hread
      cases hread
    · rw [readItems] at hread
      cases hread
    · rw [readMembers] at hread
      cases hread
  | succ fuel ih =>
    obtain ⟨hvalue, hitems, hmembers⟩ := ih
    exact ⟨leaves_readValue hitems hmembers,
      fun room => leaves_readItems (hvalue room) (hitems room),
      fun room _ => leaves_readMembers (hvalue room) (hmembers room)⟩

/-- **A broken text is no document.** -/
theorem read_ne_ok (h : Broken t) : read t ≠ .ok j := by
  intro hread
  rcases eq_cons_or_ne (Char.ofNat 0xfeff) t with ⟨rest, rfl⟩ | hmark
  · rw [read_mark] at hread
    cases hread
  · rw [read_eq hmark] at hread
    obtain ⟨⟨value, pos, rest⟩, hvalue, hread⟩ := bind_eq_ok_iff.1 hread
    have hrest : Broken (skipSpace pos rest).2 :=
      broken_skipSpace ((leaves_all _).1 _ _ _ _ _ (broken_skipSpace h) hvalue)
    rw [(ended_eq_ok_iff.1 hread).1] at hrest
    exact not_broken_nil hrest

end Json

end SchemaStructs
