import SchemaStructs.Json.Reader

/-!
# Steps of the reader

What the reader does with the first part of a text, given what it does with the rest.  A text is
told apart by the character it starts with: the equations here are the cases of `Json.readString`,
`Json.readValue`, `Json.readItems` and `Json.readMembers`, and what stands between two parts has a
name of its own (`Json.afterItem`, `Json.afterKey`, `Json.afterMember`, `Json.readSecondHalf`).

Whatever is said of all texts, such as what two readings have in common or what a reading leaves, is
said of these parts one by one.
-/

namespace SchemaStructs

namespace Json

variable {t u rest hex : Text} {c d : Char} {pos start fuel room n q : Nat}

/-- A text starts with the character, or it does not. -/
theorem eq_cons_or_ne (d : Char) (t : Text) : (∃ rest, t = d :: rest) ∨ ∀ rest, t ≠ d :: rest := by
  by_cases h : ∃ rest, t = d :: rest
  · exact .inl h
  · exact .inr fun rest ht => h ⟨rest, ht⟩

/-! ### Escapes by number -/

/-- The character of a pair of escapes: the first one lies at `pos` and is the half `high`, and the
digits of the second one start `hex`.  Without digits that close the pair the half stands alone. -/
def readSecondHalf (high pos : Nat) (hex : Text) : Except ReadError (Char × Rest) :=
  match hexFour? hex with
  | none =>
    if hex.length ≤ 4 then .ok (Char.ofNat high, pos + 6, '\\' :: 'u' :: hex)
    else .error (.invalid .codePoint (pos + 7))
  | some (low, rest) =>
    if isLowSurrogate low then .ok (Char.ofNat (joinSurrogates high low), pos + 12, rest)
    else .ok (Char.ofNat high, pos + 6, '\\' :: 'u' :: hex)

theorem readCodePoint_none (h : hexFour? t = none) :
    readCodePoint pos t = .error (.invalid .codePoint (pos + 1)) := by
  rw [readCodePoint, h]

/-- An escape is a character by itself, unless it is a first half and another escape follows. -/
theorem readCodePoint_alone (h : hexFour? t = some (n, rest))
    (halone : isHighSurrogate n = true → ∀ hex, rest ≠ '\\' :: 'u' :: hex) :
    readCodePoint pos t = .ok (Char.ofNat n, pos + 6, rest) := by
  simp only [readCodePoint, h]
  split
  · next hhigh =>
    split
    · exact absurd rfl (halone hhigh _)
    · rfl
  · rfl

theorem readCodePoint_pair (h : hexFour? t = some (n, '\\' :: 'u' :: hex))
    (hhigh : isHighSurrogate n = true) : readCodePoint pos t = readSecondHalf n pos hex := by
  simp only [readCodePoint, h, hhigh, if_true]
  rfl

/-! ### Strings -/

theorem readString_codePoint (fuel : Nat) (hex : Text) :
    readString start (fuel + 1) pos ('\\' :: 'u' :: hex) =
      readCodePoint pos hex >>= fun (c, pos, rest) =>
        readString start fuel pos rest >>= fun (t, next) => pure (c :: t, next) := by
  rw [readString, if_neg (by decide), if_pos rfl]

theorem readString_escape (hd : d ≠ 'u') (fuel : Nat) (rest : Text) :
    readString start (fuel + 1) pos ('\\' :: d :: rest) =
      (shortEscape? d).elim (.error (.invalid .escape pos)) fun c =>
        readString start fuel (pos + 2) rest >>= fun (t, next) => pure (c :: t, next) := by
  rw [readString, if_neg (by decide), if_pos rfl]
  · cases shortEscape? d <;> rfl
  · exact hd

/-- A character that is neither a quote nor a backslash stands for itself, unless it is a control
character. -/
theorem readString_cons (hquote : c ≠ '"') (hslash : c ≠ '\\') (fuel : Nat) (rest : Text) :
    readString start (fuel + 1) pos (c :: rest) =
      if c.toNat < 0x20 then .error (.invalid .control pos)
      else readString start fuel (pos + 1) rest >>= fun (t, next) => pure (c :: t, next) := by
  rw [readString.eq_def]
  simp only [if_neg hquote, if_neg hslash]

/-! ### Lists and objects -/

/-- The list after one of its items: it ends or goes on. -/
def afterItem (fuel room : Nat) (item : Json) (pos : Nat) :
    Text → Except ReadError (List Json × Rest)
  | ']' :: rest => pure ([item], pos + 1, rest)
  | ',' :: rest =>
    readItems fuel room (skipSpace (pos + 1) rest).1 (skipSpace (pos + 1) rest).2 >>=
      fun (items, next) => pure (item :: items, next)
  | _ => .error (.invalid .expectingComma pos)

theorem readItems_eq (fuel room pos : Nat) (t : Text) : readItems (fuel + 1) room pos t =
    readValue fuel room pos t >>= fun (item, pos, rest) =>
      afterItem fuel room item (skipSpace pos rest).1 (skipSpace pos rest).2 := by
  rw [readItems]
  rfl

/-- The object after one of its members: it ends or goes on. -/
def afterMember (fuel room : Nat) (members : List (Text × Json)) (pos : Nat) :
    Text → Except ReadError (List (Text × Json) × Rest)
  | '\x7d' :: rest => pure (members, pos + 1, rest)
  | ',' :: rest =>
    readMembers fuel room members (skipSpace (pos + 1) rest).1 (skipSpace (pos + 1) rest).2
  | _ => .error (.invalid .expectingComma pos)

/-- The object after a key: a colon, the value, and what follows the member. -/
def afterKey (fuel room : Nat) (members : List (Text × Json)) (key : Text) (pos : Nat) :
    Text → Except ReadError (List (Text × Json) × Rest)
  | ':' :: rest =>
    readValue fuel room (skipSpace (pos + 1) rest).1 (skipSpace (pos + 1) rest).2 >>=
      fun (value, pos, rest) =>
        afterMember fuel room (insert members key value) (skipSpace pos rest).1
          (skipSpace pos rest).2
  | _ => .error (.invalid .expectingColon pos)

theorem readMembers_eq (fuel room pos : Nat) (members : List (Text × Json)) (rest : Text) :
    readMembers (fuel + 1) room members pos ('"' :: rest) =
      readString pos fuel (pos + 1) rest >>= fun (key, pos, rest) =>
        afterKey fuel room members key (skipSpace pos rest).1 (skipSpace pos rest).2 := by
  rw [readMembers]
  rfl

theorem readMembers_of_ne (h : ∀ rest, t ≠ '"' :: rest) (members : List (Text × Json)) :
    readMembers (fuel + 1) room members pos t = .error (.invalid .expectingKey pos) := by
  rw [readMembers]
  exact h

/-! ### Values -/

theorem readValue_nil :
    readValue (fuel + 1) room pos [] = .error (.invalid .expectingValue pos) := by
  rw [readValue]
  exact Nat.succ_ne_zero fuel

theorem readValue_string (fuel room pos : Nat) (rest : Text) :
    readValue (fuel + 1) room pos ('"' :: rest) =
      readString pos fuel (pos + 1) rest >>= fun (t, next) => pure (.str t, next) := by
  rw [readValue, if_pos rfl]

theorem readValue_list_tooDeep :
    readValue (fuel + 1) 0 pos ('[' :: t) = .error .tooDeep := by
  rw [readValue, if_neg (by decide), if_pos rfl]

theorem readValue_list_empty (hskip : skipSpace (pos + 1) t = (q, ']' :: rest)) :
    readValue (fuel + 1) (room + 1) pos ('[' :: t) = .ok (.arr [], q + 1, rest) := by
  rw [readValue, if_neg (by decide), if_pos rfl, hskip]
  rfl

/-- A list that is not empty is read item by item. -/
theorem readValue_list (hskip : skipSpace (pos + 1) t = (q, u)) (hopen : ∀ rest, u ≠ ']' :: rest) :
    readValue (fuel + 1) (room + 1) pos ('[' :: t) =
      readItems fuel room q u >>= fun (items, next) => pure (.arr items, next) := by
  rw [readValue, if_neg (by decide), if_pos rfl, hskip]
  dsimp only
  split
  · cases ‹room + 1 = 0›
  · exact absurd rfl (hopen _)
  · rename_i hroom _
    obtain rfl := Nat.succ.inj hroom
    rfl

theorem readValue_object_tooDeep :
    readValue (fuel + 1) 0 pos ('\x7b' :: t) = .error .tooDeep := by
  rw [readValue, if_neg (by decide), if_neg (by decide), if_pos rfl]

theorem readValue_object_empty (hskip : skipSpace (pos + 1) t = (q, '\x7d' :: rest)) :
    readValue (fuel + 1) (room + 1) pos ('\x7b' :: t) = .ok (.obj [], q + 1, rest) := by
  rw [readValue, if_neg (by decide), if_neg (by decide), if_pos rfl, hskip]
  rfl

/-- An object that is not empty is read member by member. -/
theorem readValue_object (hskip : skipSpace (pos + 1) t = (q, u))
    (hopen : ∀ rest, u ≠ '\x7d' :: rest) :
    readValue (fuel + 1) (room + 1) pos ('\x7b' :: t) =
      readMembers fuel room [] q u >>= fun (members, next) => pure (.obj members, next) := by
  rw [readValue, if_neg (by decide), if_neg (by decide), if_pos rfl, hskip]
  dsimp only
  split
  · cases ‹room + 1 = 0›
  · exact absurd rfl (hopen _)
  · rename_i hroom _
    obtain rfl := Nat.succ.inj hroom
    rfl

/-- What is neither a string, a list nor an object is a word or a number. -/
theorem readValue_plain (hquote : c ≠ '"') (hlist : c ≠ '[') (hobject : c ≠ '\x7b') :
    readValue (fuel + 1) room pos (c :: rest) = readPlain pos (c :: rest) := by
  rw [readValue, if_neg hquote, if_neg hlist, if_neg hobject]

/-! ### Documents -/

/-- The document with the value that was read, if nothing but white space follows it and it has no
escape of half of a surrogate pair. -/
def ended (doc : Text) : Json × Rest → Except ReadError Json
  | (value, pos, rest) =>
    if (skipSpace pos rest).2.isEmpty then
      match halfPair? 0 0 doc with
      | some offset => .error (.invalid .halfPair offset)
      | none => pure value
    else .error (.invalid .extraData (skipSpace pos rest).1)

theorem ended_eq_ok_iff {j value : Json} : ended t (value, pos, rest) = .ok j ↔
    (skipSpace pos rest).2 = [] ∧ halfPair? 0 0 t = none ∧ value = j := by
  rw [ended, ← List.isEmpty_iff]
  split
  · rename_i hempty
    cases halfPair? 0 0 t with
    | some offset => simp
    | none => simp [hempty, pure, Except.pure]
  · rename_i hrest
    refine iff_of_false (fun h => ?_) fun h => hrest h.1
    cases h

theorem read_mark (rest : Text) :
    read (Char.ofNat 0xfeff :: rest) = .error (.invalid .byteOrderMark 0) :=
  if_pos rfl

theorem read_eq (hmark : ∀ rest, t ≠ Char.ofNat 0xfeff :: rest) : read t =
    readValue (2 * t.length + 2) maxDepth (skipSpace 0 t).1 (skipSpace 0 t).2 >>= ended t := by
  have hhead : t.head? ≠ some (Char.ofNat 0xfeff) := fun h => by
    obtain ⟨rest, rfl⟩ := List.head?_eq_some_iff.1 h
    exact hmark rest rfl
  rw [read, if_neg hhead]
  rfl

end Json

end SchemaStructs
