import SchemaStructs.Text.Basic

/-!
# Pieces of a text

Cutting a text at separators is the splitting of lists of the standard library
(`Text.splitWhere_eq_splitOnP`), so the lemmas on that apply.
-/

namespace SchemaStructs

namespace Text

variable {sep : Char → Bool} {c : Char} {t : Text}

/-- What stands before the first occurrence of a character and what follows it can be read back. -/
theorem append_cons_inj {l l' t t' : Text} (hl : c ∉ l) (hl' : c ∉ l')
    (h : l ++ c :: t = l' ++ c :: t') : l = l' ∧ t = t' := by
  induction l generalizing l' with
  | nil =>
    cases l' with
    | nil => exact ⟨rfl, (List.cons.inj h).2⟩
    | cons b l' => exact absurd ((List.cons.inj h).1 ▸ List.mem_cons_self) hl'
  | cons a l ih =>
    cases l' with
    | nil => exact absurd ((List.cons.inj h).1 ▸ List.mem_cons_self) hl
    | cons b l' =>
      obtain ⟨rfl, hrest⟩ := List.cons.inj h
      obtain ⟨rfl, rfl⟩ := ih (fun hm => hl (List.mem_cons_of_mem _ hm))
        (fun hm => hl' (List.mem_cons_of_mem _ hm)) hrest
      exact ⟨rfl, rfl⟩

theorem splitWhere_eq_splitOnP (sep : Char → Bool) (t : Text) :
    splitWhere sep t = t.splitOnP sep := by
  induction t with
  | nil => simp [splitWhere]
  | cons c rest ih =>
    rw [List.splitOnP_cons_eq_if_modifyHead, ← ih, splitWhere]
    split
    · rfl
    · cases hpieces : splitWhere sep rest with
      | nil => exact absurd (ih ▸ hpieces) (List.splitOnP_ne_nil sep rest)
      | cons piece pieces => rfl

theorem splitOn_eq_splitOn (c : Char) (t : Text) : splitOn c t = List.splitOn c t :=
  splitWhere_eq_splitOnP _ t

theorem forall_beq_eq_false (h : c ∉ t) : ∀ d ∈ t, (d == c) = false := fun d hd => by
  rw [beq_eq_false_iff_ne]
  rintro rfl
  exact h hd

/-- A text without the separator is one piece. -/
theorem splitOn_eq_singleton (h : c ∉ t) : splitOn c t = [t] := by
  rw [splitOn_eq_splitOn, List.splitOn, List.splitOnP_eq_singleton (forall_beq_eq_false h)]

/-- A text ends at the first separator. -/
theorem splitOn_append_cons (h : c ∉ t) (rest : Text) :
    splitOn c (t ++ c :: rest) = t :: splitOn c rest := by
  rw [splitOn_eq_splitOn, splitOn_eq_splitOn, List.splitOn, List.splitOn,
    List.splitOnP_append_cons_of_forall_mem (forall_beq_eq_false h) c (beq_self_eq_true c)]

/-- A piece consists of characters of the text that are no separators. -/
theorem of_mem_splitWhere {piece : Text} (hp : piece ∈ splitWhere sep t) (hc : c ∈ piece) :
    c ∈ t ∧ sep c = false := by
  induction t generalizing piece with
  | nil =>
    rw [splitWhere, List.mem_singleton] at hp
    subst hp
    cases hc
  | cons d rest ih =>
    have hrest : ∀ {p}, p ∈ splitWhere sep rest → c ∈ p → c ∈ d :: rest ∧ sep c = false :=
      fun hp hc => (ih hp hc).imp_left (List.mem_cons_of_mem d)
    rw [splitWhere] at hp
    split at hp
    · rcases List.mem_cons.1 hp with rfl | hp
      · cases hc
      · exact hrest hp hc
    · rename_i hd
      -- the character starts the first piece of the rest
      cases hpieces : splitWhere sep rest with
      | nil =>
        exact absurd (splitWhere_eq_splitOnP sep rest ▸ hpieces) (List.splitOnP_ne_nil sep rest)
      | cons first others =>
        rw [hpieces] at hp
        rcases List.mem_cons.1 hp with rfl | hp
        · rcases List.mem_cons.1 hc with rfl | hc
          · exact ⟨List.mem_cons_self, by simpa using hd⟩
          · exact hrest (hpieces ▸ List.mem_cons_self) hc
        · exact hrest (hpieces ▸ List.mem_cons_of_mem first hp) hc

/-- What is made of each character of a text is made of its pieces, if nothing is made of the
separators. -/
theorem flatMap_splitWhere {f : Char → Text} (hf : ∀ c, sep c = true → f c = []) (t : Text) :
    ((splitWhere sep t).flatMap fun piece => piece.flatMap f) = t.flatMap f := by
  induction t with
  | nil => rfl
  | cons c rest ih =>
    rw [splitWhere, List.flatMap_cons, ← ih]
    split
    · rw [List.flatMap_cons, hf c ‹_›]
      rfl
    · cases splitWhere sep rest with
      | nil => simp
      | cons piece pieces => simp [List.append_assoc]

/-- The first piece of a text, and the other ones with their separators, are the text. -/
theorem exists_of_splitOn (sep : Char) (t : Text) :
    ∃ first others, splitOn sep t = first :: others ∧
      t = first ++ others.flatMap (sep :: ·) := by
  induction t with
  | nil => exact ⟨[], [], rfl, rfl⟩
  | cons c rest ih =>
    obtain ⟨first, others, hsplit, htext⟩ := ih
    rw [splitOn] at hsplit
    rw [splitOn, splitWhere, hsplit]
    split
    · rename_i hc
      refine ⟨[], first :: others, rfl, ?_⟩
      rw [List.nil_append, List.flatMap_cons, List.cons_append, ← htext, beq_iff_eq.1 hc]
    · exact ⟨c :: first, others, rfl, by rw [List.cons_append, ← htext]⟩

end Text

end SchemaStructs
