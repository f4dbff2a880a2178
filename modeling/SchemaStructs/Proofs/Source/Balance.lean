import SchemaStructs.Source.Balance

/-!
# Parts of a balanced source

The check of a source can be made part by part: a part takes it from one zone and depth to another
one, whatever follows (`Source.Passes`).  Inert characters change nothing, a brace changes the depth
by one, and a raw string or a comment is passed over as a whole.
-/

namespace SchemaStructs

namespace Source

/-- The check passes over the text from one zone and depth to another one. -/
def Passes (before : Zone) (depth : Nat) (t : Text) (after : Zone) (depth' : Nat) : Prop :=
  ∀ line rest, ∃ line',
    checkFrom before depth line (t ++ rest) = checkFrom after depth' line' rest

/-- The character changes neither zone nor depth in code. -/
def isInert (c : Char) : Bool := c != '`' && c != '/' && c != '\x7b' && c != '\x7d'

variable {z z' z'' : Zone} {m n k : Nat} {s t : Text} {c : Char}

theorem Passes.nil : Passes z m [] z m := fun line _ => ⟨line, rfl⟩

theorem Passes.append (hs : Passes z m s z' n) (ht : Passes z' n t z'' k) :
    Passes z m (s ++ t) z'' k := fun line rest => by
  obtain ⟨line', hs⟩ := hs line (t ++ rest)
  obtain ⟨line'', ht⟩ := ht line' rest
  exact ⟨line'', by rw [List.append_assoc, hs, ht]⟩

/-- A source that passes as a whole is balanced. -/
theorem Passes.check_eq (h : Passes .code 0 t .code 0) : check t = .ok () := by
  obtain ⟨line', h⟩ := h 1 []
  rw [List.append_nil] at h
  exact h

/-! ### Characters -/

/-- A character that does not count as a brace changes the zone at most. -/
theorem passes_char {own : Zone} (hown : ∀ next, z.enter c next = own) (hleave : z.leave own c = z')
    (hbrace : own = .code → c ≠ '\x7b' ∧ c ≠ '\x7d') : Passes z n [c] z' n := fun line rest => by
  have hopen : ¬(own = .code ∧ c = '\x7b') := fun h => (hbrace h.1).1 h.2
  have hclose : ¬(own = .code ∧ c = '\x7d') := fun h => (hbrace h.1).2 h.2
  refine ⟨if c = '\n' then line + 1 else line, ?_⟩
  obtain rfl := hown rest.head?
  obtain rfl := hleave
  exact (if_neg hopen).trans (if_neg hclose)

theorem passes_inert_char (h : isInert c = true) : Passes .code n [c] .code n := by
  simp only [isInert, Bool.and_eq_true, bne_iff_ne] at h
  obtain ⟨⟨⟨htick, hslash⟩, hopen⟩, hclose⟩ := h
  exact passes_char (fun _ => (if_neg htick).trans (if_neg fun h => hslash h.1)) rfl
    fun _ => ⟨hopen, hclose⟩

theorem passes_raw_char (h : c ≠ '`') : Passes .raw n [c] .raw n :=
  passes_char (fun _ => rfl) (if_neg fun hleave => h hleave.2) (fun hcode => by cases hcode)

theorem passes_comment_char (h : c ≠ '\n') : Passes .comment n [c] .comment n :=
  passes_char (fun _ => if_neg h) rfl (fun hcode => by cases hcode)

-- The check of a given character is a matter of computation.

theorem passes_open : Passes .code n ['\x7b'] .code (n + 1) := fun line _ => ⟨line, rfl⟩

theorem passes_close : Passes .code (n + 1) ['\x7d'] .code n := fun line _ => ⟨line, rfl⟩

theorem passes_tick : Passes .code n ['`'] .raw n := fun line _ => ⟨line, rfl⟩

theorem passes_untick : Passes .raw n ['`'] .code n := fun line _ => ⟨line, rfl⟩

theorem passes_slashes : Passes .code n "//" .comment n := fun line _ => ⟨line, rfl⟩

theorem passes_newline : Passes .comment n ['\n'] .code n := fun line _ => ⟨line + 1, rfl⟩

/-! ### Parts -/

/-- What is put together from parts that pass by themselves passes. -/
theorem Passes.flatMap {α : Type} {l : List α} {f : α → Text} (h : ∀ a ∈ l, Passes z n (f a) z n) :
    Passes z n (l.flatMap f) z n := by
  induction l with
  | nil => exact .nil
  | cons a l ih =>
    rw [List.flatMap_cons]
    exact (h a List.mem_cons_self).append (ih fun b hb => h b (List.mem_cons_of_mem a hb))

/-- A text passes if its characters do. -/
theorem Passes.of_forall (h : ∀ c ∈ t, Passes z n [c] z n) : Passes z n t z n :=
  List.flatMap_singleton' t ▸ Passes.flatMap h

theorem passes_inert (h : t.all isInert = true) : Passes .code n t .code n :=
  .of_forall fun c hc => passes_inert_char (List.all_eq_true.1 h c hc)

theorem passes_inert_append (hs : s.all isInert = true) (ht : Passes .code n t z n) :
    Passes .code n (s ++ t) z n :=
  (passes_inert hs).append ht

/-- A raw string passes as a whole. -/
theorem passes_raw (h : '`' ∉ t) : Passes .code n ('`' :: (t ++ ['`'])) .code n :=
  passes_tick.append ((Passes.of_forall fun _ hc => passes_raw_char fun heq => h (heq ▸ hc)).append
    passes_untick)

/-- A comment passes together with the newline that ends it. -/
theorem passes_comment (h : '\n' ∉ t) : Passes .code n ("//" ++ t ++ ['\n']) .code n :=
  (passes_slashes.append
    (.of_forall fun _ hc => passes_comment_char fun heq => h (heq ▸ hc))).append passes_newline

end Source

end SchemaStructs
