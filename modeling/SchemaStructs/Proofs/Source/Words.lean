import SchemaStructs.Proofs.Source.Output

/-!
# The check reads words

Whether the braces of a source are balanced depends on the words of its lines alone
(`Source.check_eq_ok_iff`): no blank changes the zone or the depth, a comment ends with its line,
and two slashes that start a comment belong to one word.  Between lines only two things are known of
the text before: whether a raw string is open, and how many braces are.

So the check does not see how a line is spaced, nor blank lines, nor the import of the `time`
package (`Source.readLines_of_mayInsert`), wherever these stand, inside of a raw string of several
lines too.
-/

namespace SchemaStructs

namespace Source

variable {c : Char} {s t : Text} {z : Zone} {d : Nat} {σ : Zone × Nat} {next next' : Option Char}

/-! ### Characters -/

/-- The zone and the number of open braces after a character, unless it closes a brace that is not
open. -/
def step (c : Char) (next : Option Char) : Zone × Nat → Option (Zone × Nat)
  | (before, depth) =>
    let own := before.enter c next
    let after := before.leave own c
    if own = .code ∧ c = '\x7b' then some (after, depth + 1)
    else if own = .code ∧ c = '\x7d' then
      if depth = 0 then none else some (after, depth - 1)
    else some (after, depth)

/-- The zone and the number of open braces after a text. -/
def advance : Text → Zone × Nat → Option (Zone × Nat)
  | [], σ => some σ
  | c :: rest, σ => (step c rest.head? σ).bind (advance rest)

/-- The check accepts what ends outside of raw strings with all braces closed. -/
theorem checkFrom_eq_ok_iff (line : Nat) (t : Text) :
    checkFrom z d line t = .ok () ↔ ∃ z', advance t (z, d) = some (z', 0) ∧ z' ≠ .raw := by
  induction t generalizing z d line with
  | nil =>
    rw [checkFrom, advance]
    by_cases hz : z = .raw
    · simp [hz]
    · by_cases hd : d = 0 <;> simp [hz, hd]
  | cons c rest ih =>
    rw [checkFrom, advance, step]
    split
    · simpa using ih _
    · split
      · split
        · simp
        · simpa using ih _
      · simpa using ih _

/-- Of the character after it a character only sees whether it is a slash. -/
theorem step_congr (c : Char) (h : next = some '/' ↔ next' = some '/') (σ : Zone × Nat) :
    step c next σ = step c next' σ := by
  obtain ⟨z, d⟩ := σ
  have henter : z.enter c next = z.enter c next' := by
    cases z <;> simp only [Zone.enter, h]
  rw [step, step, henter]

theorem advance_append_cons (hc : c ≠ '/') (s t : Text) (σ : Zone × Nat) :
    advance (s ++ c :: t) σ = (advance s σ).bind (advance (c :: t)) := by
  induction s generalizing σ with
  | nil => rfl
  | cons x s ih =>
    have hnext : (s ++ c :: t).head? = some '/' ↔ s.head? = some '/' := by
      cases s <;> simp [hc]
    rw [List.cons_append, advance, advance, step_congr x hnext, Option.bind_assoc]
    exact Option.bind_congr fun σ' _ => ih σ'

/-! ### Words -/

/-- A character that does not matter for braces, tags and comments does nothing within a line. -/
theorem step_inert (h : isInert c = true) (hline : c ≠ '\n') (next : Option Char)
    (σ : Zone × Nat) : step c next σ = some σ := by
  obtain ⟨z, d⟩ := σ
  simp only [isInert, Bool.and_eq_true, bne_iff_ne] at h
  cases z <;> simp [step, Zone.enter, Zone.leave, h, hline]

theorem isInert_of_isBlank (h : Text.isBlank c = true) : isInert c = true := by
  simp only [isInert, Bool.and_eq_true, bne_iff_ne]
  refine ⟨⟨⟨?_, ?_⟩, ?_⟩, ?_⟩ <;> rintro rfl <;> cases h

theorem advance_inert (h : ∀ c ∈ t, isInert c = true ∧ c ≠ '\n') (σ : Zone × Nat) :
    advance t σ = some σ := by
  induction t with
  | nil => rfl
  | cons c t ih =>
    obtain ⟨⟨hc, hline⟩, ht⟩ := List.forall_mem_cons.1 h
    rw [advance, step_inert hc hline, Option.bind_some, ih ht]

/-- What the words of a line do to zone and depth. -/
def readWords (ws : List Text) (σ : Zone × Nat) : Option (Zone × Nat) :=
  ws.foldlM (fun σ w => advance w σ) σ

theorem head?_eq_slash_iff {p : Text} {ps : List Text}
    (h : Text.splitWhere Text.isBlank t = p :: ps) : t.head? = some '/' ↔ p.head? = some '/' := by
  cases t with
  | nil =>
    obtain ⟨rfl, -⟩ := List.cons.inj h
    rfl
  | cons c t =>
    rw [Text.splitWhere] at h
    by_cases hblank : Text.isBlank c = true
    · rw [if_pos hblank] at h
      obtain ⟨rfl, -⟩ := List.cons.inj h
      have hc : c ≠ '/' := by rintro rfl; cases hblank
      simp [hc]
    · rw [if_neg hblank] at h
      split at h <;> obtain ⟨rfl, -⟩ := List.cons.inj h <;> rfl

/-- The pieces between blanks are read one by one. -/
theorem advance_eq_foldlM (h : '\n' ∉ t) (σ : Zone × Nat) :
    advance t σ = (Text.splitWhere Text.isBlank t).foldlM (fun σ w => advance w σ) σ := by
  induction t generalizing σ with
  | nil => rfl
  | cons c rest ih =>
    obtain ⟨hc, hrest⟩ := not_or.1 (mt List.mem_cons.2 h)
    rw [Text.splitWhere, advance]
    by_cases hblank : Text.isBlank c = true
    · rw [if_pos hblank, List.foldlM_cons, step_inert (isInert_of_isBlank hblank) (Ne.symm hc)]
      exact ih hrest σ
    · rw [if_neg hblank]
      cases hpieces : Text.splitWhere Text.isBlank rest with
      | nil =>
        exact absurd (Text.splitWhere_eq_splitOnP _ rest ▸ hpieces) (List.splitOnP_ne_nil _ rest)
      | cons p ps =>
        -- the character and the first piece of the rest are one piece
        simp only [List.foldlM_cons, advance, step_congr c (head?_eq_slash_iff hpieces),
          Option.bind_eq_bind, Option.bind_assoc]
        refine Option.bind_congr fun σ' _ => ?_
        rw [ih hrest, hpieces, List.foldlM_cons, Option.bind_eq_bind]

/-- **A line is read word by word.** -/
theorem advance_eq_readWords (h : '\n' ∉ t) (σ : Zone × Nat) :
    advance t σ = readWords (Text.words t) σ := by
  rw [advance_eq_foldlM h, readWords, Text.words, List.foldlM_filter]
  congr 1
  funext σ w
  cases w <;> rfl

/-! ### Lines -/

/-- The zone at the start of a line. -/
def lineZone (inRaw : Bool) : Zone := if inRaw then .raw else .code

theorem lineZone_inj {a b : Bool} : lineZone a = lineZone b ↔ a = b := by
  cases a <;> cases b <;> decide

/-- What the words of a line do: whether a raw string is open at the start of a line, and the number
of open braces. -/
def readLine (ws : List Text) (s : Bool × Nat) : Option (Bool × Nat) :=
  (readWords ws (lineZone s.1, s.2)).map fun σ => (σ.1 == .raw, σ.2)

/-- What lines do, given their words. -/
def readLines (wss : List (List Text)) (s : Bool × Nat) : Option (Bool × Nat) :=
  wss.foldlM (fun s ws => readLine ws s) s

theorem step_newline (next : Option Char) (z : Zone) (d : Nat) :
    step '\n' next (z, d) = some (lineZone (z == .raw), d) := by
  cases z <;> rfl

/-- Lines that are ended by newlines are read one by one. -/
theorem advance_ended {ls : List Text} (h : ∀ l ∈ ls, '\n' ∉ l) (s : Bool × Nat) :
    advance (Text.ended ls) (lineZone s.1, s.2) =
      (readLines (ls.map Text.words) s).map fun s => (lineZone s.1, s.2) := by
  induction ls generalizing s with
  | nil => rfl
  | cons l ls ih =>
    obtain ⟨hl, hls⟩ := List.forall_mem_cons.1 h
    have hline : ∀ σ, advance ('\n' :: Text.ended ls) σ =
        (readLines (ls.map Text.words) (σ.1 == .raw, σ.2)).map fun s => (lineZone s.1, s.2) :=
      fun ⟨z, d⟩ => by rw [advance, step_newline, Option.bind_some, ih hls (z == .raw, d)]
    rw [Text.ended_cons, advance_append_cons (by decide), advance_eq_readWords hl, List.map_cons,
      readLines, List.foldlM_cons, readLine, Option.bind_eq_bind, Option.bind_map, Option.map_bind]
    exact Option.bind_congr fun σ _ => hline σ

theorem readWords_inert {ws : List Text} (h : ∀ w ∈ ws, ∀ c ∈ w, isInert c = true ∧ c ≠ '\n')
    (σ : Zone × Nat) : readWords ws σ = some σ := by
  induction ws with
  | nil => rfl
  | cons w ws ih =>
    obtain ⟨hw, hws⟩ := List.forall_mem_cons.1 h
    rw [readWords, List.foldlM_cons, advance_inert hw]
    exact ih hws

/-- A line whose characters do not matter does nothing. -/
theorem readLine_inert {ws : List Text} (h : ∀ w ∈ ws, ∀ c ∈ w, isInert c = true ∧ c ≠ '\n')
    (s : Bool × Nat) : readLine ws s = some s := by
  obtain ⟨inRaw, d⟩ := s
  rw [readLine, readWords_inert h]
  cases inRaw <;> rfl

/-- Blank lines do nothing. -/
theorem readLines_inked (ls : List Text) (s : Bool × Nat) :
    readLines ((inked ls).map Text.words) s = readLines (ls.map Text.words) s := by
  induction ls generalizing s with
  | nil => rfl
  | cons l ls ih =>
    by_cases hblank : Text.trim l = []
    · have hwords : Text.words l = [] := Text.words_eq_nil_iff.2 (Text.trim_eq_nil_iff.1 hblank)
      rw [inked_cons_of_blank hblank, ih, List.map_cons, hwords, readLines, readLines,
        List.foldlM_cons, readLine_inert (by simp)]
      rfl
    · rw [inked_cons_of_ne hblank, List.map_cons, List.map_cons, readLines, readLines,
        List.foldlM_cons, List.foldlM_cons]
      exact Option.bind_congr fun s' _ => ih s'

theorem ended_lines (source : Text) : Text.ended (Text.lines source) = source ++ ['\n'] := by
  have hne : Text.lines source ≠ [] := by
    rw [Text.lines, Text.splitOn_eq_splitOn]
    exact List.splitOn_ne_nil _ _
  have hjoined : Text.unlines (Text.lines source) = source := by
    rw [Text.unlines, Text.joinWith, Text.lines, Text.splitOn_eq_splitOn,
      List.intercalate_splitOn]
  rw [← Text.unlines_append_newline hne, hjoined]

/-- **The check reads the words of lines.** -/
theorem check_eq_ok_iff (source : Text) : check source = .ok () ↔
    readLines ((inked (Text.lines source)).map Text.words) (false, 0) = some (false, 0) := by
  -- with a newline at the end the zone is that of the start of a line
  have hread : (advance source (.code, 0)).map (fun σ => (lineZone (σ.1 == .raw), σ.2)) =
      (readLines ((inked (Text.lines source)).map Text.words) (false, 0)).map
        fun s => (lineZone s.1, s.2) := by
    have hend : ∀ σ, advance ['\n'] σ = some (lineZone (σ.1 == .raw), σ.2) :=
      fun ⟨z, d⟩ => by rw [advance, step_newline]; rfl
    have hlines := advance_ended (Text.not_mem_lines source) (false, 0)
    rw [ended_lines, advance_append_cons (by decide)] at hlines
    rw [readLines_inked, ← hlines, Option.map_eq_bind]
    exact Option.bind_congr fun σ _ => (hend σ).symm
  rw [check, checkFrom_eq_ok_iff]
  cases hadvance : advance source (.code, 0) with
  | none =>
    rw [hadvance, Option.map_none, eq_comm, Option.map_eq_none_iff] at hread
    simp [hread]
  | some σ =>
    rw [hadvance, Option.map_some, eq_comm, Option.map_eq_some_iff] at hread
    obtain ⟨⟨inRaw, depth⟩, hread, heq⟩ := hread
    obtain ⟨z, d⟩ := σ
    obtain ⟨hzone, hdepth⟩ := Prod.mk.inj heq
    have hraw : inRaw = (z == .raw) := lineZone_inj.1 hzone
    have hdepth : depth = d := hdepth
    rw [hread, hraw, hdepth]
    cases z <;> simp

/-! ### What the check does not see -/

theorem readLines_append (wss wss' : List (List Text)) (s : Bool × Nat) :
    readLines (wss ++ wss') s = (readLines wss s).bind (readLines wss') := by
  rw [readLines, List.foldlM_append]
  rfl

theorem isInert_of_mem_timeImport :
    ∀ w ∈ Text.words timeImport, ∀ c ∈ w, isInert c = true ∧ c ≠ '\n' := by
  have hall : (Text.words timeImport).all (·.all fun c => isInert c && c != '\n') = true := rfl
  simpa using hall

/-- **An import of the `time` package does not matter for the check**, wherever it stands. -/
theorem readLines_of_mayInsert {wss wss' : List (List Text)}
    (h : MayInsert (Text.words timeImport) wss wss') (s : Bool × Nat) :
    readLines wss' s = readLines wss s := by
  rcases h with rfl | ⟨before, after, rfl, rfl⟩
  · rfl
  · rw [readLines_append, readLines_append]
    refine Option.bind_congr fun s' _ => ?_
    rw [readLines, List.foldlM_cons, readLine_inert isInert_of_mem_timeImport]
    rfl

end Source

end SchemaStructs
