import SchemaStructs.Proofs.Source.Lexeme

/-!
# Zones and lines of lexemes

Every lexeme lies in one zone, so the zones of the characters of a source are those of its lexemes
(`Source.Cut.zonesFrom_eq`): what the check takes for code is what is cut into characters.

A raw string is the only lexeme that can go over the end of a line.  Where none does, the lines of
the source are cut by themselves, and their lexemes with newlines between them are those of the
source (`Source.Cut.exists_lines`).  So a function that goes through the source line by line sees
the lexemes that the check sees.
-/

namespace SchemaStructs

namespace Source

variable {l : Lexeme} {ls : List Lexeme} {t body rest : Text} {c : Char}

/-! ### Zones of lexemes -/

/-- The zone that a lexeme belongs to. -/
def Lexeme.zone : Lexeme → Zone
  | code _ => .code
  | raw _ => .raw
  | openRaw _ => .raw
  | comment _ => .comment

/-- The characters of a lexeme with their zone. -/
def Lexeme.zoned (l : Lexeme) : List (Char × Zone) := l.text.map (·, l.zone)

/-- The characters of lexemes with their zones. -/
def zoned (ls : List Lexeme) : List (Char × Zone) := ls.flatMap Lexeme.zoned

theorem zoned_cons (l : Lexeme) (ls : List Lexeme) : zoned (l :: ls) = l.zoned ++ zoned ls :=
  List.flatMap_cons

theorem zoned_append (ls ls' : List Lexeme) : zoned (ls ++ ls') = zoned ls ++ zoned ls' :=
  List.flatMap_append

theorem zoned_raw (body : Text) (ls : List Lexeme) : zoned (.raw body :: ls) =
    (('`', .raw) :: body.map (·, .raw)) ++ ('`', .raw) :: zoned ls := by
  simp [zoned_cons, Lexeme.zoned, Lexeme.text, Lexeme.zone]

theorem infix_zoned {ls ls' : List Lexeme} (h : ls <:+: ls') : zoned ls <:+: zoned ls' := by
  obtain ⟨before, after, rfl⟩ := h
  rw [zoned_append, zoned_append]
  exact List.infix_append _ _ _

theorem zonesFrom_raw (h : '`' ∉ body) (rest : Text) :
    zonesFrom .raw (body ++ rest) = body.map (·, .raw) ++ zonesFrom .raw rest := by
  induction body with
  | nil => rfl
  | cons c body ih =>
    obtain ⟨hc, hbody⟩ := not_or.1 (mt List.mem_cons.2 h)
    have hleave : Zone.leave .raw .raw c = .raw := if_neg fun hleave => hc hleave.2.symm
    have hzones : zonesFrom .raw (c :: (body ++ rest)) =
        (c, .raw) :: zonesFrom (Zone.leave .raw .raw c) (body ++ rest) := rfl
    rw [List.cons_append, hzones, hleave, ih hbody]
    rfl

theorem zonesFrom_comment (h : '\n' ∉ body) (rest : Text) :
    zonesFrom .comment (body ++ rest) =
      body.map (·, .comment) ++ zonesFrom .comment rest := by
  induction body with
  | nil => rfl
  | cons c body ih =>
    obtain ⟨hc, hbody⟩ := not_or.1 (mt List.mem_cons.2 h)
    have hzone : Zone.enter .comment c (body ++ rest).head? = .comment := if_neg (Ne.symm hc)
    rw [List.cons_append, zonesFrom, hzone]
    exact congrArg ((c, Zone.comment) :: ·) (ih hbody)

/-- **The zones of a source are those of its lexemes.** -/
theorem Cut.zonesFrom_eq (h : Cut t ls) : zonesFrom .code t = zoned ls := by
  induction h with
  | nil => rfl
  | raw hbody hrest ih =>
    rename_i body rest ls
    have hopen : zonesFrom .code ('`' :: (body ++ '`' :: rest)) =
        ('`', .raw) :: zonesFrom .raw (body ++ '`' :: rest) := rfl
    have hclose : zonesFrom .raw ('`' :: rest) = ('`', .raw) :: zonesFrom .code rest := rfl
    rw [hopen, zonesFrom_raw hbody, hclose, ih, zoned_raw]
    rfl
  | openRaw hbody =>
    rename_i body
    have hopen : zonesFrom .code ('`' :: body) = ('`', .raw) :: zonesFrom .raw body := rfl
    have hend := zonesFrom_raw hbody []
    rw [List.append_nil] at hend
    rw [hopen, hend, zoned_cons]
    simp [Lexeme.zoned, Lexeme.text, Lexeme.zone, zoned, zonesFrom]
  | comment hbody hend hrest ih =>
    rename_i body rest ls
    have hopen : zonesFrom .code ('/' :: '/' :: (body ++ rest)) =
        ('/', .comment) :: ('/', .comment) :: zonesFrom .comment (body ++ rest) := rfl
    have hlater : zonesFrom .comment rest = zonesFrom .code rest := by
      rcases hend with rfl | ⟨later, rfl⟩ <;> rfl
    rw [hopen, zonesFrom_comment hbody, hlater, ih, zoned_cons]
    simp [Lexeme.zoned, Lexeme.text, Lexeme.zone]
  | code htick hslashes hrest ih =>
    rename_i c rest ls
    have hzone : Zone.enter .code c rest.head? = .code := (if_neg htick).trans (if_neg hslashes)
    have hleave : Zone.leave .code .code c = .code := rfl
    rw [zonesFrom, hzone, hleave, ih]
    rfl

/-! ### Lines of lexemes -/

/-- Lexemes of lines, with a newline between neighbours. -/
def lined (cuts : List (List Lexeme)) : List Lexeme := List.intercalate [.code '\n'] cuts

@[simp] theorem lined_singleton (cut : List Lexeme) : lined [cut] = cut :=
  List.intercalate_singleton

theorem lined_cons_cons (cut cut' : List Lexeme) (cuts : List (List Lexeme)) :
    lined (cut :: cut' :: cuts) = cut ++ .code '\n' :: lined (cut' :: cuts) := by
  rw [lined, List.intercalate_cons_cons, List.append_assoc]
  rfl

theorem lined_cons_lexeme (l : Lexeme) (cut : List Lexeme) (cuts : List (List Lexeme)) :
    lined ((l :: cut) :: cuts) = l :: lined (cut :: cuts) := by
  cases cuts with
  | nil => rw [lined_singleton, lined_singleton]
  | cons cut' cuts => rw [lined_cons_cons, lined_cons_cons, List.cons_append]

theorem infix_lined {cut : List Lexeme} {cuts : List (List Lexeme)} (h : cut ∈ cuts) :
    cut <:+: lined cuts := by
  induction cuts with
  | nil => cases h
  | cons first cuts ih =>
    cases cuts with
    | nil =>
      rw [List.mem_singleton.1 h, lined_singleton]
    | cons second cuts =>
      rw [lined_cons_cons]
      rcases List.mem_cons.1 h with rfl | h
      · exact (List.prefix_append cut _).isInfix
      · exact (ih h).trans ((List.suffix_cons _ _).trans (List.suffix_append _ _)).isInfix

theorem exists_lines_append (h : '\n' ∉ body) (rest : Text) : ∃ first others,
    Text.lines rest = first :: others ∧ Text.lines (body ++ rest) = (body ++ first) :: others := by
  induction body with
  | nil =>
    obtain ⟨first, others, hlines, -⟩ := Text.exists_of_splitOn '\n' rest
    exact ⟨first, others, hlines, hlines⟩
  | cons c body ih =>
    obtain ⟨hc, hbody⟩ := not_or.1 (mt List.mem_cons.2 h)
    obtain ⟨first, others, hrest, hlines⟩ := ih hbody
    refine ⟨first, others, hrest, ?_⟩
    rw [Text.lines, Text.splitOn] at hlines
    rw [Text.lines, Text.splitOn, List.cons_append, Text.splitWhere,
      if_neg (by simpa using Ne.symm hc), hlines]
    rfl

/-- A lexeme without a newline goes before the first line of what follows. -/
theorem exists_lines_cons (ht : '\n' ∉ l.text)
    (h : ∃ cuts, List.Forall₂ Cut (Text.lines rest) cuts ∧ ls = lined cuts)
    (hcut : ∀ {first others cut}, Text.lines rest = first :: others → Cut first cut →
      Cut (l.text ++ first) (l :: cut)) :
    ∃ cuts, List.Forall₂ Cut (Text.lines (l.text ++ rest)) cuts ∧ l :: ls = lined cuts := by
  obtain ⟨cuts, hcuts, rfl⟩ := h
  obtain ⟨first, others, hrest, hlines⟩ := exists_lines_append ht rest
  rw [hrest] at hcuts
  cases hcuts with
  | cons hfirst hothers =>
    rw [hlines]
    exact ⟨_, .cons (hcut hrest hfirst) hothers, (lined_cons_lexeme ..).symm⟩

/-- A newline puts an empty line before those of what follows. -/
theorem exists_lines_newline
    (h : ∃ cuts, List.Forall₂ Cut (Text.lines rest) cuts ∧ ls = lined cuts) :
    ∃ cuts, List.Forall₂ Cut (Text.lines ('\n' :: rest)) cuts ∧ .code '\n' :: ls = lined cuts := by
  obtain ⟨cuts, hcuts, rfl⟩ := h
  have hlines : Text.lines ('\n' :: rest) = [] :: Text.lines rest :=
    Text.splitOn_append_cons (t := []) List.not_mem_nil rest
  refine ⟨[] :: cuts, hlines ▸ .cons .nil hcuts, ?_⟩
  cases cuts with
  | nil =>
    obtain ⟨first, others, hsplit, -⟩ := Text.exists_of_splitOn '\n' rest
    exact absurd ((List.forall₂_nil_right_iff.1 hcuts).symm.trans hsplit)
      (List.cons_ne_nil first others).symm
  | cons cut cuts => rw [lined_cons_cons, List.nil_append]

/-- A character of code goes before the first line, or ends an empty one. -/
theorem exists_lines_code (htick : c ≠ '`') (hslashes : ¬(c = '/' ∧ rest.head? = some '/'))
    (h : ∃ cuts, List.Forall₂ Cut (Text.lines rest) cuts ∧ ls = lined cuts) :
    ∃ cuts, List.Forall₂ Cut (Text.lines (c :: rest)) cuts ∧ .code c :: ls = lined cuts := by
  by_cases hc : c = '\n'
  · subst hc
    exact exists_lines_newline h
  · refine exists_lines_cons (l := .code c) (by simpa [Lexeme.text] using Ne.symm hc) h
      fun {first others cut} hlines hfirst => ?_
    refine .code htick (fun h => hslashes ⟨h.1, ?_⟩) hfirst
    -- the next character is in the line, so it is the next one of the source
    have hnext : first.head? = some '/' := h.2
    obtain ⟨_, _, hsplit, htext⟩ := Text.exists_of_splitOn '\n' rest
    obtain ⟨rfl, rfl⟩ := List.cons.inj (hsplit.symm.trans hlines)
    rw [htext, List.head?_append, hnext]
    rfl

/-- **The lines of a source are cut by themselves**, if no raw string goes over the end of one. -/
theorem Cut.exists_lines (h : Cut t ls) (hclosed : leftOpen ls = false)
    (hraw : ('\n', Zone.raw) ∉ zoned ls) :
    ∃ cuts, List.Forall₂ Cut (Text.lines t) cuts ∧ ls = lined cuts := by
  induction h with
  | nil => exact ⟨[[]], .cons .nil .nil, rfl⟩
  | raw hbody hrest ih =>
    rename_i body rest ls
    rw [zoned_cons, List.mem_append, not_or] at hraw
    have hnewline : '\n' ∉ (Lexeme.raw body).text := fun hm =>
      hraw.1 (List.mem_map_of_mem (f := (·, Zone.raw)) hm)
    have htext : '`' :: (body ++ '`' :: rest) = (Lexeme.raw body).text ++ rest := by
      simp [Lexeme.text]
    rw [htext]
    refine exists_lines_cons hnewline (ih hclosed hraw.2) fun _ hfirst => ?_
    have hcut := Cut.raw hbody hfirst
    simpa [Lexeme.text] using hcut
  | openRaw hbody => cases hclosed
  | comment hbody hend hrest ih =>
    rename_i body rest ls
    rw [zoned_cons, List.mem_append, not_or] at hraw
    have hnewline : '\n' ∉ (Lexeme.comment body).text := by simp [Lexeme.text, hbody]
    have htext : '/' :: '/' :: (body ++ rest) = (Lexeme.comment body).text ++ rest := by
      simp [Lexeme.text]
    rw [htext]
    refine exists_lines_cons hnewline (ih hclosed hraw.2) fun {first others cut} hlines hfirst => ?_
    -- nothing of the line is left after a comment
    have hnil : first = [] := by
      rcases hend with rfl | ⟨later, rfl⟩
      · exact (List.cons.inj hlines).1.symm
      · exact (List.cons.inj hlines).1.symm
    have hcut := Cut.comment hbody (.inl hnil) hfirst
    simpa [Lexeme.text] using hcut
  | code htick hslashes hrest ih =>
    rename_i c rest ls
    rw [zoned_cons, List.mem_append, not_or] at hraw
    exact exists_lines_code htick hslashes (ih hclosed hraw.2)

end Source

end SchemaStructs
