import SchemaStructs.Proofs.Source.Imports
import SchemaStructs.Proofs.Source.Zone

/-!
# Mentions of the time package

A source mentions the `time` package (`Source.MentionsTime`) if `time.` stands in its code, outside
of raw strings and comments, and no word goes on there.  The search for mentions goes by lines: it
passes over lines that are comments, and it leaves out what stands between two backticks of a line.
Where no raw string goes over the end of a line or touches a word before it (`Source.TagsApart`),

* the lexemes of the lines are those of the source (`Source.Cut.exists_lines`);
* what the search reads in a line is its code without the raw strings, and the comment after it
  (`Source.Cut.outsideTags_eq`);
* a mention in that code is one in the source (`Source.Cut.mentionsTime_eq`).

So the search finds the mentions, and it takes a comment that stands after code in a line for code
(`Source.usesTime_iff`).  A comment of this kind is enough to make a fragment import the package
without need (`Source.not_forall_usesTime_iff`); and the two conditions on raw strings cannot be
left out, either.
-/

namespace SchemaStructs

namespace Source

/-! ### Mentions -/

/-- The word that a mention of the package starts with, as characters of code. -/
def timeZones : List (Char × Zone) := ("time." : Text).map (·, .code)

/-- The source mentions the `time` package in its code. -/
def MentionsTime (source : Text) : Prop :=
  ∃ before after, zonesFrom .code source = before ++ (timeZones ++ after) ∧
    ∀ p ∈ before.getLast?, Text.isWord p.1 = false

/-- There is a mention among the characters; `inside` says that the character before belongs to a
word. -/
def mentionedIn (inside : Bool) : List (Char × Zone) → Bool
  | [] => false
  | p :: ps => (!inside && timeZones.isPrefixOf (p :: ps)) || mentionedIn (Text.isWord p.1) ps

/-- A raw string does not touch a word before it. -/
def Apart (p q : Char × Zone) : Prop := p.2 = .code → q.2 = .raw → Text.isWord p.1 = false

/-- No raw string of the source goes over the end of a line or touches a word before it. -/
structure TagsApart (source : Text) : Prop where
  /-- Raw strings end in the line that they start in. -/
  in_line : ('\n', Zone.raw) ∉ zonesFrom .code source
  /-- They do not start at the end of a word. -/
  apart : (zonesFrom .code source).IsChain Apart

variable {p : Char × Zone} {ps zs : List (Char × Zone)} {inside : Bool}
variable {l : Lexeme} {ls : List Lexeme} {t body rest source : Text} {c : Char}

instance : DecidableRel Apart := fun p q =>
  inferInstanceAs (Decidable (p.2 = .code → q.2 = .raw → Text.isWord p.1 = false))

instance (source : Text) : Decidable (TagsApart source) :=
  decidable_of_iff (('\n', Zone.raw) ∉ zonesFrom .code source ∧
    (zonesFrom .code source).IsChain Apart) ⟨fun h => ⟨h.1, h.2⟩, fun h => ⟨h.1, h.2⟩⟩

theorem mentionedIn_iff : mentionedIn inside zs = true ↔
    ∃ before after, zs = before ++ (timeZones ++ after) ∧
      (before.getLast?.elim inside fun p => Text.isWord p.1) = false := by
  induction zs generalizing inside with
  | nil =>
    refine iff_of_false Bool.false_ne_true ?_
    rintro ⟨before, after, h, -⟩
    exact absurd (List.append_eq_nil_iff.1 h.symm).2 (List.cons_ne_nil _ _)
  | cons p ps ih =>
    rw [mentionedIn, Bool.or_eq_true, Bool.and_eq_true, Bool.not_eq_true', ih,
      List.isPrefixOf_iff_prefix]
    constructor
    · rintro (⟨hinside, after, hafter⟩ | ⟨before, after, hps, hlast⟩)
      · exact ⟨[], after, hafter.symm, hinside⟩
      · refine ⟨p :: before, after, by rw [hps, List.cons_append], ?_⟩
        rw [← hlast, List.getLast?_cons]
        cases before.getLast? <;> rfl
    · rintro ⟨before, after, hps, hlast⟩
      cases before with
      | nil => exact .inl ⟨hlast, after, hps.symm⟩
      | cons b before =>
        obtain ⟨rfl, rfl⟩ := List.cons.inj hps
        refine .inr ⟨before, after, rfl, ?_⟩
        rw [← hlast, List.getLast?_cons]
        cases before.getLast? <;> rfl

theorem mentionsTime_iff_mentionedIn (source : Text) :
    MentionsTime source ↔ mentionedIn false (zonesFrom .code source) = true := by
  rw [mentionedIn_iff, MentionsTime]
  refine exists_congr fun before => exists_congr fun after => and_congr_right fun _ => ?_
  cases before.getLast? <;> simp

instance (source : Text) : Decidable (MentionsTime source) :=
  decidable_of_iff _ (mentionsTime_iff_mentionedIn source).symm

/-- Outside of code there are no mentions. -/
theorem mentionedIn_append (hzs : ∀ q ∈ zs, q.2 ≠ Zone.code) (inside : Bool) :
    mentionedIn inside (zs ++ ps) =
      mentionedIn (zs.getLast?.elim inside fun p => Text.isWord p.1) ps := by
  induction zs generalizing inside with
  | nil => rfl
  | cons q zs ih =>
    obtain ⟨hq, hzs⟩ := List.forall_mem_cons.1 hzs
    have hprefix : timeZones.isPrefixOf (q :: (zs ++ ps)) = false := by
      rw [Bool.eq_false_iff, Ne, List.isPrefixOf_iff_prefix]
      exact fun h => hq (congrArg Prod.snd (List.cons_prefix_cons.1 h).1).symm
    rw [List.cons_append, mentionedIn, hprefix, Bool.and_false, Bool.false_or, ih hzs,
      List.getLast?_cons]
    cases zs.getLast? <;> rfl

/-- A mention does not go on beyond a character that is not in it. -/
theorem prefix_append_cons_iff_of_not_mem {α : Type} {w a b : List α} {x : α} (hx : x ∉ w) :
    w <+: a ++ x :: b ↔ w <+: a := by
  refine ⟨fun h => ?_, fun h => h.trans (List.prefix_append a _)⟩
  rcases List.prefix_or_prefix_of_prefix h (List.prefix_append a (x :: b)) with hin | ⟨part, rfl⟩
  · exact hin
  · cases part with
    | nil => rw [List.append_nil]
    | cons y part =>
      rw [List.prefix_append_right_inj, List.cons_prefix_cons] at h
      exact absurd (h.1 ▸ List.mem_append_right a List.mem_cons_self) hx

theorem mentionedIn_append_newline (inside : Bool) :
    mentionedIn inside (zs ++ ('\n', .code) :: ps) =
      (mentionedIn inside zs || mentionedIn false ps) := by
  have hnot : ('\n', Zone.code) ∉ timeZones := by decide
  induction zs generalizing inside with
  | nil =>
    have hprefix : timeZones.isPrefixOf (('\n', Zone.code) :: ps) = false := rfl
    have hnil : mentionedIn inside [] = false := rfl
    rw [List.nil_append, hnil, mentionedIn, hprefix, Bool.and_false]
    rfl
  | cons q zs ih =>
    have hprefix : timeZones.isPrefixOf (q :: (zs ++ ('\n', Zone.code) :: ps)) =
        timeZones.isPrefixOf (q :: zs) := by
      rw [Bool.eq_iff_iff, List.isPrefixOf_iff_prefix, List.isPrefixOf_iff_prefix]
      exact prefix_append_cons_iff_of_not_mem (a := q :: zs) hnot
    rw [List.cons_append, mentionedIn, hprefix, ih, mentionedIn, Bool.or_assoc]

/-! ### What the search reads in a line -/

/-- What is left of a lexeme in a line without its tags: of a raw string nothing, unless it is not
closed. -/
def Lexeme.bare : Lexeme → Text
  | code c => [c]
  | raw _ => []
  | openRaw body => '`' :: body
  | comment body => '/' :: '/' :: outsideTags (Text.splitOn '`' body)

theorem outsideTags_cons (hc : c ≠ '`') (t : Text) :
    outsideTags (Text.splitOn '`' (c :: t)) = c :: outsideTags (Text.splitOn '`' t) := by
  obtain ⟨first, others, hsplit, -⟩ := Text.exists_of_splitOn '`' t
  rw [Text.splitOn] at hsplit
  rw [Text.splitOn, Text.splitOn, Text.splitWhere, if_neg (by simpa using hc), hsplit]
  rcases others with _ | ⟨second, _ | ⟨third, others⟩⟩ <;> rfl

theorem splitOn_tick (t : Text) : Text.splitOn '`' ('`' :: t) = [] :: Text.splitOn '`' t :=
  Text.splitOn_append_cons (t := []) List.not_mem_nil t

theorem outsideTags_raw (h : '`' ∉ body) (rest : Text) :
    outsideTags (Text.splitOn '`' ('`' :: (body ++ '`' :: rest))) =
      outsideTags (Text.splitOn '`' rest) := by
  obtain ⟨first, others, hsplit, -⟩ := Text.exists_of_splitOn '`' rest
  rw [splitOn_tick, Text.splitOn_append_cons h, hsplit]
  rfl

theorem outsideTags_openRaw (h : '`' ∉ body) :
    outsideTags (Text.splitOn '`' ('`' :: body)) = '`' :: body := by
  rw [splitOn_tick, Text.splitOn_eq_singleton h]
  rfl

/-- There is nothing in a line after a comment. -/
theorem Cut.eq_nil_of_line (hrest : Cut rest ls) (hline : '\n' ∉ rest)
    (hend : rest = [] ∨ ∃ later, rest = '\n' :: later) : rest = [] ∧ ls = [] := by
  rcases hend with rfl | ⟨later, rfl⟩
  · exact ⟨rfl, hrest.unique .nil⟩
  · exact absurd List.mem_cons_self hline

/-- **What is left of a line without its tags.** -/
theorem Cut.outsideTags_eq (h : Cut t ls) (hline : '\n' ∉ t) :
    outsideTags (Text.splitOn '`' t) = ls.flatMap Lexeme.bare := by
  induction h with
  | nil => rfl
  | raw hbody hrest ih =>
    rw [outsideTags_raw hbody, ih fun hm => hline (by simp [hm])]
    rfl
  | openRaw hbody =>
    rw [outsideTags_openRaw hbody]
    simp [Lexeme.bare]
  | comment hbody hend hrest ih =>
    obtain ⟨rfl, rfl⟩ := hrest.eq_nil_of_line (fun hm => hline (by simp [hm])) hend
    rw [outsideTags_cons (by decide), outsideTags_cons (by decide)]
    simp [Lexeme.bare]
  | code htick hslashes hrest ih =>
    rw [outsideTags_cons htick, ih fun hm => hline (List.mem_cons_of_mem _ hm)]
    rfl

/-! ### Mentions in a line -/

/-- The comment reads like a mention: `time.` stands in it, not between two backticks. -/
def readsLikeMention (body : Text) : Bool :=
  mentionsTime false (outsideTags (Text.splitOn '`' body))

/-- The lexeme is a comment that reads like a mention. -/
def Lexeme.remarks : Lexeme → Bool
  | comment body => readsLikeMention body
  | _ => false

/-- After a word there is no raw string, so words go on in what is left of a line as they do in its
code. -/
theorem prefix_bare_iff {w : Text} {x : Char} (hw : '/' ∉ w)
    (hword : w.dropLast.all Text.isWord = true) (hx : Text.isWord x = true ∨ w = [])
    (hapart : ((x, Zone.code) :: zoned ls).IsChain Apart) :
    w <+: ls.flatMap Lexeme.bare ↔ w.map (·, Zone.code) <+: zoned ls := by
  induction w generalizing x ls with
  | nil => exact iff_of_true List.nil_prefix List.nil_prefix
  | cons d w ih =>
    obtain ⟨hd, hw⟩ := not_or.1 (mt List.mem_cons.2 hw)
    have hx := hx.resolve_right (List.cons_ne_nil d w)
    have htick : ∀ {qs}, ¬ ((x, Zone.code) :: ('`', Zone.raw) :: qs).IsChain Apart := fun h => by
      have := (List.isChain_cons_cons.1 h).1 rfl rfl
      rw [hx] at this
      cases this
    rcases ls with _ | ⟨_ | _ | _ | _, ls⟩
    · simp [zoned]
    · rename_i c
      have hcons : zoned (.code c :: ls) = (c, .code) :: zoned ls := rfl
      rw [hcons] at hapart ⊢
      rw [List.flatMap_cons, Lexeme.bare, List.singleton_append, List.map_cons,
        List.cons_prefix_cons, List.cons_prefix_cons, Prod.mk.injEq, and_iff_left rfl]
      refine and_congr_right fun hdc => ?_
      subst hdc
      have hchain := (List.isChain_cons_cons.1 hapart).2
      cases w with
      | nil => exact ih hw rfl (.inr rfl) hchain
      | cons e w =>
        obtain ⟨hd, hword⟩ := Bool.and_eq_true_iff.1 hword
        exact ih hw hword (.inl hd) hchain
    · exact absurd hapart htick
    · exact absurd hapart htick
    · refine iff_of_false (fun h => ?_) (fun h => ?_)
      · exact hd (List.cons_prefix_cons.1 h).1.symm
      · exact hd (congrArg Prod.fst (List.cons_prefix_cons.1 h).1).symm

theorem mentionedIn_zoned_cons (hl : l.zone ≠ .code) (inside : Bool) (ls : List Lexeme) :
    mentionedIn inside (zoned (l :: ls)) =
      mentionedIn (l.zoned.getLast?.elim inside fun p => Text.isWord p.1) (zoned ls) := by
  rw [zoned_cons, mentionedIn_append]
  intro q hq
  obtain ⟨c, -, rfl⟩ := List.mem_map.1 hq
  exact hl

/-- Raw strings hold no mentions, and no word ends with one. -/
theorem mentionedIn_raw (inside : Bool) (body : Text) (ls : List Lexeme) :
    mentionedIn inside (zoned (.raw body :: ls)) = mentionedIn false (zoned ls) := by
  have hlast : (Lexeme.raw body).text.getLast? = some '`' :=
    List.getLast?_concat (l := '`' :: body)
  rw [mentionedIn_zoned_cons (by simp [Lexeme.zone]), Lexeme.zoned, List.getLast?_map, hlast]
  rfl

/-- What is left of a line starts with the name and its dot where its code does. -/
theorem isPrefixOf_bare_code (h : ((c, Zone.code) :: zoned ls).IsChain Apart) :
    ("time." : Text).isPrefixOf (c :: ls.flatMap Lexeme.bare) =
      timeZones.isPrefixOf ((c, Zone.code) :: zoned ls) := by
  have hbare : (Lexeme.code c :: ls).flatMap Lexeme.bare = c :: ls.flatMap Lexeme.bare := rfl
  have hzoned : zoned (.code c :: ls) = (c, .code) :: zoned ls := rfl
  rw [Bool.eq_iff_iff, List.isPrefixOf_iff_prefix, List.isPrefixOf_iff_prefix, ← hbare, ← hzoned]
  -- any letter may stand before the character, which is one of code
  refine prefix_bare_iff (x := 'x') (by decide +kernel) rfl (.inl rfl) ?_
  exact List.isChain_cons_cons.2 ⟨fun _ hraw => (by cases hraw), h⟩

/-- The slashes of a comment start no mention and belong to no word. -/
theorem mentionsTime_slashes (inside : Bool) (rest : Text) :
    mentionsTime inside ('/' :: '/' :: rest) = mentionsTime false rest := by
  rw [mentionsTime, mentionsTime]
  simp [List.isPrefixOf]
  rfl

/-- **What the search finds in a line**, unless the line is a comment: the mentions in its code and
those that the comment after it seems to hold. -/
theorem Cut.mentionsTime_eq (h : Cut t ls) (hline : '\n' ∉ t) (hclosed : leftOpen ls = false)
    (hapart : (p :: zoned ls).IsChain Apart) (hp : p.2 = .code ∨ Text.isWord p.1 = false) :
    mentionsTime (Text.isWord p.1) (ls.flatMap Lexeme.bare) =
      (mentionedIn (Text.isWord p.1) (zoned ls) || ls.any Lexeme.remarks) := by
  induction h generalizing p with
  | nil => rfl
  | raw hbody hrest ih =>
    rename_i body rest ls
    rw [zoned_raw, List.cons_append] at hapart
    have hinside : Text.isWord p.1 = false :=
      hp.elim (fun hp => (List.isChain_cons_cons.1 hapart).1 hp rfl) id
    have hlater : (('`', Zone.raw) :: zoned ls).IsChain Apart :=
      hapart.suffix ((List.suffix_append _ _).trans ((List.suffix_cons _ _).trans
        (List.suffix_cons _ _)))
    rw [hinside, mentionedIn_raw]
    exact ih (fun hm => hline (by simp [hm])) hclosed hlater (.inr rfl)
  | openRaw hbody => cases hclosed
  | comment hbody hend hrest ih =>
    rename_i body rest ls
    obtain ⟨rfl, rfl⟩ := hrest.eq_nil_of_line (fun hm => hline (by simp [hm])) hend
    rw [mentionedIn_zoned_cons (by simp [Lexeme.zone]), List.flatMap_singleton, Lexeme.bare,
      mentionsTime_slashes]
    simp [Lexeme.remarks, readsLikeMention, zoned, mentionedIn]
  | code htick hslashes hrest ih =>
    rename_i c rest ls
    have hchain : ((c, Zone.code) :: zoned ls).IsChain Apart := (List.isChain_cons_cons.1 hapart).2
    have hbare : (Lexeme.code c :: ls).flatMap Lexeme.bare = c :: ls.flatMap Lexeme.bare := rfl
    have hzoned : zoned (.code c :: ls) = (c, .code) :: zoned ls := rfl
    rw [hbare, hzoned, mentionsTime, mentionedIn, isPrefixOf_bare_code hchain,
      ih (p := (c, .code)) (fun hm => hline (List.mem_cons_of_mem c hm)) hclosed hchain (.inl rfl),
      Bool.or_assoc]
    rfl

/-! ### Comments -/

/-- The comment stands after blanks, and nothing else is in the line. -/
def Alone (ls : List Lexeme) (body : Text) : Prop :=
  ∃ before, ls = before ++ [.comment body] ∧ Text.IsGap (spelled before)

/-- The comment stands after code or a tag in the line. -/
def Remark (ls : List Lexeme) (body : Text) : Prop :=
  ∃ before, ls = before ++ [.comment body] ∧ ¬ Text.IsGap (spelled before)

theorem alone_cons_iff : Alone (l :: ls) body ↔
    l = .comment body ∧ ls = [] ∨ Text.IsGap l.text ∧ Alone ls body := by
  constructor
  · rintro ⟨before, hls, hgap⟩
    cases before with
    | nil => exact .inl (List.cons.inj hls)
    | cons b before =>
      obtain ⟨rfl, rfl⟩ := List.cons.inj hls
      rw [spelled_cons] at hgap
      obtain ⟨hl, hbefore⟩ := List.forall_mem_append.1 hgap
      exact .inr ⟨hl, before, rfl, hbefore⟩
  · rintro (⟨rfl, rfl⟩ | ⟨hl, before, rfl, hgap⟩)
    · exact ⟨[], rfl, fun c hc => absurd hc List.not_mem_nil⟩
    · refine ⟨l :: before, rfl, ?_⟩
      rw [spelled_cons]
      exact List.forall_mem_append.2 ⟨hl, hgap⟩

theorem isCommentLine_eq_false (hc : Text.isBlank c = false)
    (hslashes : ¬ (c = '/' ∧ rest.head? = some '/')) : isCommentLine (c :: rest) = false := by
  rw [isCommentLine, Text.trimLeft_cons hc, Bool.eq_false_iff, Ne, List.isPrefixOf_iff_prefix]
  intro h
  obtain ⟨hfirst, later, rfl⟩ := List.cons_prefix_cons.1 h
  exact hslashes ⟨hfirst.symm, rfl⟩

/-- **Which lines the search passes over.** -/
theorem Cut.isCommentLine_iff (h : Cut t ls) (hline : '\n' ∉ t) :
    isCommentLine t = true ↔ ∃ body, Alone ls body := by
  -- a raw string is neither blank nor a comment
  have htick : ∀ {l : Lexeme} {ls rest}, l.text.head? = some '`' →
      (isCommentLine ('`' :: rest) = true ↔ ∃ body, Alone (l :: ls) body) := by
    intro l ls rest hl
    rw [isCommentLine_eq_false rfl (by simp)]
    refine iff_of_false Bool.false_ne_true fun ⟨body, halone⟩ => ?_
    rcases alone_cons_iff.1 halone with ⟨rfl, -⟩ | ⟨hgap, -⟩
    · cases hl
    · exact absurd (hgap '`' (List.mem_of_mem_head? hl)) (by decide)
  induction h with
  | nil =>
    refine iff_of_false Bool.false_ne_true ?_
    rintro ⟨body, before, h, -⟩
    exact absurd (List.append_eq_nil_iff.1 h.symm).2 (List.cons_ne_nil _ _)
  | raw hbody hrest ih => exact htick rfl
  | openRaw hbody => exact htick rfl
  | comment hbody hend hrest ih =>
    obtain ⟨rfl, rfl⟩ := hrest.eq_nil_of_line (fun hm => hline (by simp [hm])) hend
    exact iff_of_true rfl ⟨_, alone_cons_iff.2 (.inl ⟨rfl, rfl⟩)⟩
  | code hne hslashes hrest ih =>
    rename_i c rest ls
    have hcons : (∃ body, Alone (.code c :: ls) body) ↔
        Text.isBlank c = true ∧ ∃ body, Alone ls body := by
      simp [alone_cons_iff, Text.IsGap, Lexeme.text]
    rw [hcons]
    cases hc : Text.isBlank c with
    | true =>
      have htrim : isCommentLine (c :: rest) = isCommentLine rest :=
        congrArg ("//" : Text).isPrefixOf (List.dropWhile_cons_of_pos hc)
      have hrest := ih fun hm => hline (List.mem_cons_of_mem c hm)
      rw [htrim, and_iff_right rfl]
      exact hrest
    | false => simp [isCommentLine_eq_false hc hslashes]

/-- A comment is the last lexeme of its line. -/
theorem Cut.exists_eq_append_of_mem (h : Cut t ls) (hline : '\n' ∉ t)
    (hmem : .comment body ∈ ls) : ∃ before, ls = before ++ [.comment body] := by
  have hlater : ∀ {l : Lexeme} {ls}, .comment body ∈ l :: ls → l ≠ .comment body →
      (.comment body ∈ ls → ∃ before, ls = before ++ [.comment body]) →
        ∃ before, l :: ls = before ++ [.comment body] := by
    intro l ls hmem hne hls
    obtain ⟨before, rfl⟩ := hls ((List.mem_cons.1 hmem).resolve_left hne.symm)
    exact ⟨l :: before, rfl⟩
  induction h with
  | nil => cases hmem
  | raw hbody hrest ih => exact hlater hmem (by simp) (ih fun hm => hline (by simp [hm]))
  | openRaw hbody => exact hlater hmem (by simp) fun hm => by cases hm
  | comment hbody hend hrest ih =>
    obtain ⟨rfl, rfl⟩ := hrest.eq_nil_of_line (fun hm => hline (by simp [hm])) hend
    rw [List.mem_singleton] at hmem
    exact ⟨[], by rw [hmem]; rfl⟩
  | code hne hslashes hrest ih => exact hlater hmem (by simp) (ih fun hm => hline (by simp [hm]))

theorem Cut.any_remarks_iff (h : Cut t ls) (hline : '\n' ∉ t) :
    ls.any Lexeme.remarks = true ↔ ∃ before body, ls = before ++ [.comment body] ∧
      readsLikeMention body = true := by
  rw [List.any_eq_true]
  constructor
  · rintro ⟨l, hl, hremarks⟩
    cases l with
    | comment body =>
      obtain ⟨before, hls⟩ := h.exists_eq_append_of_mem hline hl
      exact ⟨before, body, hls, hremarks⟩
    | _ => cases hremarks
  · rintro ⟨before, body, rfl, hremarks⟩
    exact ⟨_, List.mem_append_right before List.mem_cons_self, hremarks⟩

/-- There is no mention in blanks and a comment. -/
theorem Alone.mentionedIn_eq (h : Alone ls body) : mentionedIn false (zoned ls) = false := by
  obtain ⟨before, rfl, hgap⟩ := h
  rw [Bool.eq_false_iff]
  intro hmentioned
  obtain ⟨zs, after, hzoned, -⟩ := mentionedIn_iff.1 hmentioned
  have hmem : ('t', Zone.code) ∈ zoned (before ++ [.comment body]) := by
    rw [hzoned]
    exact List.mem_append_right zs (List.mem_append_left after (by decide))
  obtain ⟨l, hl, hmem⟩ := List.mem_flatMap.1 hmem
  obtain ⟨c, hc, hzone⟩ := List.mem_map.1 hmem
  obtain ⟨rfl, hzone⟩ := Prod.mk.inj hzone
  rcases List.mem_append.1 hl with hl | hl
  · exact absurd (hgap 't' (List.mem_flatMap.2 ⟨l, hl, hc⟩)) (by decide)
  · rw [List.mem_singleton.1 hl] at hzone
    cases hzone

/-- **What the search finds in a line**: a mention in its code, or what it takes for one in a
comment after code. -/
theorem Cut.refersToTime_iff (h : Cut t ls) (hline : '\n' ∉ t) (hclosed : leftOpen ls = false)
    (hapart : (zoned ls).IsChain Apart) :
    refersToTime t = true ↔ mentionedIn false (zoned ls) = true ∨
      ∃ body, Remark ls body ∧ readsLikeMention body = true := by
  have hstart : (('\n', Zone.code) :: zoned ls).IsChain Apart := by
    rw [List.isChain_cons]
    exact ⟨fun _ _ _ _ => rfl, hapart⟩
  have hsearch := h.mentionsTime_eq hline hclosed hstart (.inl rfl)
  have hinside : Text.isWord '\n' = false := rfl
  rw [hinside] at hsearch
  rw [refersToTime, h.outsideTags_eq hline, hsearch, Bool.and_eq_true, Bool.not_eq_true',
    Bool.or_eq_true, h.any_remarks_iff hline]
  cases hcomment : isCommentLine t with
  | true =>
    obtain ⟨body, halone⟩ := (h.isCommentLine_iff hline).1 hcomment
    rw [halone.mentionedIn_eq]
    refine iff_of_false (fun h => by cases h.1) ?_
    rintro (hfalse | ⟨body', ⟨before', hls', hgap'⟩, -⟩)
    · cases hfalse
    · obtain ⟨before, hls, hgap⟩ := halone
      obtain ⟨rfl, -⟩ := List.append_inj' (hls.symm.trans hls') rfl
      exact hgap' hgap
  | false =>
    rw [and_iff_right rfl]
    refine or_congr_right ⟨?_, ?_⟩
    · rintro ⟨before, body, hls, hremarks⟩
      refine ⟨body, ⟨before, hls, fun hgap => ?_⟩, hremarks⟩
      rw [(h.isCommentLine_iff hline).2 ⟨body, before, hls, hgap⟩] at hcomment
      cases hcomment
    · rintro ⟨body, ⟨before, hls, -⟩, hremarks⟩
      exact ⟨before, body, hls, hremarks⟩

/-! ### Mentions in a source -/

theorem mentionedIn_lined (cuts : List (List Lexeme)) :
    mentionedIn false (zoned (lined cuts)) = cuts.any fun cut => mentionedIn false (zoned cut) := by
  induction cuts with
  | nil => rfl
  | cons cut cuts ih =>
    cases cuts with
    | nil => rw [lined_singleton, List.any_cons, List.any_nil, Bool.or_false]
    | cons cut' cuts =>
      have hnewline : zoned (.code '\n' :: lined (cut' :: cuts)) =
          ('\n', .code) :: zoned (lined (cut' :: cuts)) := rfl
      rw [lined_cons_cons, zoned_append, hnewline, mentionedIn_append_newline, ih]
      rfl

/-- **The search finds the mentions of the time package, and takes comments after code for code.**
Where no raw string goes over the end of a line or touches a word before it, a balanced source is
said to refer to the package if it mentions it in its code or if a comment that stands after code or
a tag in its line reads like a mention; without comments of this kind, exactly if it mentions it. -/
theorem usesTime_iff (hcheck : check source = .ok ()) (htags : TagsApart source) :
    (usesTime source = true ↔ MentionsTime source ∨ ∃ line ∈ Text.lines source, ∃ body,
      Remark (lexemes line) body ∧ readsLikeMention body = true) ∧
    ((∀ line ∈ Text.lines source, ∀ body, ¬ Remark (lexemes line) body) →
      (usesTime source = true ↔ MentionsTime source)) := by
  have hzones := (cut_lexemes source).zonesFrom_eq
  obtain ⟨hraw, hapart⟩ := htags
  rw [hzones] at hraw hapart
  have hclosed := ((check_eq_ok_iff_dyckWord source).1 hcheck).1
  obtain ⟨cuts, hcuts, hlined⟩ := (cut_lexemes source).exists_lines hclosed hraw
  rw [hlined] at hclosed hapart
  -- a line is cut as it is in the source, so what holds of the source holds of the line
  have hline : ∀ {line cut}, line ∈ Text.lines source → cut ∈ cuts → Cut line cut →
      (refersToTime line = true ↔ mentionedIn false (zoned cut) = true ∨
        ∃ body, Remark (lexemes line) body ∧ readsLikeMention body = true) := by
    intro line cut hmem hcut h
    have hopen : leftOpen cut = false := List.any_eq_false.2 fun l hl =>
      List.any_eq_false.1 hclosed l ((infix_lined hcut).subset hl)
    have hchain := List.IsChain.infix hapart (infix_zoned (infix_lined hcut))
    rw [(cut_lexemes line).unique h]
    exact h.refersToTime_iff (Text.not_mem_lines source line hmem) hopen hchain
  have hiff : usesTime source = true ↔ MentionsTime source ∨ ∃ line ∈ Text.lines source, ∃ body,
      Remark (lexemes line) body ∧ readsLikeMention body = true := by
    rw [mentionsTime_iff_mentionedIn, hzones, hlined, mentionedIn_lined, List.any_eq_true]
    have huses : usesTime source = (Text.lines source).any refersToTime := rfl
    rw [huses, List.any_eq_true]
    constructor
    · rintro ⟨line, hmem, hrefers⟩
      obtain ⟨cut, hcut, h⟩ := exists_of_forall₂ hcuts hmem
      exact ((hline hmem hcut h).1 hrefers).imp (fun hm => ⟨cut, hcut, hm⟩)
        fun hm => ⟨line, hmem, hm⟩
    · rintro (⟨cut, hcut, hm⟩ | ⟨line, hmem, hm⟩)
      · obtain ⟨line, hmem, h⟩ := exists_of_forall₂ hcuts.flip hcut
        exact ⟨line, hmem, (hline hmem hcut h).2 (.inl hm)⟩
      · obtain ⟨cut, hcut, h⟩ := exists_of_forall₂ hcuts hmem
        exact ⟨line, hmem, (hline hmem hcut h).2 (.inr hm)⟩
  refine ⟨hiff, fun hnone => hiff.trans (or_iff_left ?_)⟩
  rintro ⟨line, hmem, body, hremark, -⟩
  exact hnone line hmem body hremark

/-- A field of times with a tag and a comment. -/
def arrivalLine : Text := "\tAt time.Time `xml:\"at.time.\"` // on time\n"

theorem usesTime_iff_arrival :
    check arrivalLine = .ok () ∧ TagsApart arrivalLine ∧ MentionsTime arrivalLine ∧
    usesTime arrivalLine = true := by
  have hcheck : check arrivalLine = .ok () := rfl
  have htags : TagsApart arrivalLine := by decide +kernel
  have hmentions : MentionsTime arrivalLine := by decide +kernel
  exact ⟨hcheck, htags, hmentions, (usesTime_iff hcheck htags).1.2 (.inl hmentions)⟩

/-- A comment after a field is taken for code. -/
theorem not_forall_usesTime_iff :
    ¬ ∀ source, check source = .ok () → (usesTime source = true ↔ MentionsTime source) := by
  intro h
  have hremark := h
    "package models\n\ntype A struct \x7b\n\tAt string // not a time.Time\n\x7d\n"
    (by decide +kernel)
  exact absurd (hremark.1 (by decide +kernel)) (by decide +kernel)

-- a raw string that goes over the end of a line is taken for code in the next one
example : usesTime "`\ntime.`" = true ∧ ¬ MentionsTime "`\ntime.`" := by decide +kernel

-- a word before a raw string hides a mention after it
example : usesTime "x`y`time.Time" = false ∧ MentionsTime "x`y`time.Time" := by decide +kernel

end Source

end SchemaStructs
