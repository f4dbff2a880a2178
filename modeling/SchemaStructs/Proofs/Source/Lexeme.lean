import Mathlib.Combinatorics.Enumerative.DyckWord
import Mathlib.Data.List.TakeWhile
import SchemaStructs.Proofs.Computation
import SchemaStructs.Proofs.Text.Pieces
import SchemaStructs.Source.Balance

/-!
# Lexemes of a source

A source is cut into lexemes from left to right (`Source.lexemes`): a raw string from a backtick to
the next one, a comment from two slashes to the end of the line, and any other character by itself.
The braces among the characters are the steps of a path (`Source.braces`), which goes up at an
opening brace and down at a closing one.

The check goes through the source once, character by character.  Its verdict is that of the path
(`Source.check_verdict`): a source is balanced if and only if its raw strings are closed and its
braces are a Dyck word.  If the path gets below the level it started at, the closing brace that
leads there is what is wrong; else a raw string that is not closed is, and else the braces at the
end of the path.
-/

namespace SchemaStructs

namespace Source

open DyckStep

/-! ### Cutting -/

/-- A part of a source. -/
inductive Lexeme where
  /-- A character of code. -/
  | code (c : Char)
  /-- A raw string, with what stands between its backticks. -/
  | raw (body : Text)
  /-- A raw string that is not closed, with what follows its backtick. -/
  | openRaw (body : Text)
  /-- A comment, with what follows its slashes up to the end of the line. -/
  | comment (body : Text)
  deriving DecidableEq, Repr

namespace Lexeme

/-- The lexeme as it stands in a source. -/
def text : Lexeme → Text
  | code c => [c]
  | raw body => '`' :: (body ++ ['`'])
  | openRaw body => '`' :: body
  | comment body => '/' :: '/' :: body

/-- The lexeme is a raw string that is not closed. -/
def isOpen : Lexeme → Bool
  | openRaw _ => true
  | _ => false

/-- The step of a brace: up if it opens, down if it closes. -/
def step? : Lexeme → Option DyckStep
  | code c => if c = '\x7b' then some U else if c = '\x7d' then some D else none
  | _ => none

end Lexeme

/-- The lexemes of a source, from left to right. -/
def lexemes : Text → List Lexeme
  | [] => []
  | '`' :: rest =>
    match _h : rest.dropWhile (· != '`') with
    | [] => [.openRaw rest]
    | _ :: later => .raw (rest.takeWhile (· != '`')) :: lexemes later
  | '/' :: '/' :: rest =>
    .comment (rest.takeWhile (· != '\n')) :: lexemes (rest.dropWhile (· != '\n'))
  | c :: rest => .code c :: lexemes rest
termination_by t => t.length
decreasing_by
  · have hle := (List.dropWhile_suffix (l := rest) (· != '`')).length_le
    rw [_h, List.length_cons] at hle
    rw [List.length_cons]
    omega
  · have hle := (List.dropWhile_suffix (l := rest) (· != '\n')).length_le
    simp only [List.length_cons]
    omega
  · simp

/-- The text that lexemes make up. -/
def spelled (ls : List Lexeme) : Text := ls.flatMap Lexeme.text

/-- The steps of the braces among lexemes. -/
def braces (ls : List Lexeme) : List DyckStep := ls.filterMap Lexeme.step?

/-- A raw string is left open. -/
def leftOpen (ls : List Lexeme) : Bool := ls.any Lexeme.isOpen

/-- How a source is cut: the rules of raw strings, comments and code. -/
inductive Cut : Text → List Lexeme → Prop where
  /-- Nothing is left. -/
  | nil : Cut [] []
  /-- A raw string lasts to the next backtick. -/
  | raw {body rest : Text} {ls : List Lexeme} (hbody : '`' ∉ body) (hrest : Cut rest ls) :
      Cut ('`' :: (body ++ '`' :: rest)) (.raw body :: ls)
  /-- A raw string without a second backtick lasts to the end. -/
  | openRaw {body : Text} (hbody : '`' ∉ body) : Cut ('`' :: body) [.openRaw body]
  /-- A comment lasts to the end of the line. -/
  | comment {body rest : Text} {ls : List Lexeme} (hbody : '\n' ∉ body)
      (hend : rest = [] ∨ ∃ later, rest = '\n' :: later) (hrest : Cut rest ls) :
      Cut ('/' :: '/' :: (body ++ rest)) (.comment body :: ls)
  /-- A character that starts neither is code. -/
  | code {c : Char} {rest : Text} {ls : List Lexeme} (htick : c ≠ '`')
      (hslashes : ¬(c = '/' ∧ rest.head? = some '/')) (hrest : Cut rest ls) :
      Cut (c :: rest) (.code c :: ls)

variable {l : Lexeme} {ls before : List Lexeme} {t body rest : Text} {c : Char} {z : Zone}
variable {w : List DyckStep} {d n line : Nat}

@[simp] theorem spelled_nil : spelled [] = [] := rfl

@[simp] theorem spelled_cons (l : Lexeme) (ls : List Lexeme) :
    spelled (l :: ls) = l.text ++ spelled ls := List.flatMap_cons

theorem not_mem_takeWhile (c : Char) (t : Text) : c ∉ t.takeWhile (· != c) := fun hm => by
  simpa using List.mem_takeWhile_imp hm

/-- A text without the character, or what stands before it, the character and the rest. -/
theorem dropWhile_cases (c : Char) (t : Text) : t.dropWhile (· != c) = [] ∧ c ∉ t ∨
    ∃ later, t.dropWhile (· != c) = c :: later ∧ t = t.takeWhile (· != c) ++ c :: later := by
  have hhead := List.head?_dropWhile_not (· != c) t
  have hwhole := List.takeWhile_append_dropWhile (p := (· != c)) (l := t)
  cases ht : t.dropWhile (· != c) with
  | nil => exact .inl ⟨rfl, fun hm => by simpa using List.dropWhile_eq_nil_iff.1 ht c hm⟩
  | cons x later =>
    rw [ht] at hhead hwhole
    obtain rfl : x = c := by simpa using hhead
    exact .inr ⟨later, rfl, hwhole.symm⟩

/-- **Every source is cut by the rules.** -/
theorem cut_lexemes (t : Text) : Cut t (lexemes t) := by
  fun_induction lexemes t with
  | case1 => exact .nil
  | case2 rest hnone =>
    rcases dropWhile_cases '`' rest with ⟨-, hbody⟩ | ⟨later, hlater, -⟩
    · exact .openRaw hbody
    · rw [hnone] at hlater
      cases hlater
  | case3 rest x later hlater ih =>
    rcases dropWhile_cases '`' rest with ⟨hnone, -⟩ | ⟨later', hlater', hrest⟩
    · rw [hlater] at hnone
      cases hnone
    · obtain rfl : later = later' := (List.cons.inj (hlater.symm.trans hlater')).2
      have hraw := Cut.raw (not_mem_takeWhile '`' rest) ih
      rwa [← hrest] at hraw
  | case4 rest ih =>
    have hend : rest.dropWhile (· != '\n') = [] ∨
        ∃ later, rest.dropWhile (· != '\n') = '\n' :: later :=
      (dropWhile_cases '\n' rest).imp And.left fun ⟨later, hlater, _⟩ => ⟨later, hlater⟩
    have hcomment := Cut.comment (not_mem_takeWhile '\n' rest) hend ih
    rwa [List.takeWhile_append_dropWhile] at hcomment
  | case5 c rest htick hslashes ih =>
    refine .code htick (fun ⟨hc, hnext⟩ => ?_) ih
    obtain ⟨later, hlater⟩ := List.head?_eq_some_iff.1 hnext
    exact hslashes later hc hlater

/-- A line is told from what follows its end. -/
theorem append_line_inj {body' rest' : Text} (hbody : '\n' ∉ body) (hbody' : '\n' ∉ body')
    (hend : rest = [] ∨ ∃ later, rest = '\n' :: later)
    (hend' : rest' = [] ∨ ∃ later, rest' = '\n' :: later)
    (h : body ++ rest = body' ++ rest') : body = body' ∧ rest = rest' := by
  rcases hend with rfl | ⟨later, rfl⟩
  · rcases hend' with rfl | ⟨later', rfl⟩
    · simpa using h
    · rw [List.append_nil] at h
      exact absurd (h ▸ List.mem_append_right body' List.mem_cons_self) hbody
  · rcases hend' with rfl | ⟨later', rfl⟩
    · rw [List.append_nil] at h
      exact absurd (h ▸ List.mem_append_right body List.mem_cons_self) hbody'
    · obtain ⟨rfl, rfl⟩ := Text.append_cons_inj hbody hbody' h
      exact ⟨rfl, rfl⟩

/-- The rules leave no choice. -/
theorem Cut.unique {ls' : List Lexeme} (h : Cut t ls) (h' : Cut t ls') : ls = ls' := by
  induction h generalizing ls' with
  | nil =>
    cases h'
    rfl
  | raw hbody hrest ih =>
    rename_i body rest ls
    generalize ht : body ++ '`' :: rest = t at h'
    cases h' with
    | raw hbody' hrest' =>
      obtain ⟨rfl, rfl⟩ := Text.append_cons_inj hbody hbody' ht
      rw [ih hrest']
    | openRaw hbody' =>
      exact absurd (ht ▸ List.mem_append_right body List.mem_cons_self) hbody'
    | code htick _ _ => exact absurd rfl htick
  | openRaw hbody =>
    cases h' with
    | raw _ _ => exact absurd (List.mem_append_right _ List.mem_cons_self) hbody
    | openRaw _ => rfl
    | code htick _ _ => exact absurd rfl htick
  | comment hbody hend hrest ih =>
    rename_i body rest ls
    generalize ht : body ++ rest = t at h'
    cases h' with
    | comment hbody' hend' hrest' =>
      obtain ⟨rfl, rfl⟩ := append_line_inj hbody hbody' hend hend' ht
      rw [ih hrest']
    | code _ hslashes _ => exact absurd ⟨rfl, rfl⟩ hslashes
  | code htick hslashes hrest ih =>
    cases h' with
    | raw _ _ => exact absurd rfl htick
    | openRaw _ => exact absurd rfl htick
    | comment _ _ _ => exact absurd ⟨rfl, rfl⟩ hslashes
    | code _ _ hrest' => rw [ih hrest']

/-- Nothing is lost in cutting. -/
theorem Cut.spelled_eq (h : Cut t ls) : spelled ls = t := by
  induction h with
  | nil => rfl
  | raw hbody hrest ih => simp [Lexeme.text, ih]
  | openRaw hbody => simp [Lexeme.text]
  | comment hbody hend hrest ih => simp [Lexeme.text, ih]
  | code htick hslashes hrest ih => simp [Lexeme.text, ih]

/-! ### The path of the braces -/

/-- The depth after a lexeme, given the depth before it, unless it closes a brace that is not
open. -/
def Lexeme.depth? (l : Lexeme) (depth : Nat) : Option Nat :=
  match l.step? with
  | none => some depth
  | some U => some (depth + 1)
  | some D => if depth = 0 then none else some (depth - 1)

/-- The depth after some lexemes, or the line of the first brace that closes none, given the depth
and the line before them. -/
def climb (depth line : Nat) : List Lexeme → Except BalanceFault Nat
  | [] => .ok depth
  | l :: ls =>
    match l.depth? depth with
    | none => .error (.stray line)
    | some depth => climb depth (line + l.text.count '\n') ls

/-- What is said of a source whose path ends at the given depth. -/
def verdict (inRaw : Bool) (depth : Nat) : Except BalanceFault Unit :=
  if inRaw then .error .openTag else if depth = 0 then .ok () else .error (.unclosed depth)

/-- Outside of code a character does not count as a brace. -/
theorem checkFrom_cons (h : z.enter c rest.head? ≠ .code) (d line : Nat) :
    checkFrom z d line (c :: rest) = checkFrom (z.leave (z.enter c rest.head?) c) d
      (if c = '\n' then line + 1 else line) rest :=
  (if_neg fun hopen => h hopen.1).trans (if_neg fun hclose => h hclose.1)

theorem add_count_newline (c : Char) (t : Text) (line : Nat) :
    (if c = '\n' then line + 1 else line) + t.count '\n' = line + (c :: t).count '\n' := by
  by_cases hc : c = '\n'
  · rw [if_pos hc, hc, List.count_cons_self]
    omega
  · rw [if_neg hc, List.count_cons_of_ne hc]

/-- The inside of a raw string is passed over. -/
theorem checkFrom_raw (h : '`' ∉ body) (d line : Nat) (rest : Text) :
    checkFrom .raw d line (body ++ rest) =
      checkFrom .raw d (line + body.count '\n') rest := by
  induction body generalizing line with
  | nil => rfl
  | cons c body ih =>
    obtain ⟨hc, hbody⟩ := not_or.1 (mt List.mem_cons.2 h)
    have hzone : Zone.enter .raw c (body ++ rest).head? = .raw := rfl
    have hleave : Zone.leave .raw .raw c = .raw := if_neg fun hleave => hc hleave.2.symm
    rw [List.cons_append, checkFrom_cons (by rw [hzone]; decide), hzone, hleave, ih hbody,
      add_count_newline]

/-- The inside of a comment is passed over. -/
theorem checkFrom_comment (h : '\n' ∉ body) (d line : Nat) (rest : Text) :
    checkFrom .comment d line (body ++ rest) = checkFrom .comment d line rest := by
  induction body with
  | nil => rfl
  | cons c body ih =>
    obtain ⟨hc, hbody⟩ := not_or.1 (mt List.mem_cons.2 h)
    have hzone : Zone.enter .comment c (body ++ rest).head? = .comment := if_neg (Ne.symm hc)
    rw [List.cons_append, checkFrom_cons (by rw [hzone]; decide), hzone, if_neg (Ne.symm hc)]
    exact ih hbody

/-- Where a comment ends there is code again. -/
theorem checkFrom_comment_end (h : rest = [] ∨ ∃ later, rest = '\n' :: later) (d line : Nat) :
    checkFrom .comment d line rest = checkFrom .code d line rest := by
  rcases h with rfl | ⟨later, rfl⟩
  · rfl
  · rfl

/-- A lexeme that is no brace only counts its lines. -/
theorem climb_cons_of_none (h : l.step? = none) (d line : Nat) (ls : List Lexeme) :
    climb d line (l :: ls) = climb d (line + l.text.count '\n') ls := by
  rw [climb, Lexeme.depth?, h]

/-- Behind a raw string the check goes on with code. -/
theorem checkFrom_raw_closed (h : '`' ∉ body) (d line : Nat) (rest : Text) :
    checkFrom .code d line ('`' :: (body ++ '`' :: rest)) =
      checkFrom .code d (line + (Lexeme.raw body).text.count '\n') rest := by
  have hopen : checkFrom .code d line ('`' :: (body ++ '`' :: rest)) =
      checkFrom .raw d line (body ++ '`' :: rest) := rfl
  have hclose (line : Nat) : checkFrom .raw d line ('`' :: rest) =
      checkFrom .code d line rest := rfl
  have hcount : (Lexeme.raw body).text.count '\n' = body.count '\n' := by simp [Lexeme.text]
  rw [hopen, checkFrom_raw h, hclose, hcount]

/-- Behind a comment the check goes on with code. -/
theorem checkFrom_comment_closed (h : '\n' ∉ body)
    (hend : rest = [] ∨ ∃ later, rest = '\n' :: later) (d line : Nat) :
    checkFrom .code d line ('/' :: '/' :: (body ++ rest)) =
      checkFrom .code d (line + (Lexeme.comment body).text.count '\n') rest := by
  have hopen : checkFrom .code d line ('/' :: '/' :: (body ++ rest)) =
      checkFrom .comment d line (body ++ rest) := rfl
  have hcount : (Lexeme.comment body).text.count '\n' = 0 := by
    simp [Lexeme.text, List.count_eq_zero.2 h]
  rw [hopen, checkFrom_comment h, checkFrom_comment_end hend, hcount]
  rfl

/-- A character of code changes the depth, or closes no brace. -/
theorem checkFrom_code (htick : c ≠ '`') (hslashes : ¬(c = '/' ∧ rest.head? = some '/'))
    (d line : Nat) : checkFrom .code d line (c :: rest) =
      ((Lexeme.code c).depth? d).elim (.error (.stray line)) fun d' =>
        checkFrom .code d' (line + (Lexeme.code c).text.count '\n') rest := by
  have hzone : Zone.enter .code c rest.head? = .code := (if_neg htick).trans (if_neg hslashes)
  have hleave : Zone.leave .code .code c = .code := rfl
  rw [checkFrom, hzone, hleave]
  simp only [true_and]
  by_cases hopen : c = '\x7b'
  · subst hopen
    rfl
  by_cases hclose : c = '\x7d'
  · subst hclose
    cases d <;> rfl
  · have hstep : (Lexeme.code c).step? = none := (if_neg hopen).trans (if_neg hclose)
    have hcount : line + (Lexeme.code c).text.count '\n' =
        if c = '\n' then line + 1 else line := by
      simp only [Lexeme.text, List.count_singleton, beq_iff_eq]
      split <;> rfl
    rw [if_neg hopen, if_neg hclose, Lexeme.depth?, hstep, hcount]
    rfl

/-- **The check follows the path of the braces.** -/
theorem Cut.checkFrom_eq (h : Cut t ls) (d line : Nat) :
    checkFrom .code d line t = (climb d line ls).bind (verdict (leftOpen ls)) := by
  induction h generalizing d line with
  | nil => rfl
  | raw hbody hrest ih =>
    rw [checkFrom_raw_closed hbody, ih, climb_cons_of_none rfl]
    rfl
  | @openRaw body hbody =>
    have hopen : checkFrom .code d line ('`' :: body) = checkFrom .raw d line body := rfl
    have hend := checkFrom_raw hbody d line []
    rw [List.append_nil] at hend
    rw [hopen, hend]
    rfl
  | comment hbody hend hrest ih =>
    rw [checkFrom_comment_closed hbody hend, ih, climb_cons_of_none rfl]
    rfl
  | @code c rest ls htick hslashes hrest ih =>
    rw [checkFrom_code htick hslashes, climb]
    cases (Lexeme.code c).depth? d with
    | none => rfl
    | some d' => exact ih _ _

/-! ### Levels of the path -/

/-- A path that starts at the given level does not get below zero. -/
def StaysUp (d : Nat) (w : List DyckStep) : Prop :=
  ∀ i, (w.take i).count D ≤ d + (w.take i).count U

/-- After the lexemes `before` stands the first closing brace that closes none. -/
structure FirstStray (d : Nat) (ls before : List Lexeme) : Prop where
  /-- There is a closing brace. -/
  found : ∃ after, ls = before ++ .code '\x7d' :: after
  /-- No brace before it is a stray one. -/
  staysUp : StaysUp d (braces before)
  /-- All braces before it are closed. -/
  closed : d + (braces before).count U = (braces before).count D

@[simp] theorem staysUp_nil (d : Nat) : StaysUp d [] := fun i => by simp

/-- The first step of a path leads to the level that the rest starts at. -/
theorem staysUp_cons_iff {d' : Nat} {s : DyckStep}
    (h : s = U ∧ d' = d + 1 ∨ s = D ∧ d = d' + 1) : StaysUp d (s :: w) ↔ StaysUp d' w := by
  have hlater : ∀ i, ((s :: w).take (i + 1)).count D ≤ d + ((s :: w).take (i + 1)).count U ↔
      (w.take i).count D ≤ d' + (w.take i).count U := fun i => by
    rcases h with ⟨rfl, rfl⟩ | ⟨rfl, rfl⟩
    · rw [List.take_succ_cons, List.count_cons_self, List.count_cons_of_ne (by decide)]
      omega
    · rw [List.take_succ_cons, List.count_cons_self, List.count_cons_of_ne (by decide)]
      omega
  refine ⟨fun hup i => (hlater i).1 (hup (i + 1)), fun hup i => ?_⟩
  cases i with
  | zero => simp
  | succ i => exact (hlater i).2 (hup i)

theorem not_staysUp_cons_down (w : List DyckStep) : ¬ StaysUp 0 (D :: w) := fun h => by
  simpa using h 1

@[simp] theorem braces_nil : braces [] = [] := rfl

theorem braces_cons (l : Lexeme) (ls : List Lexeme) :
    braces (l :: ls) = l.step?.toList ++ braces ls := by
  rw [braces, List.filterMap_cons]
  cases l.step? <;> rfl

theorem Lexeme.eq_of_step?_down (h : l.step? = some D) : l = .code '\x7d' := by
  cases l with
  | code c =>
    by_cases hclose : c = '\x7d'
    · rw [hclose]
    · simp [step?, hclose] at h
  | _ => cases h

/-- A lexeme keeps the depth, or it is a brace. -/
theorem Lexeme.depth?_eq_some_cases {d' : Nat} (h : l.depth? d = some d') :
    l.step? = none ∧ d' = d ∨
      ∃ s, l.step? = some s ∧ (s = U ∧ d' = d + 1 ∨ s = D ∧ d = d' + 1) := by
  unfold depth? at h
  split at h
  · exact .inl ⟨‹_›, (Option.some.inj h).symm⟩
  · exact .inr ⟨U, ‹_›, .inl ⟨rfl, (Option.some.inj h).symm⟩⟩
  · split_ifs at h with hd
    have h := Option.some.inj h
    exact .inr ⟨D, ‹_›, .inr ⟨rfl, by omega⟩⟩

theorem Lexeme.depth?_eq_none_iff : l.depth? d = none ↔ l = .code '\x7d' ∧ d = 0 := by
  constructor
  · intro h
    unfold depth? at h
    split at h
    · cases h
    · cases h
    · split_ifs at h with hd
      exact ⟨eq_of_step?_down ‹_›, hd⟩
  · rintro ⟨rfl, rfl⟩
    rfl

/-- What a lexeme does to the levels of the path after it. -/
theorem staysUp_braces_cons {d' : Nat} (h : l.depth? d = some d') :
    StaysUp d (braces (l :: ls)) ↔ StaysUp d' (braces ls) := by
  rw [braces_cons]
  rcases Lexeme.depth?_eq_some_cases h with ⟨hstep, rfl⟩ | ⟨s, hstep, hs⟩
  · rw [hstep]
    rfl
  · rw [hstep]
    exact staysUp_cons_iff hs

theorem count_braces_cons {d' : Nat} (h : l.depth? d = some d') (ls : List Lexeme) :
    d + (braces (l :: ls)).count U + (braces ls).count D =
      d' + (braces ls).count U + (braces (l :: ls)).count D := by
  rw [braces_cons, List.count_append, List.count_append]
  rcases Lexeme.depth?_eq_some_cases h with
    ⟨hstep, rfl⟩ | ⟨s, hstep, ⟨rfl, rfl⟩ | ⟨rfl, rfl⟩⟩
  · have hcounts : l.step?.toList.count U = 0 ∧ l.step?.toList.count D = 0 := by simp [hstep]
    omega
  · have hcounts : l.step?.toList.count U = 1 ∧ l.step?.toList.count D = 0 := by simp [hstep]
    omega
  · have hcounts : l.step?.toList.count U = 0 ∧ l.step?.toList.count D = 1 := by simp [hstep]
    omega

theorem climb_eq_ok_iff : climb d line ls = .ok n ↔
    StaysUp d (braces ls) ∧ d + (braces ls).count U = n + (braces ls).count D := by
  induction ls generalizing d line with
  | nil => simp [climb]
  | cons l ls ih =>
    rw [climb]
    cases hdepth : l.depth? d with
    | none =>
      obtain ⟨rfl, rfl⟩ := Lexeme.depth?_eq_none_iff.1 hdepth
      have hdown : ¬ StaysUp 0 (braces (.code '\x7d' :: ls)) := not_staysUp_cons_down _
      simp [hdown]
    | some d' =>
      have hcount := count_braces_cons hdepth ls
      simp only [ih, staysUp_braces_cons hdepth]
      refine and_congr_right fun _ => ?_
      omega

theorem climb_eq_error_iff {f : BalanceFault} : climb d line ls = .error f ↔
    ∃ before, FirstStray d ls before ∧ f = .stray (line + (spelled before).count '\n') := by
  induction ls generalizing d line with
  | nil =>
    constructor
    · intro h
      cases h
    · rintro ⟨before, ⟨⟨after, hls⟩, -, -⟩, -⟩
      cases before <;> cases hls
  | cons l ls ih =>
    rw [climb]
    cases hdepth : l.depth? d with
    | none =>
      obtain ⟨rfl, rfl⟩ := Lexeme.depth?_eq_none_iff.1 hdepth
      constructor
      · intro h
        exact ⟨[], ⟨⟨ls, rfl⟩, staysUp_nil 0, rfl⟩, (Except.error.inj h).symm⟩
      · rintro ⟨before, ⟨⟨after, hls⟩, hup, -⟩, rfl⟩
        -- a lexeme before the stray brace would be a stray one, too
        cases before with
        | nil => rfl
        | cons b before =>
          obtain ⟨rfl, -⟩ := List.cons.inj hls
          exact absurd hup (not_staysUp_cons_down _)
    | some d' =>
      simp only [ih]
      constructor
      · rintro ⟨before, ⟨⟨after, rfl⟩, hup, hclosed⟩, rfl⟩
        have hcount := count_braces_cons hdepth before
        refine ⟨l :: before, ⟨⟨after, rfl⟩, (staysUp_braces_cons hdepth).2 hup, by omega⟩, ?_⟩
        rw [spelled_cons, List.count_append, Nat.add_assoc]
      · rintro ⟨before, ⟨⟨after, hls⟩, hup, hclosed⟩, rfl⟩
        cases before with
        | nil =>
          obtain ⟨rfl, -⟩ := List.cons.inj hls
          have hd : d = 0 := hclosed
          rw [Lexeme.depth?_eq_none_iff.2 ⟨rfl, hd⟩] at hdepth
          cases hdepth
        | cons b before =>
          obtain ⟨rfl, rfl⟩ := List.cons.inj hls
          have hcount := count_braces_cons hdepth before
          refine ⟨before, ⟨⟨after, rfl⟩, (staysUp_braces_cons hdepth).1 hup, by omega⟩, ?_⟩
          rw [spelled_cons, List.count_append, Nat.add_assoc]

/-- A path that does not get below zero ends somewhere. -/
theorem exists_climb_eq_ok_iff (line : Nat) :
    (∃ n, climb d line ls = .ok n) ↔ StaysUp d (braces ls) := by
  simp only [climb_eq_ok_iff]
  constructor
  · rintro ⟨n, hup, -⟩
    exact hup
  · intro hup
    have hlast := hup (braces ls).length
    rw [List.take_length] at hlast
    exact ⟨d + (braces ls).count U - (braces ls).count D, hup, by omega⟩

/-- A path gets below zero at the first brace that closes none. -/
theorem exists_firstStray_iff : (∃ before, FirstStray d ls before) ↔ ¬ StaysUp d (braces ls) := by
  rw [← exists_climb_eq_ok_iff 0]
  constructor
  · rintro ⟨before, hstray⟩ ⟨n, hn⟩
    have herror : climb d 0 ls = .error _ := climb_eq_error_iff.2 ⟨before, hstray, rfl⟩
    rw [hn] at herror
    cases herror
  · intro hnone
    cases hclimb : climb d 0 ls with
    | ok n => exact absurd ⟨n, hclimb⟩ hnone
    | error f =>
      obtain ⟨before, hstray, -⟩ := climb_eq_error_iff.1 hclimb
      exact ⟨before, hstray⟩

/-- A path is a Dyck word if it does not get below zero and ends there. -/
theorem exists_dyckWord_iff : (∃ p : DyckWord, p.toList = w) ↔
    StaysUp 0 w ∧ w.count U = w.count D := by
  constructor
  · rintro ⟨p, rfl⟩
    exact ⟨fun i => by simpa using p.count_D_le_count_U i, p.count_U_eq_count_D⟩
  · rintro ⟨hup, hcount⟩
    exact ⟨⟨w, hcount, fun i => by simpa using hup i⟩, rfl⟩

/-! ### The verdict -/

theorem verdict_eq_ok_iff {inRaw : Bool} : verdict inRaw n = .ok () ↔ inRaw = false ∧ n = 0 := by
  unfold verdict
  split_ifs <;> simp_all

theorem verdict_eq_error_iff {inRaw : Bool} {f : BalanceFault} : verdict inRaw n = .error f ↔
    inRaw = true ∧ f = .openTag ∨ inRaw = false ∧ n ≠ 0 ∧ f = .unclosed n := by
  unfold verdict
  split_ifs <;> simp_all [eq_comm]

/-- The check climbs the path, and says what it finds on the way or where it ends. -/
theorem check_eq (source : Text) : check source =
    (climb 0 1 (lexemes source) >>= verdict (leftOpen (lexemes source))) :=
  (cut_lexemes source).checkFrom_eq 0 1

theorem check_eq_ok_iff_dyckWord (source : Text) : check source = .ok () ↔
    leftOpen (lexemes source) = false ∧ ∃ p : DyckWord, p.toList = braces (lexemes source) := by
  have hclimb : climb 0 1 (lexemes source) = .ok 0 ↔ _ := climb_eq_ok_iff
  rw [Nat.zero_add, Nat.zero_add, ← exists_dyckWord_iff] at hclimb
  rw [check_eq, bind_eq_ok_iff, ← hclimb]
  constructor
  · rintro ⟨n, hn, h⟩
    obtain ⟨hraw, rfl⟩ := verdict_eq_ok_iff.1 h
    exact ⟨hraw, hn⟩
  · rintro ⟨hraw, hn⟩
    exact ⟨0, hn, verdict_eq_ok_iff.2 ⟨hraw, rfl⟩⟩

theorem check_eq_error_iff {f : BalanceFault} (source : Text) : check source = .error f ↔
    (∃ before, FirstStray 0 (lexemes source) before ∧
      f = .stray (1 + (spelled before).count '\n')) ∨
    (StaysUp 0 (braces (lexemes source)) ∧ leftOpen (lexemes source) = true ∧ f = .openTag) ∨
    ∃ n, climb 0 1 (lexemes source) = .ok n ∧ leftOpen (lexemes source) = false ∧ n ≠ 0 ∧
      f = .unclosed n := by
  rw [check_eq, bind_eq_error_iff, climb_eq_error_iff, ← exists_climb_eq_ok_iff 1]
  simp only [verdict_eq_error_iff]
  refine or_congr_right ?_
  constructor
  · rintro ⟨n, hn, ⟨hraw, hf⟩ | ⟨hraw, hne, hf⟩⟩
    · exact .inl ⟨⟨n, hn⟩, hraw, hf⟩
    · exact .inr ⟨n, hn, hraw, hne, hf⟩
  · rintro (⟨⟨n, hn⟩, hraw, hf⟩ | ⟨n, hn, hraw, hne, hf⟩)
    · exact ⟨n, hn, .inl ⟨hraw, hf⟩⟩
    · exact ⟨n, hn, .inr ⟨hraw, hne, hf⟩⟩

/-- **The check accepts what is balanced, and else says what is wrong first.**  The source is cut
into lexemes by the rules of raw strings and comments, which leave no choice.  It is balanced if no
raw string is left open and its braces are a Dyck word.  The first brace that closes none is what is
wrong, if there is one, in the line that it stands in; else it is a raw string that is left open,
and else the number of braces that are. -/
theorem check_verdict (source : Text) :
    (∀ ls, Cut source ls ↔ ls = lexemes source) ∧ spelled (lexemes source) = source ∧
    (check source = .ok () ↔ leftOpen (lexemes source) = false ∧
      ∃ p : DyckWord, p.toList = braces (lexemes source)) ∧
    (∀ line, check source = .error (.stray line) ↔
      ∃ before, FirstStray 0 (lexemes source) before ∧
        line = 1 + (spelled before).count '\n') ∧
    ((∃ line, check source = .error (.stray line)) ↔ ¬ StaysUp 0 (braces (lexemes source))) ∧
    (check source = .error .openTag ↔
      StaysUp 0 (braces (lexemes source)) ∧ leftOpen (lexemes source) = true) ∧
    BalanceFault.openTag.message = ("unterminated struct tag" : Text) ∧
    ∀ n, check source = .error (.unclosed n) ↔
      StaysUp 0 (braces (lexemes source)) ∧ leftOpen (lexemes source) = false ∧ n ≠ 0 ∧
        (braces (lexemes source)).count U = n + (braces (lexemes source)).count D := by
  have hcut := cut_lexemes source
  refine ⟨fun ls => ⟨fun h => h.unique hcut, fun h => h ▸ hcut⟩, hcut.spelled_eq,
    check_eq_ok_iff_dyckWord source, fun line => ?_, ?_, ?_, rfl, fun n => ?_⟩
  · simp [check_eq_error_iff]
  · rw [← exists_firstStray_iff]
    simp [check_eq_error_iff]
  · simp [check_eq_error_iff]
  · simp [check_eq_error_iff, climb_eq_ok_iff, and_assoc, and_comm, and_left_comm]

/- A stray brace is what is wrong, whatever else is. -/
example : check "type T struct \x7b // `\n\x7d\x7d `" = .error (.stray 2) := rfl

end Source

end SchemaStructs
