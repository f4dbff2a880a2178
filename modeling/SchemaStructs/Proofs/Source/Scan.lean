import SchemaStructs.Proofs.Source.Field
import SchemaStructs.Proofs.Source.Layout

/-!
# The scan for struct bodies

The alignment goes through the lines once and stands inside of a struct body or outside of one
(`Source.insideAfter`).  Lines of a body are gathered until it is closed, and put in columns then;
if it is not closed they follow at the end.

No line that is not blank is lost, doubled or moved (`Source.keeps_alignFrom`): what comes out for
it keeps the text of the line between the blanks at its ends, or the field that is read in it
(`Source.Keeps`).  Collapsing blank lines only takes away blanks at the ends of lines
(`Source.inked_collapseFrom`).
-/

namespace SchemaStructs

namespace Source

/-! ### Where the scan stands -/

/-- The scan stands inside of a struct body after the line, given whether it did before. -/
def insideAfter (inside : Bool) (line : Text) : Bool :=
  if inside then Text.trim line != ['\x7d'] else opensStruct (Text.trim line)

/-- The scan ends inside of a struct body. -/
def endsInside (inside : Bool) (lines : List Text) : Bool := lines.foldl insideAfter inside

/-- The lines that are not blank. -/
def inked (lines : List Text) : List Text := lines.filter fun l => !(Text.trim l).isEmpty

/-- The lines that are not blank, each with whether it is a line of a struct body. -/
def marked (inside : Bool) : List Text → List (Bool × Text)
  | [] => []
  | line :: rest =>
    let later := marked (insideAfter inside line) rest
    if (Text.trim line).isEmpty then later
    else (inside && Text.trim line != ['\x7d'], line) :: later

variable {line out l : Text} {lines rest : List Text} {b inside : Bool} {m n : Nat}

@[simp] theorem inked_nil : inked [] = [] := rfl

theorem inked_cons (line : Text) (rest : List Text) : inked (line :: rest) =
    if (Text.trim line).isEmpty then inked rest else line :: inked rest := by
  rw [inked, List.filter_cons]
  cases (Text.trim line).isEmpty <;> rfl

theorem inked_cons_of_blank (h : Text.trim line = []) (rest : List Text) :
    inked (line :: rest) = inked rest := by
  rw [inked_cons, h]
  rfl

theorem inked_cons_of_ne (h : Text.trim line ≠ []) (rest : List Text) :
    inked (line :: rest) = line :: inked rest := by
  rw [inked_cons, List.isEmpty_eq_false_iff.2 h, if_neg Bool.false_ne_true]

@[simp] theorem inked_append (ls ls' : List Text) : inked (ls ++ ls') = inked ls ++ inked ls' :=
  List.filter_append ls ls'

theorem inked_eq_self (h : ∀ l ∈ lines, Text.trim l ≠ []) : inked lines = lines :=
  List.filter_eq_self.2 fun l hl => by simpa using h l hl

theorem map_snd_marked (inside : Bool) (lines : List Text) :
    (marked inside lines).map Prod.snd = inked lines := by
  induction lines generalizing inside with
  | nil => rfl
  | cons line rest ih =>
    rw [marked, inked_cons]
    split
    · exact ih _
    · rw [List.map_cons, ih]

/-! ### What is kept of a line -/

/-- What is kept of a line; `inBody` says that it is a line of a struct body. -/
structure Keeps (inBody : Bool) (line out : Text) : Prop where
  /-- Outside of struct bodies only the blanks at the ends of a line change. -/
  outside : inBody = false → Text.trim out = Text.trim line
  /-- A field is read as the same field again. -/
  field : ∀ f, inBody = true → Field.ofLine? (Text.trim line) = some f →
    Field.ofLine? (Text.trim out) = some f
  /-- Its tag stays, character by character, at the end of the line. -/
  tag : ∀ f tag, inBody = true → Field.ofLine? (Text.trim line) = some f → f.tag = some tag →
    tag <:+ Text.trim line ∧ tag <:+ Text.trim out
  /-- A text that is no field stays, character by character. -/
  text : inBody = true → Field.ofLine? (Text.trim line) = none → Text.trim out = Text.trim line

theorem Keeps.of_ofLine? (hread : Field.ofLine? (Text.trim out) = Field.ofLine? (Text.trim line))
    (htext : b = false ∨ Field.ofLine? (Text.trim line) = none → Text.trim out = Text.trim line) :
    Keeps b line out where
  outside hb := htext (.inl hb)
  field _ _ hf := hread.trans hf
  tag _ _ _ hf htag := ⟨(Field.ofLine?_eq_some_iff.1 hf).tag_suffix htag,
    (Field.ofLine?_eq_some_iff.1 (hread.trans hf)).tag_suffix htag⟩
  text _ hnone := htext (.inr hnone)

theorem Keeps.of_trim_eq (h : Text.trim out = Text.trim line) : Keeps b line out :=
  .of_ofLine? (congrArg Field.ofLine? h) fun _ => h

theorem keeps_alignLine (m n : Nat) (line : Text) :
    Keeps true line (alignLine m n (Text.trim line)) :=
  .of_ofLine? (ofLine?_trim_alignLine (Text.trim_trim line) m n) fun h =>
    (trim_alignLine_eq_iff (Text.trim_trim line) (h.resolve_left Bool.true_eq_false.mp) m n).2 rfl

theorem Keeps.trimRight (h : Keeps b line out) : Keeps b line (Text.trimRight out) := by
  obtain ⟨houtside, hfield, htag, htext⟩ := h
  constructor <;> simpa only [Text.trim_trimRight]

/-- **The words of a line are kept.** -/
theorem Keeps.words_eq (h : Keeps b line out) : Text.words out = Text.words line := by
  have htrim : Text.trim out = Text.trim line → Text.words out = Text.words line := fun heq => by
    rw [← Text.words_trim out, heq, Text.words_trim]
  cases b with
  | false => exact htrim (h.outside rfl)
  | true =>
    cases hread : Field.ofLine? (Text.trim line) with
    | none => exact htrim (h.text rfl hread)
    | some f =>
      have hline := (Field.ofLine?_eq_some_iff.1 hread).words_eq
      have hout := (Field.ofLine?_eq_some_iff.1 (h.field f rfl hread)).words_eq
      rw [← Text.words_trim out, ← Text.words_trim line, hline, hout]

/-! ### Steps of the scan -/

theorem insideAfter_of_blank (h : Text.trim line = []) (inside : Bool) :
    insideAfter inside line = inside := by
  cases inside <;> rw [insideAfter, h] <;> rfl

theorem marked_of_blank (h : Text.trim line = []) (inside : Bool) (rest : List Text) :
    marked inside (line :: rest) = marked inside rest := by
  rw [marked, h, insideAfter_of_blank h]
  rfl

theorem marked_of_ne (h : Text.trim line ≠ []) (inside : Bool) (rest : List Text) :
    marked inside (line :: rest) =
      (inside && Text.trim line != ['\x7d'], line) :: marked (insideAfter inside line) rest := by
  rw [marked, List.isEmpty_eq_false_iff.2 h, if_neg Bool.false_ne_true]

/-- A step of the scan: the body that is open before a line if there is one, the line, what is put
out for it, and the body that is open after it. -/
inductive ScanStep : Option (List Text) → Text → List Text → Option (List Text) → Prop where
  /-- The line opens a struct. -/
  | opening {line : Text} (h : opensStruct (Text.trim line) = true) :
      ScanStep none line [Text.trim line] (some [])
  /-- The line stands outside of structs. -/
  | outside {line : Text} (h : opensStruct (Text.trim line) = false) :
      ScanStep none line [line] none
  /-- The line closes the body, which is put in columns. -/
  | closing {line : Text} (h : Text.trim line = ['\x7d']) (body : List Text) :
      ScanStep (some body) line (alignBody body ++ [['\x7d']]) none
  /-- The line of the body is blank and goes. -/
  | blank {line : Text} (h : Text.trim line = []) (body : List Text) :
      ScanStep (some body) line [] (some body)
  /-- The line is gathered. -/
  | inside {line : Text} (hne : Text.trim line ≠ []) (hbrace : Text.trim line ≠ ['\x7d'])
      (body : List Text) : ScanStep (some body) line [] (some (body ++ [Text.trim line]))

/-- Each line is one step. -/
theorem exists_scanStep (body : Option (List Text)) (line : Text) :
    ∃ out later, ScanStep body line out later ∧
      ∀ rest, alignFrom body (line :: rest) = out ++ alignFrom later rest := by
  cases body with
  | none =>
    cases hopen : opensStruct (Text.trim line) with
    | true => exact ⟨_, _, .opening hopen, fun rest => by rw [alignFrom, if_pos hopen]; rfl⟩
    | false =>
      exact ⟨_, _, .outside hopen, fun rest => by
        rw [alignFrom, hopen, if_neg Bool.false_ne_true]; rfl⟩
  | some body =>
    by_cases hclose : Text.trim line = ['\x7d']
    · exact ⟨_, _, .closing hclose body, fun rest => by
        rw [alignFrom, if_pos hclose, List.append_assoc]; rfl⟩
    · by_cases hblank : Text.trim line = []
      · exact ⟨_, _, .blank hblank body, fun rest => by rw [alignFrom, hblank]; rfl⟩
      · refine ⟨_, _, .inside hblank hclose body, fun rest => ?_⟩
        rw [alignFrom, if_neg hclose, List.isEmpty_eq_false_iff.2 hblank,
          if_neg Bool.false_ne_true, List.nil_append]

theorem ScanStep.isSome_eq {body later : Option (List Text)} {out : List Text}
    (h : ScanStep body line out later) : later.isSome = insideAfter body.isSome line := by
  cases h with
  | opening h => exact h.symm
  | outside h => exact h.symm
  | closing h body => rw [insideAfter, h]; rfl
  | blank h body => rw [insideAfter, h]; rfl
  | inside hne hbrace body => exact (bne_iff_ne.2 hbrace).symm

/-- **The alignment stands where the scan stands**: what it has put out after some lines does not
depend on the lines that follow, and it has a body open if and only if the scan ends inside of
one. -/
theorem exists_alignFrom_append (body : Option (List Text)) (lines : List Text) :
    ∃ out later, later.isSome = endsInside body.isSome lines ∧
      ∀ rest, alignFrom body (lines ++ rest) = out ++ alignFrom later rest := by
  induction lines generalizing body with
  | nil => exact ⟨[], body, rfl, fun _ => rfl⟩
  | cons line lines ih =>
    obtain ⟨first, mid, hstep, hfirst⟩ := exists_scanStep body line
    obtain ⟨out, later, hlater, hout⟩ := ih mid
    refine ⟨first ++ out, later, ?_, fun rest => ?_⟩
    · rw [hlater, hstep.isSome_eq]
      rfl
    · rw [List.cons_append, hfirst, hout, List.append_assoc]

/-! ### The lines that come out -/

theorem inked_alignBody {body : List Text} (h : ∀ l ∈ body, Text.trim l = l ∧ l ≠ []) :
    inked (alignBody body) = alignBody body := by
  rw [alignBody_eq]
  refine inked_eq_self fun l' hl' => ?_
  obtain ⟨l, hl, rfl⟩ := List.mem_map.1 hl'
  obtain ⟨htrim, hne⟩ := h l hl
  exact mt (trim_alignLine_eq_iff htrim rfl _ _).1 hne

theorem keeps_alignBody (gathered : List Text) :
    List.Forall₂ (fun mark out => Keeps mark.1 mark.2 out) (gathered.map (true, ·))
      (alignBody (gathered.map Text.trim)) := by
  rw [alignBody_eq, List.map_map, List.forall₂_map_left_iff, List.forall₂_map_right_iff,
    List.forall₂_same]
  exact fun l _ => keeps_alignLine _ _ l

/-- **No line is lost, doubled or moved** by a scan that has gathered some lines of a body. -/
theorem keeps_alignFrom (body : Option (List Text)) (lines gathered : List Text)
    (hbody : body.getD [] = gathered.map Text.trim) (h : ∀ l ∈ gathered, Text.trim l ≠ []) :
    List.Forall₂ (fun mark out => Keeps mark.1 mark.2 out)
      (gathered.map (true, ·) ++ marked body.isSome lines) (inked (alignFrom body lines)) := by
  induction lines generalizing body gathered with
  | nil =>
    -- a body that is not closed is put out as it was gathered
    have hinked : inked (gathered.map Text.trim) = gathered.map Text.trim :=
      inked_eq_self (List.forall_mem_map.2 fun l hl => by simpa using h l hl)
    rw [alignFrom, hbody, hinked, marked, List.append_nil, List.forall₂_map_left_iff,
      List.forall₂_map_right_iff, List.forall₂_same]
    exact fun l _ => .of_trim_eq (Text.trim_trim l)
  | cons line rest ih =>
    obtain ⟨out, later, hstep, hout⟩ := exists_scanStep body line
    have hlater := hstep.isSome_eq
    rw [hout, inked_append]
    cases hstep with
    | opening hopen =>
      obtain rfl : gathered = [] := List.map_eq_nil_iff.1 hbody.symm
      have hne : Text.trim line ≠ [] := fun hnil => by rw [hnil] at hopen; cases hopen
      rw [marked_of_ne hne, ← hlater, inked_cons_of_ne (by rwa [Text.trim_trim])]
      exact .cons (.of_trim_eq (Text.trim_trim line)) (ih (some []) [] rfl h)
    | outside hopen =>
      obtain rfl : gathered = [] := List.map_eq_nil_iff.1 hbody.symm
      by_cases hblank : Text.trim line = []
      · rw [marked_of_blank hblank, inked_cons_of_blank hblank]
        exact ih none [] rfl h
      · rw [marked_of_ne hblank, ← hlater, inked_cons_of_ne hblank]
        exact .cons (.of_trim_eq rfl) (ih none [] rfl h)
    | closing hclose body =>
      obtain rfl : body = gathered.map Text.trim := hbody
      have hne : Text.trim line ≠ [] := by
        rw [hclose]
        exact List.cons_ne_nil _ _
      have hbrace : inked [['\x7d']] = [['\x7d']] := rfl
      rw [marked_of_ne hne, ← hlater, inked_append, hbrace, hclose, List.append_assoc,
        inked_alignBody (List.forall_mem_map.2 fun l hl => ⟨Text.trim_trim l, h l hl⟩)]
      exact List.rel_append (keeps_alignBody gathered)
        (.cons (.of_trim_eq hclose.symm) (ih none [] rfl (by simp)))
    | blank hblank body =>
      rw [marked_of_blank hblank]
      exact ih (some body) gathered hbody h
    | inside hne hbrace body =>
      obtain rfl : body = gathered.map Text.trim := hbody
      have hinside : (Text.trim line != ['\x7d']) = true := bne_iff_ne.2 hbrace
      have hrest := ih (some (gathered.map Text.trim ++ [Text.trim line])) (gathered ++ [line])
        (by simp) (List.forall_mem_append.2 ⟨h, by simpa using hne⟩)
      rw [marked_of_ne hne, ← hlater, hinside]
      simpa using hrest

/-- Collapsing takes away blanks at the ends of lines. -/
theorem inked_collapseFrom (started gap : Bool) (lines : List Text) :
    inked (collapseFrom started gap lines) = (inked lines).map Text.trimRight := by
  induction lines generalizing started gap with
  | nil => rfl
  | cons line rest ih =>
    have htrim : Text.trim line = Text.trim (Text.trimRight line) := (Text.trim_trimRight line).symm
    rw [collapseFrom]
    split
    · rename_i hnil
      rw [ih, inked_cons_of_blank (htrim.trans (by rw [hnil]; rfl))]
    · rename_i kept hkept
      have hne : Text.trim line ≠ [] := by
        rwa [Ne, Text.trim_eq_nil_iff, ← Text.trimRight_eq_nil_iff]
      have hline : inked (Text.trimRight line :: collapseFrom true false rest) =
          (inked (line :: rest)).map Text.trimRight := by
        rw [inked_cons_of_ne (htrim ▸ hne), ih, inked_cons_of_ne hne, List.map_cons]
      split
      · exact hline
      · exact hline

end Source

end SchemaStructs
