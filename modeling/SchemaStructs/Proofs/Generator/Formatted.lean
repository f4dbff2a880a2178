import SchemaStructs.Proofs.Generator.Clean
import SchemaStructs.Proofs.Generator.Printer
import SchemaStructs.Proofs.Source.Idempotent

/-!
# Formatting generated source

Formatting is idempotent on every source that is assembled from the declarations of a walk
(`Generator.format_idempotent`).  The scan for struct bodies ends outside of them there, whatever
names and types the schema has: the last thing that a declaration prints is a closing brace on a
line of its own (`Generator.suffix_of_render`), since a part that is repeated or left out prints
whole lines (`Template.EndsLine`).
-/

namespace SchemaStructs

/-! ### What a program prints last -/

namespace Template

variable {cx : Context} {reach : Reach} {scope scope' : Scope} {s : Statement}
variable {after rest : List Statement} {name : Text} {e : Expr} {t w : Text}

/-- A run of statements is a run of the first one, and one of the others. -/
theorem of_runAll_cons (h : runAll cx reach scope (s :: rest) = .ok (t, scope')) :
    ∃ t₁ mid t₂, s.run cx reach scope = .ok (t₁, mid) ∧
      runAll cx reach mid rest = .ok (t₂, scope') ∧ t = t₁ ++ t₂ := by
  rw [runAll] at h
  obtain ⟨⟨t₁, mid⟩, hs, h⟩ := bind_eq_ok_iff.1 h
  obtain ⟨⟨t₂, last⟩, hrest, h⟩ := bind_eq_ok_iff.1 h
  cases h
  exact ⟨t₁, mid, t₂, hs, hrest, rfl⟩

theorem of_runAll_append (before : List Statement)
    (h : runAll cx reach scope (before ++ after) = .ok (t, scope')) :
    ∃ t₁ mid t₂, runAll cx reach scope before = .ok (t₁, mid) ∧
      runAll cx reach mid after = .ok (t₂, scope') ∧ t = t₁ ++ t₂ := by
  induction before generalizing scope t with
  | nil => exact ⟨[], scope, t, rfl, h, rfl⟩
  | cons s before ih =>
    obtain ⟨t₁, mid, t₂, hs, hrest, rfl⟩ := of_runAll_cons h
    obtain ⟨t₂, mid', t₃, hbefore, hafter, rfl⟩ := ih hrest
    exact ⟨t₁ ++ t₂, mid', t₃, runAll_cons hs hbefore, hafter, (List.append_assoc ..).symm⟩

/-- Statements that end in printing a text print it at the end. -/
theorem suffix_of_runAll (before : List Statement)
    (h : runAll cx reach scope (before ++ [.text w]) = .ok (t, scope')) : w <:+ t := by
  obtain ⟨t₁, mid, t₂, -, hlast, rfl⟩ := of_runAll_append before h
  cases hlast
  rw [List.append_nil]
  exact List.suffix_append t₁ w

/-- The text is empty, or ends with a newline. -/
def EndsLine (t : Text) : Prop := t = [] ∨ ['\n'] <:+ t

theorem EndsLine.suffix_append (ht : EndsLine t) (h : ['\n'] <:+ w) : ['\n'] <:+ w ++ t := by
  rcases ht with rfl | ht
  · rwa [List.append_nil]
  · exact ht.trans (List.suffix_append w t)

theorem endsLine_flatten {ts : List Text} (h : ∀ t ∈ ts, ['\n'] <:+ t) : EndsLine ts.flatten := by
  induction ts with
  | nil => exact .inl rfl
  | cons t ts ih =>
    obtain ⟨ht, hts⟩ := List.forall_mem_cons.1 h
    exact .inr ((ih hts).suffix_append ht)

/-- A part that is run for each item prints whole lines. -/
theorem endsLine_of_each (before : List Statement)
    (h : (Statement.each name e (before ++ [.text "\n"])).run cx reach scope = .ok (t, scope')) :
    EndsLine t := by
  rw [Statement.run] at h
  obtain ⟨v, -, h⟩ := bind_eq_ok_iff.1 h
  obtain ⟨items, -, h⟩ := bind_eq_ok_iff.1 h
  obtain ⟨printed, hrounds, h⟩ := bind_eq_ok_iff.1 h
  cases h
  refine endsLine_flatten fun p hp => ?_
  obtain ⟨item, -, hround⟩ := exists_of_forall₂ (mapM_eq_ok_iff.1 hrounds).flip hp
  obtain ⟨⟨p, last⟩, hrun, hprinted⟩ := bind_eq_ok_iff.1 hround
  cases hprinted
  exact suffix_of_runAll before hrun

/-- A part that may be left out prints whole lines. -/
theorem endsLine_of_choose (before : List Statement)
    (h : (Statement.choose e (before ++ [.text "\n"]) []).run cx reach scope = .ok (t, scope')) :
    EndsLine t := by
  rw [Statement.run] at h
  obtain ⟨v, -, h⟩ := bind_eq_ok_iff.1 h
  obtain ⟨holds, -, h⟩ := bind_eq_ok_iff.1 h
  split at h
  · exact .inr (suffix_of_runAll before h)
  · cases h
    exact .inl rfl

end Template

/-! ### The end of a declaration -/

namespace StructTemplates

open Template

variable {cx : Context} {reach : Reach} {scope scope' : Scope} {t : Text}

/-- **A declaration ends with a closing brace on a line of its own**, whatever its names contain. -/
theorem suffix_of_runAll_recordProgram
    (h : runAll cx reach scope recordProgram = .ok (t, scope')) : ("\n\x7d" : Text) <:+ t := by
  obtain ⟨head, mid, body, -, hbody, rfl⟩ := of_runAll_append (recordProgram.take 5) h
  obtain ⟨opening, s₁, t₁, hopening, h₁, rfl⟩ := of_runAll_cons hbody
  obtain ⟨attributes, s₂, t₂, hattributes, h₂, rfl⟩ := of_runAll_cons h₁
  obtain ⟨children, s₃, t₃, hchildren, h₃, rfl⟩ := of_runAll_cons h₂
  obtain ⟨characters, s₄, t₄, hcharacters, h₄, rfl⟩ := of_runAll_cons h₃
  cases hopening
  cases h₄
  have hwhole : ['\n'] <:+ (" struct \x7b\n" : Text) ++ attributes ++ children ++ characters := by
    have hopening : ['\n'] <:+ (" struct \x7b\n" : Text) := ⟨" struct \x7b", rfl⟩
    have hattributes : EndsLine attributes :=
      endsLine_of_each [.text "\t", .output (formed "attr" "a")] hattributes
    have hchildren : EndsLine children :=
      endsLine_of_each [.text "\t", .output (formed "child" "c")] hchildren
    have hcharacters : EndsLine characters :=
      endsLine_of_choose [.text "\t", .output (formed "chardata" "node")] hcharacters
    exact hcharacters.suffix_append (hchildren.suffix_append (hattributes.suffix_append hopening))
  obtain ⟨u, hu⟩ := hwhole
  refine ⟨head ++ u, ?_⟩
  have hbrace : ("\n\x7d" : Text) = ['\n'] ++ ['\x7d'] := rfl
  calc head ++ u ++ ("\n\x7d" : Text) = head ++ (u ++ ['\n']) ++ ['\x7d'] := by simp [hbrace]
    _ = _ := by simp [hu]

end StructTemplates

/-! ### Assembled source -/

namespace Generator

open Source StructTemplates
open Template (Library)

variable {gen : Generator} {g : Graph} {roots : List ElementId} {source t : Text}

/-- What is rendered for an element ends with a closing brace on a line of its own. -/
theorem suffix_of_render {i : ElementId} (hgen : gen.library = libraryFor gen.settings)
    (h : gen.render g i = .ok t) : ("\n\x7d" : Text) <:+ t := by
  rw [render, mapError_eq_ok_iff, Library.render, hgen] at h
  obtain ⟨program, hprogram, h⟩ := bind_eq_ok_iff.1 h
  obtain rfl := Except.ok.inj (program?_recordFile.symm.trans hprogram)
  rw [Library.perform] at h
  split at h
  · cases h
  · rw [Template.run, map_eq_ok_iff] at h
    obtain ⟨⟨t, bound⟩, hrun, rfl⟩ := h
    obtain ⟨⟨printed, scope⟩, hall, hrun⟩ := bind_eq_ok_iff.1 hrun
    cases hrun
    exact suffix_of_runAll_recordProgram hall

/-- A source that ends with a closing brace and a newline. -/
theorem endsInside_of_suffix (h : ("\n\x7d\n" : Text) <:+ source) :
    endsInside false (Text.lines source) = false := by
  obtain ⟨v, rfl⟩ := h
  have hlines : Text.lines (v ++ ("\n\x7d\n" : Text)) = Text.lines v ++ [['\x7d'], []] := by
    rw [Text.lines, Text.splitOn, Text.splitWhere_eq_splitOnP, Text.lines, Text.splitOn,
      Text.splitWhere_eq_splitOnP]
    exact List.splitOnP_append_cons v _ rfl
  rw [hlines, endsInside, List.foldl_append]
  -- the brace closes a body, and opens none
  cases (Text.lines v).foldl insideAfter false <;> rfl

theorem suffix_joinWith_concat (sep : Text) (parts : List Text) (last : Text) :
    last <:+ Text.joinWith sep (parts ++ [last]) := by
  induction parts with
  | nil =>
    rw [List.nil_append, Text.joinWith, List.intercalate_singleton]
  | cons part parts ih =>
    rw [List.cons_append, Text.joinWith, List.intercalate_cons_of_ne_nil (by simp)]
    exact ih.trans (List.suffix_append _ _)

/-- **The scan of an assembled source ends outside of struct bodies.** -/
theorem endsInside_of_assemble (hgen : gen.library = libraryFor gen.settings)
    (hne : Walk.declarations (gen.walk g roots).events ≠ [])
    (h : gen.assemble (declarationTexts (gen.walk g roots).events) = .ok source) :
    endsInside false (Text.lines source) = false := by
  obtain ⟨ds, d, hds⟩ := (List.eq_nil_or_concat _).resolve_left hne
  have hd : d ∈ Walk.declarations (gen.walk g roots).events := by
    rw [hds]
    simp
  have hrender : gen.render g d.element = .ok d.text :=
    (Walk.declare_eq_ok
      (Walk.declaration?_eq_ok ((Walk.valid_walk gen g roots).genuine d hd)).1).1
  rw [assemble] at h
  obtain ⟨clause, -, h⟩ := bind_eq_ok_iff.1 h
  cases h
  obtain ⟨u, hu⟩ := (suffix_of_render hgen hrender).trans
    (suffix_joinWith_concat "\n\n" (clause.toList ++ ds.map (·.text)) d.text)
  have htexts : declarationTexts (gen.walk g roots).events = ds.map (·.text) ++ [d.text] := by
    rw [declarationTexts, hds]
    simp
  refine endsInside_of_suffix ⟨u, ?_⟩
  rw [htexts, ← List.append_assoc, ← hu, List.append_assoc]
  rfl

/-- **Formatting is idempotent** on every source that is accepted and in which the scan for struct
bodies ends outside of them.  Every source that is assembled from the declarations of a walk is such
a source, whatever the names in it are. -/
theorem format_idempotent :
    (∀ source t, format source = .ok t → endsInside false (Text.lines source) = false →
      format t = .ok t) ∧
    ∀ (gen : Generator) (g : Graph) (roots : List ElementId) (source : Text),
      gen.library = libraryFor gen.settings → Walk.declarations (gen.walk g roots).events ≠ [] →
        gen.assemble (declarationTexts (gen.walk g roots).events) = .ok source →
          endsInside false (Text.lines source) = false :=
  ⟨fun _ _ h hend => format_eq_self h hend,
    fun _ _ _ _ hgen hne h => endsInside_of_assemble hgen hne h⟩

theorem format_idempotent_calendar :
    (format meeting = .ok formattedMeeting ∧ endsInside false (Text.lines meeting) = false ∧
      format formattedMeeting = .ok formattedMeeting) ∧
    agendaGenerator.library = libraryFor agendaGenerator.settings ∧
    Walk.declarations (agendaGenerator.walk calendar [2]).events ≠ [] ∧
    ∃ source, agendaGenerator.assemble
        (declarationTexts (agendaGenerator.walk calendar [2]).events) = .ok source ∧
      endsInside false (Text.lines source) = false := by
  obtain ⟨hformat, hassemble⟩ := format_idempotent
  have hmeeting : format meeting = .ok formattedMeeting := rfl
  have hend : endsInside false (Text.lines meeting) = false := rfl
  obtain ⟨hfailure, helements⟩ := elements_calendar
  have hne : Walk.declarations (agendaGenerator.walk calendar [2]).events ≠ [] := fun hnil => by
    rw [Walk.elements, hnil] at helements
    cases helements
  have hsource := source_eq standard_agendaGenerator plain_agendaGenerator hfailure
  rw [source_eq_assemble hfailure] at hsource
  exact ⟨⟨hmeeting, hend, hformat _ _ hmeeting hend⟩, rfl, hne, _, hsource,
    hassemble _ _ _ _ rfl hne hsource⟩

end Generator

end SchemaStructs
