import Mathlib.Data.List.Basic
import SchemaStructs.Naming.TypeName
import SchemaStructs.Proofs.Text.Case
import SchemaStructs.Proofs.Text.Pieces

/-!
# What naming keeps of a name

The *skeleton* of a name is the name in upper case without its separators, which are the space, the
dash and the underscore.  None of the naming passes changes it: they join words, put characters in
upper case and leave out separators (`Naming.skeleton_normalize`).

So the Go name of a type tells the skeleton of the prefix and of the raw name
(`Naming.skeleton_typeName`), and two raw names with one Go name have the same skeleton
(`Naming.skeleton_eq_of_typeName_eq`).
-/

namespace SchemaStructs

namespace Naming

/-- The character separates the words of a name. -/
def isSeparator (c : Char) : Bool := c == ' ' || c == '-' || c == '_'

/-- What a character adds to the skeleton of a name. -/
def skeletonChar (c : Char) : Text := if isSeparator c then [] else Text.upperChar c

/-- The name in upper case without its separators. -/
def skeleton (t : Text) : Text := t.flatMap skeletonChar

variable {c d : Char} {t : Text}

@[simp] theorem skeleton_nil : skeleton [] = [] := rfl

@[simp] theorem skeleton_cons (c : Char) (t : Text) :
    skeleton (c :: t) = skeletonChar c ++ skeleton t :=
  List.flatMap_cons

@[simp] theorem skeleton_append (s t : Text) : skeleton (s ++ t) = skeleton s ++ skeleton t :=
  List.flatMap_append

theorem isSeparator_iff : isSeparator c = true ↔ c = ' ' ∨ c = '-' ∨ c = '_' := by
  simp [isSeparator, or_assoc]

/-! ### Upper case -/

theorem upperChar_of_isSeparator (h : isSeparator c = true) : Text.upperChar c = [c] := by
  rcases isSeparator_iff.1 h with rfl | rfl | rfl <;> decide

/-- Upper-casing brings in no separators. -/
theorem isSeparator_of_mem_upperChar (hc : isSeparator c = false) (hd : d ∈ Text.upperChar c) :
    isSeparator d = false := by
  rcases Text.eq_or_isUpper_of_mem_upperChar hd with rfl | hupper | hascii
  · exact hc
  · rw [Bool.eq_false_iff]
    intro hsep
    rcases isSeparator_iff.1 hsep with rfl | rfl | rfl <;> exact absurd hupper (by decide)
  · rw [Bool.eq_false_iff]
    intro hsep
    rcases isSeparator_iff.1 hsep with rfl | rfl | rfl <;> exact absurd hascii (by decide)

theorem skeletonChar_of_mem_upperChar (hc : isSeparator c = false) (hd : d ∈ Text.upperChar c) :
    skeletonChar d = [d] := by
  rw [skeletonChar, isSeparator_of_mem_upperChar hc hd, if_neg Bool.false_ne_true,
    Text.upperChar_of_mem hd]

/-- A character in upper case has the skeleton of the character. -/
theorem skeleton_upperChar (c : Char) : skeleton (Text.upperChar c) = skeletonChar c := by
  cases hc : isSeparator c with
  | true => rw [upperChar_of_isSeparator hc, skeleton_cons, skeleton_nil, List.append_nil]
  | false =>
    rw [skeleton, List.flatMap_congr fun d hd => skeletonChar_of_mem_upperChar hc hd,
      List.flatMap_singleton', skeletonChar, hc, if_neg Bool.false_ne_true]

/-! ### The passes -/

theorem skeleton_titleFrom (inside : Bool) (t : Text) :
    skeleton (titleFrom inside t) = skeleton t := by
  induction t generalizing inside with
  | nil => rfl
  | cons c rest ih =>
    rw [titleFrom]
    split
    · split
      · rw [skeleton_cons, ih, skeleton_cons]
      · rw [skeleton_append, skeleton_upperChar, ih, skeleton_cons]
    · rw [skeleton_cons, ih, skeleton_cons]

theorem skeleton_title (t : Text) : skeleton (title t) = skeleton t := skeleton_titleFrom false t

theorem skeleton_initialism :
    ∀ word ∈ initialisms, word ≠ [] ∧ skeleton (word.map Char.toUpper) = skeleton word := by
  decide +kernel

/-- An initialism at the start of a text, and what follows it. -/
theorem eq_append_of_initialismAt? {word : Text} (h : initialismAt? t = some word) :
    word ∈ initialisms ∧ t = word ++ t.drop word.length := by
  have hprefix : word.isPrefixOf t = true := by simpa using List.find?_some h
  obtain ⟨rest, rfl⟩ := List.isPrefixOf_iff_prefix.1 hprefix
  exact ⟨List.mem_of_find?_eq_some h, by rw [List.drop_left]⟩

theorem skeleton_capitalize (skip : Nat) (t : Text) :
    skeleton (capitalize skip t) = skeleton (t.drop skip) := by
  induction t generalizing skip with
  | nil => simp [capitalize]
  | cons c rest ih =>
    cases skip with
    | succ n => exact ih n
    | zero =>
      rw [capitalize, List.drop_zero]
      split
      · rename_i word hword
        obtain ⟨hmem, htext⟩ := eq_append_of_initialismAt? hword
        obtain ⟨hne, hupper⟩ := skeleton_initialism word hmem
        -- the first character of the initialism is read here, the others are passed over
        obtain ⟨n, hn⟩ := Nat.exists_eq_succ_of_ne_zero (mt List.length_eq_zero_iff.1 hne)
        rw [hn, List.drop_succ_cons] at htext
        rw [skeleton_append, hupper, ih, hn, Nat.succ_sub_one, htext, skeleton_append]
      · rw [skeleton_cons, ih, List.drop_zero, skeleton_cons]

theorem skeleton_squish (t : Text) : skeleton (squish t) = skeleton t := by
  induction t with
  | nil => rfl
  | cons c rest ih =>
    rw [squish, List.filter_cons]
    split
    · rw [skeleton_cons, skeleton_cons]
      exact congrArg _ ih
    · rename_i hspace
      rw [bne_iff_ne, not_not] at hspace
      rw [hspace, skeleton_cons]
      exact ih

theorem skeleton_foldSeparator {sep : Char} (hsep : isSeparator sep = true) (t : Text) :
    skeleton (foldSeparator sep t) = skeleton t := by
  have hpieces : ((Text.splitOn sep t).flatMap skeleton) = skeleton t :=
    Text.flatMap_splitWhere (fun c hc => by
      rw [beq_iff_eq.1 hc, skeletonChar, if_pos hsep]) t
  rw [← hpieces, foldSeparator]
  cases Text.splitOn sep t with
  | nil => rfl
  | cons first others =>
    have htitle : skeleton (others.flatMap title) = others.flatMap skeleton := by
      rw [skeleton, List.flatMap_assoc]
      exact List.flatMap_congr fun piece _ => skeleton_title piece
    rw [skeleton_append, htitle, List.flatMap_cons]

/-- **Normalizing a name keeps its skeleton.** -/
theorem skeleton_normalize (t : Text) : skeleton (normalize t) = skeleton t := by
  rw [normalize, snakeToCamel, skeleton_foldSeparator rfl, dashToCamel, skeleton_foldSeparator rfl,
    skeleton_squish, replaceInitialisms, skeleton_capitalize, List.drop_zero]

/-! ### Names of types -/

variable {style : TypeStyle} {m n : Text}

/-- The raw name of a type with the prefix of the run in front of it. -/
def TypeStyle.led (style : TypeStyle) (n : Text) : Text :=
  if style.lead.isEmpty then n else style.lead ++ title n

theorem typeName_eq (h : isPrimitive n = false) :
    style.typeName n = normalize (if style.exported then title (style.led n) else style.led n) := by
  rw [TypeStyle.typeName, h, if_neg Bool.false_ne_true]
  rfl

theorem skeleton_led (style : TypeStyle) (n : Text) :
    skeleton (style.led n) = skeleton style.lead ++ skeleton n := by
  rw [TypeStyle.led]
  split
  · rename_i hlead
    rw [List.isEmpty_iff.1 hlead, skeleton_nil, List.nil_append]
  · rw [skeleton_append, skeleton_title]

/-- The Go name of a type tells the skeletons of the prefix and of the raw name. -/
theorem skeleton_typeName (style : TypeStyle) (h : isPrimitive n = false) :
    skeleton (style.typeName n) = skeleton style.lead ++ skeleton n := by
  rw [typeName_eq h, skeleton_normalize]
  split
  · rw [skeleton_title, skeleton_led]
  · rw [skeleton_led]

/-- **Raw names of one Go name have one skeleton**, unless Go provides types of these names. -/
theorem skeleton_eq_of_typeName_eq (hm : isPrimitive m = false) (hn : isPrimitive n = false)
    (h : style.typeName m = style.typeName n) : skeleton m = skeleton n := by
  have hboth := congrArg skeleton h
  rw [skeleton_typeName style hm, skeleton_typeName style hn] at hboth
  exact List.append_cancel_left hboth

end Naming

end SchemaStructs
