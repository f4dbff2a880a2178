import SchemaStructs.Files.Tree
import SchemaStructs.Proofs.Computation

/-!
# What writing to files leaves alone

Writing a file changes what stands at one place, and it makes no folder and removes none
(`FileTree.SameBut`).  What a path leads to depends on the folders only, so it is the same place
before and after (`FileTree.SameBut.place?_iff`).

* `FileTree.exists_of_write?`: after a text was written, the file holds its bytes and nothing else
  has changed;
* `FileTree.exists_of_append?`: the same for a text that was written to the end of a file.
-/

namespace SchemaStructs

namespace FileTree

/-- Two trees have the same folders, and the same files at all places but the given ones. -/
structure SameBut (places : List (List Text)) (before after : FileTree) : Prop where
  /-- At the other places stands what stood there before. -/
  entry?_eq : ∀ p ∉ places, after.entry? p = before.entry? p
  /-- The folders are the same. -/
  folder_iff : ∀ p, after.entry? p = some .folder ↔ before.entry? p = some .folder

variable {tree before after last : FileTree} {places more : List (List Text)}
variable {p place : List Text} {path : Path} {t : Text} {bytes : ByteArray} {e : FileEntry}

/-! ### Entries -/

theorem entry?_put_self (hp : tree.entry? p ≠ some .folder) :
    entry? (tree.put p e) p = some e := by
  have hplain : (isAbove p || p == root) = false := by
    rw [Bool.eq_false_iff]
    intro h
    exact hp (if_pos h)
  rw [ entry?, hplain, put]
  simp

theorem entry?_put_of_ne (h : p ≠ place) :
    entry? (tree.put place e) p = tree.entry? p := by
  rw [ entry?, entry?, put]
  split
  · rfl
  · rw [List.find?_cons_of_neg (by simpa using Ne.symm h), List.find?_filter]
    congr 2
    funext q
    by_cases hq : q.1 = p
    · simp [hq, h]
    · simp [hq]

/-- Putting a file where no folder stands. -/
theorem sameBut_put (hplace : tree.entry? place ≠ some .folder) :
    SameBut [place] tree (tree.put place (.file bytes)) where
  entry?_eq p hp := entry?_put_of_ne (mt List.mem_singleton.2 hp)
  folder_iff p := by
    by_cases hp : p = place
    · subst hp
      rw [entry?_put_self hplace]
      exact iff_of_false nofun hplace
    · rw [entry?_put_of_ne hp]

/-! ### Paths -/

/-- A path goes on from a folder. -/
theorem locate_of_folder {part : Text} {rest : List Text}
    (h : tree.entry? place = some .folder) :
    tree.locate path place (part :: rest) =
      if part = ['.', '.'] then tree.locate path (parent place) rest
      else if maxNameSize < part.byteSize then .error (.nameTooLong path)
      else tree.locate path (place ++ [part]) rest := by
  rw [locate, h]

/-- A path goes on from folders only. -/
theorem locate_of_not_folder {part : Text} {rest : List Text}
    (h : tree.entry? place ≠ some .folder) :
    tree.locate path place (part :: rest) = .error (.notFound path) ∨
      tree.locate path place (part :: rest) = .error (.notFolder path) := by
  rw [locate]
  split
  · exact .inl rfl
  · exact .inr rfl
  · exact absurd ‹_› h

namespace SameBut

theorem refl (places : List (List Text)) (tree : FileTree) : SameBut places tree tree :=
  ⟨fun _ _ => rfl, fun _ => .rfl⟩

theorem trans (h : SameBut places before after) (h' : SameBut places after last) :
    SameBut places before last :=
  ⟨fun p hp => (h'.entry?_eq p hp).trans (h.entry?_eq p hp),
    fun p => (h'.folder_iff p).trans (h.folder_iff p)⟩

theorem mono (h : SameBut places before after) (hsub : places ⊆ more) : SameBut more before after :=
  ⟨fun p hp => h.entry?_eq p fun hmem => hp (hsub hmem), h.folder_iff⟩

theorem symm (h : SameBut places before after) : SameBut places after before :=
  ⟨fun p hp => (h.entry?_eq p hp).symm, fun p => (h.folder_iff p).symm⟩

/-- The rest of a path leads to the same place, or to the same fault if it is not that something is
missing on the way. -/
theorem locate_iff (h : SameBut places before after) {r : Except FileFault (List Text)}
    (hfound : r ≠ .error (.notFound path)) (hfile : r ≠ .error (.notFolder path))
    (parts : List Text) (from' : List Text) :
    after.locate path from' parts = r ↔ before.locate path from' parts = r := by
  induction parts generalizing from' with
  | nil => rw [locate, locate]
  | cons part rest ih =>
    by_cases hfolder : before.entry? from' = some .folder
    · rw [locate_of_folder hfolder, locate_of_folder ((h.folder_iff from').2 hfolder)]
      split
      · exact ih _
      · split
        · exact .rfl
        · exact ih _
    · have hfault : ∀ {tree : FileTree}, tree.entry? from' ≠ some .folder →
          tree.locate path from' (part :: rest) ≠ r := by
        intro tree htree hlocate
        rcases locate_of_not_folder htree with h | h
        · exact hfound (hlocate.symm.trans h)
        · exact hfile (hlocate.symm.trans h)
      exact iff_of_false (hfault (mt (h.folder_iff from').1 hfolder)) (hfault hfolder)

/-- **A path leads to the same place before and after.** -/
theorem place?_iff (h : SameBut places before after) :
    after.place? path = .ok p ↔ before.place? path = .ok p := by
  rw [place?, place?]
  split
  · exact .rfl
  · split
    · exact .rfl
    · exact h.locate_iff (by nofun) (by nofun) _ _

/-- A path is too long for both trees, or for none. -/
theorem place?_tooLong_iff (h : SameBut places before after) {long : Path} :
    after.place? path = .error (.nameTooLong long) ↔
      before.place? path = .error (.nameTooLong long) := by
  rw [place?, place?]
  split
  · exact .rfl
  · split
    · exact .rfl
    · exact h.locate_iff (by nofun) (by nofun) _ _

/-- Something stands at another place before and after, or nothing does. -/
theorem contains?_eq (h : SameBut places before after)
    (hplace : ∀ p ∈ places, before.place? path ≠ .ok p) :
    after.contains? path = before.contains? path := by
  cases hbefore : before.place? path with
  | ok p =>
    rw [contains?, contains?, hbefore, h.place?_iff.2 hbefore]
    simp only [h.entry?_eq p fun hp => hplace p hp hbefore]
  | error cause =>
    cases hafter : after.place? path with
    | ok p =>
      rw [h.place?_iff.1 hafter] at hbefore
      cases hbefore
    | error cause' =>
      have hlong : ∀ long, cause' = .nameTooLong long ↔ cause = .nameTooLong long := fun long => by
        have hiff : after.place? path = .error (.nameTooLong long) ↔
          before.place? path = .error (.nameTooLong long) := h.place?_tooLong_iff
        rw [hbefore, hafter] at hiff
        simpa using hiff
      rw [contains?, contains?, hbefore, hafter]
      cases cause with
      | nameTooLong long => rw [(hlong long).2 rfl]
      | _ =>
        cases cause' with
        | nameTooLong long => cases (hlong long).1 rfl
        | _ => rfl

/-- A file at another place has the same bytes. -/
theorem bytes?_eq (h : SameBut places before after) (hp : before.place? path = .ok p)
    (hmem : p ∉ places) : after.bytes? path = before.bytes? path := by
  rw [bytes?, bytes?, hp, h.place?_iff.2 hp]
  simp only [bind, Except.bind, h.entry?_eq p hmem]

end SameBut

/-! ### Reading and writing -/

theorem bytes?_eq_ok_iff :
    tree.bytes? path = .ok bytes ↔
      ∃ p, tree.place? path = .ok p ∧ tree.entry? p = some (.file bytes) := by
  rw [bytes?, bind_eq_ok_iff]
  refine exists_congr fun p => and_congr_right fun _ => ?_
  cases tree.entry? p with
  | none => simp
  | some e => cases e <;> simp

/-- The bytes of a file, none if there is no file. -/
def held (tree : FileTree) (p : List Text) : ByteArray :=
  match tree.entry? p with
  | some (.file bytes) => bytes
  | _ => .empty

/-- A file at another place is read as before. -/
theorem SameBut.bytes?_of_apart (h : SameBut places before after)
    (hplace : ∀ p ∈ places, before.place? path ≠ .ok p) (hbytes : before.bytes? path = .ok bytes) :
    after.bytes? path = .ok bytes := by
  obtain ⟨p, hp, -⟩ := bytes?_eq_ok_iff.1 hbytes
  rw [h.bytes?_eq hp fun hmem => hplace p hmem hp, hbytes]

namespace SameBut

theorem held_eq (h : SameBut places before after) (hp : p ∉ places) :
    after.held p = before.held p := by
  rw [held, held, h.entry?_eq p hp]

/-- A file that is put into both trees is the same in both. -/
theorem put (h : SameBut places before after) (hplace : before.entry? place ≠ some .folder) :
    SameBut (places.filter (· != place)) (before.put place (.file bytes))
      (after.put place (.file bytes)) where
  entry?_eq p hp := by
    by_cases hsame : p = place
    · subst hsame
      rw [entry?_put_self hplace, entry?_put_self (mt (h.folder_iff p).1 hplace)]
    · rw [entry?_put_of_ne hsame, entry?_put_of_ne hsame]
      exact h.entry?_eq p fun hmem => hp (List.mem_filter.2 ⟨hmem, by simpa using hsame⟩)
  folder_iff p := by
    rw [(sameBut_put hplace).folder_iff,
      (sameBut_put (mt (h.folder_iff place).1 hplace)).folder_iff, h.folder_iff]

end SameBut

/-- A text can be written to a place that is no folder. -/
theorem write?_eq_ok_iff :
    tree.write? path t = .ok after ↔ ∃ p, tree.place? path = .ok p ∧
      tree.entry? p ≠ some .folder ∧ tree.put p (.file t.toBytes) = after := by
  rw [write?, bind_eq_ok_iff]
  refine exists_congr fun p => and_congr_right fun _ => ?_
  cases hentry : tree.entry? p with
  | none => simp
  | some e => cases e <;> simp

/-- A text can be written to the end of a file that is none yet or no folder. -/
theorem append?_eq_ok_iff :
    tree.append? path t = .ok after ↔ ∃ p, tree.place? path = .ok p ∧
      tree.entry? p ≠ some .folder ∧ tree.put p (.file (tree.held p ++ t.toBytes)) = after := by
  rw [append?, bind_eq_ok_iff]
  refine exists_congr fun p => and_congr_right fun _ => ?_
  rw [held]
  cases hentry : tree.entry? p with
  | none => simp [ByteArray.empty_append]
  | some e => cases e <;> simp

/-- **A text that was written is what the file holds**, and nothing else has changed. -/
theorem exists_of_write? (h : tree.write? path t = .ok after) :
    ∃ p, tree.place? path = .ok p ∧ SameBut [p] tree after ∧
      after.entry? p = some (.file t.toBytes) := by
  obtain ⟨p, hp, hplace, rfl⟩ := write?_eq_ok_iff.1 h
  exact ⟨p, hp, sameBut_put hplace, entry?_put_self hplace⟩

/-- **A text that was written to the end of a file follows what the file held**, and nothing else
has changed. -/
theorem exists_of_append? (h : tree.append? path t = .ok after) :
    ∃ p, tree.place? path = .ok p ∧ SameBut [p] tree after ∧
      after.entry? p = some (.file (tree.held p ++ t.toBytes)) := by
  obtain ⟨p, hp, hplace, rfl⟩ := append?_eq_ok_iff.1 h
  exact ⟨p, hp, sameBut_put hplace, entry?_put_self hplace⟩

namespace SameBut

/-- A text that is written to the end of the same file in both trees. -/
theorem append? (h : SameBut places before after) (path : Path) (t : Text) :
    SameBut places ((before.append? path t).toOption.getD before)
      ((after.append? path t).toOption.getD after) := by
  cases hbefore : before.append? path t with
  | ok last =>
    obtain ⟨p, hp, hplace, rfl⟩ := append?_eq_ok_iff.1 hbefore
    have hplace' := mt (h.folder_iff p).1 hplace
    rw [append?_eq_ok_iff.2 ⟨p, h.place?_iff.2 hp, hplace', rfl⟩]
    by_cases hmem : p ∈ places
    · have hone : [p] ⊆ places := List.cons_subset.2 ⟨hmem, List.nil_subset _⟩
      exact ((sameBut_put hplace).mono hone).symm.trans
        (h.trans ((sameBut_put hplace').mono hone))
    · rw [h.held_eq hmem]
      exact (h.put hplace).mono (List.filter_subset_self _)
  | error cause =>
    cases hafter : after.append? path t with
    | error cause' => exact h
    | ok last =>
      obtain ⟨p, hp, hplace, -⟩ := append?_eq_ok_iff.1 hafter
      rw [append?_eq_ok_iff.2 ⟨p, h.place?_iff.1 hp, mt (h.folder_iff p).2 hplace, rfl⟩] at hbefore
      cases hbefore

end SameBut

end FileTree

end SchemaStructs
