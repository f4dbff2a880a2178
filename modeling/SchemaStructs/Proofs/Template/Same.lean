import SchemaStructs.Template.Program

/-!
# Programs that are the same

A check of whether two programs are the same (`sameAll`), for programs made of texts, names,
members, calls, filters and operators.  It computes, so that what the reader makes of a given
template can be written down as a program (`eq_of_sameAll`).
-/

namespace SchemaStructs

namespace Template

mutual

/-- The two expressions are the same; lists, tables and signs are not compared. -/
def Expr.same : Expr → Expr → Bool
  | .literal (.str s), .literal (.str t) => s == t
  | .named m, .named n => m == n
  | .member a f, .member b f' => a.same b && f == f'
  | .call r xs, .call r' ys => r.same r' && sameArgs xs ys
  | .filtered a f xs, .filtered b f' ys => a.same b && f == f' && sameArgs xs ys
  | .binary op a b, .binary op' a' b' => op == op' && a.same a' && b.same b'
  | _, _ => false

/-- The two lists of arguments are the same. -/
def sameArgs : List (Option Text × Expr) → List (Option Text × Expr) → Bool
  | [], [] => true
  | (m, a) :: xs, (n, b) :: ys => m == n && a.same b && sameArgs xs ys
  | _, _ => false

end

mutual

/-- The two statements are the same. -/
def Statement.same : Statement → Statement → Bool
  | .text s, .text t => s == t
  | .output a, .output b => a.same b
  | .assign m a, .assign n b => m == n && a.same b
  | .choose a xs ys, .choose b xs' ys' => a.same b && sameAll xs xs' && sameAll ys ys'
  | .each m a xs, .each n b ys => m == n && a.same b && sameAll xs ys
  | .define m ps xs, .define n qs ys => m == n && ps == qs && sameAll xs ys
  | .load t m, .load u n => t == u && m == n
  | _, _ => false

/-- The two programs are the same. -/
def sameAll : List Statement → List Statement → Bool
  | [], [] => true
  | s :: rest, t :: rest' => s.same t && sameAll rest rest'
  | _, _ => false

end

/-! ### Soundness -/

mutual

theorem Expr.eq_of_same {a c : Expr} (h : a.same c = true) : a = c := by
  match a with
  | .literal j =>
    cases c with
    | literal k => cases j <;> cases k <;> simp_all [Expr.same]
    | _ => cases j <;> simp [Expr.same] at h
  | .named m => cases c <;> simp_all [Expr.same]
  | .member a f =>
    cases c with
    | member b f' =>
      simp only [Expr.same, Bool.and_eq_true, beq_iff_eq] at h
      rw [Expr.eq_of_same h.1, h.2]
    | _ => simp [Expr.same] at h
  | .call r xs =>
    cases c with
    | call r' ys =>
      simp only [Expr.same, Bool.and_eq_true] at h
      rw [Expr.eq_of_same h.1, eq_of_sameArgs h.2]
    | _ => simp [Expr.same] at h
  | .filtered a f xs =>
    cases c with
    | filtered b f' ys =>
      simp only [Expr.same, Bool.and_eq_true, beq_iff_eq] at h
      rw [Expr.eq_of_same h.1.1, h.1.2, eq_of_sameArgs h.2]
    | _ => simp [Expr.same] at h
  | .binary op a b =>
    cases c with
    | binary op' a' b' =>
      simp only [Expr.same, Bool.and_eq_true, beq_iff_eq] at h
      rw [h.1.1, Expr.eq_of_same h.1.2, Expr.eq_of_same h.2]
    | _ => simp [Expr.same] at h
  | .item _ _ | .list _ | .tuple _ | .table _ | .signed _ _ => cases c <;> simp [Expr.same] at h

theorem eq_of_sameArgs {xs ys : List (Option Text × Expr)} (h : sameArgs xs ys = true) :
    xs = ys := by
  match xs, ys with
  | [], [] => rfl
  | (m, a) :: xs, (n, b) :: ys =>
    simp only [sameArgs, Bool.and_eq_true, beq_iff_eq] at h
    rw [h.1.1, Expr.eq_of_same h.1.2, eq_of_sameArgs h.2]
  | [], _ :: _ | _ :: _, [] => simp [sameArgs] at h

end

mutual

theorem Statement.eq_of_same {s t : Statement} (h : s.same t = true) : s = t := by
  match s with
  | .text a => cases t <;> simp_all [Statement.same]
  | .load a m => cases t <;> simp_all [Statement.same]
  | .output a =>
    cases t with
    | output b =>
      simp only [Statement.same] at h
      rw [Expr.eq_of_same h]
    | _ => simp [Statement.same] at h
  | .assign m a =>
    cases t with
    | assign n b =>
      simp only [Statement.same, Bool.and_eq_true, beq_iff_eq] at h
      rw [h.1, Expr.eq_of_same h.2]
    | _ => simp [Statement.same] at h
  | .choose a xs ys =>
    cases t with
    | choose b xs' ys' =>
      simp only [Statement.same, Bool.and_eq_true] at h
      rw [Expr.eq_of_same h.1.1, eq_of_sameAll h.1.2, eq_of_sameAll h.2]
    | _ => simp [Statement.same] at h
  | .each m a xs =>
    cases t with
    | each n b ys =>
      simp only [Statement.same, Bool.and_eq_true, beq_iff_eq] at h
      rw [h.1.1, Expr.eq_of_same h.1.2, eq_of_sameAll h.2]
    | _ => simp [Statement.same] at h
  | .define m ps xs =>
    cases t with
    | define n qs ys =>
      simp only [Statement.same, Bool.and_eq_true, beq_iff_eq] at h
      rw [h.1.1, h.1.2, eq_of_sameAll h.2]
    | _ => simp [Statement.same] at h

/-- Programs that are found to be the same are equal. -/
theorem eq_of_sameAll {xs ys : List Statement} (h : sameAll xs ys = true) : xs = ys := by
  match xs, ys with
  | [], [] => rfl
  | s :: xs, t :: ys =>
    simp only [sameAll, Bool.and_eq_true] at h
    rw [Statement.eq_of_same h.1, eq_of_sameAll h.2]
  | [], _ :: _ | _ :: _, [] => simp [sameAll] at h

end

end Template

end SchemaStructs
