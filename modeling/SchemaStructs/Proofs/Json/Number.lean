import Mathlib.Algebra.Group.Nat.Defs
import SchemaStructs.Json.Reader
import SchemaStructs.Proofs.Computation

/-!
# The parts of a number

A number is read from its sign (`Json.signPart`) and what follows it (`Json.readUnsigned`).  A power
of ten is one and zeros (`Text.ofNat_ten_pow`); with more digits than are converted it is spelled
like any other integer, and not read (`Json.readNumber_ten_pow`).
-/

namespace SchemaStructs

/-- A power of ten is spelled as one and zeros. -/
theorem Text.ofNat_ten_pow (n : Nat) : Text.ofNat (10 ^ n) = '1' :: List.replicate n '0' := by
  induction n with
  | zero => rfl
  | succ n ih =>
    have hstep := Nat.toDigits_append_toDigits (b := 10) (n := 10 ^ n) (d := 0) (by decide)
      (Nat.pow_pos (by decide)) (by decide)
    rw [Text.ofNat] at ih ⊢
    rw [Nat.pow_succ', ← Nat.add_zero (10 * 10 ^ n), ← hstep, ih, List.replicate_succ']
    rfl

namespace Json

/-- The sign of a number: whether it is negative, the size of the sign, and what follows it. -/
def signPart : Text → Bool × Nat × Text
  | '-' :: rest => (true, 1, rest)
  | t => (false, 0, t)

/-- A number whose sign was read. -/
def readUnsigned (pos : Nat) (sign : Bool × Nat × Text) : Except ReadError (Json × Rest) :=
  let (negative, signSize, unsigned) := sign
  match wholePart unsigned with
  | none => .error (.invalid .expectingValue pos)
  | some (whole, rest) =>
    let (fraction, rest) := fractionPart rest
    let size := signSize + whole.length + (if fraction.isEmpty then 0 else fraction.length + 1)
    match exponentPart rest with
    | some (negativeExponent, ds, exponentSize, rest) =>
      let e : Int := Text.toNat ds
      let e := (if negativeExponent then -e else e) - fraction.length
      .ok (.float (.ofDecimal negative (Text.toNat (whole ++ fraction)) e),
        pos + size + exponentSize, rest)
    | none =>
      if fraction.isEmpty then
        if maxDigits < whole.length then .error (.tooManyDigits whole.length)
        else
          let n : Int := Text.toNat whole
          .ok (.int (if negative then -n else n), pos + size, rest)
      else
        .ok (.float (.ofDecimal negative (Text.toNat (whole ++ fraction)) (-fraction.length)),
          pos + size, rest)

/-- The digits of an exponent after its letter and its sign. -/
def exponentDigits (sign : Bool × Nat × Text) : Option (Bool × Text × Nat × Text) :=
  let (negative, signSize, rest) := sign
  let (ds, after) := digitRun rest
  if ds.isEmpty then none else some (negative, ds, 1 + signSize + ds.length, after)

/-- The sign of an exponent, which may be a plus. -/
def exponentSign : Text → Bool × Nat × Text
  | '-' :: rest => (true, 1, rest)
  | '+' :: rest => (false, 1, rest)
  | rest => (false, 0, rest)

variable {t rest : Text} {c : Char} {pos : Nat}

theorem readNumber_eq (pos : Nat) (t : Text) :
    readNumber pos t = readUnsigned pos (signPart t) := by
  unfold readNumber readUnsigned signPart
  rfl

theorem exponentPart_eq (e : Char) (rest : Text) : exponentPart (e :: rest) =
    if e == 'e' || e == 'E' then exponentDigits (exponentSign rest) else none := by
  unfold exponentPart exponentDigits exponentSign
  rfl

theorem digitRun_append (ht : t.all Char.isDigit = true) (hc : c.isDigit = false) (rest : Text) :
    digitRun (t ++ c :: rest) = (t, c :: rest) := by
  have hdigits : ∀ d ∈ t, d.isDigit = true := List.all_eq_true.1 ht
  rw [digitRun, List.takeWhile_append_of_pos hdigits, List.dropWhile_append_of_pos hdigits,
    List.takeWhile_cons_of_neg (by simp [hc]), List.dropWhile_cons_of_neg (by simp [hc]),
    List.append_nil]

/-- A power of ten with too many digits is not read. -/
theorem readNumber_ten_pow {n : Nat} (hn : maxDigits ≤ n) (hc : c.isDigit = false)
    (hpoint : c ≠ '.') (hsmall : c ≠ 'e') (hcapital : c ≠ 'E') (rest : Text) :
    readNumber pos (Text.ofNat (10 ^ n) ++ c :: rest) = .error (.tooManyDigits (n + 1)) := by
  have hdigits : ('1' :: List.replicate n '0').all Char.isDigit = true := by simp
  have hwhole : wholePart ('1' :: (List.replicate n '0' ++ c :: rest)) =
      some ('1' :: List.replicate n '0', c :: rest) := by
    rw [wholePart, ← List.cons_append, digitRun_append hdigits hc]
    · rfl
    · exact fun _ h => absurd (List.cons.inj h).1 (by decide)
  have hfraction : fractionPart (c :: rest) = ([], c :: rest) := by
    rw [fractionPart]
    exact fun _ h => hpoint (List.cons.inj h).1
  have hplain : exponentPart (c :: rest) = none := by
    simp [exponentPart, hsmall, hcapital]
  have hlength : maxDigits < ('1' :: List.replicate n '0').length := by
    rw [List.length_cons, List.length_replicate]
    exact Nat.lt_succ_of_le hn
  have hsign : signPart ('1' :: (List.replicate n '0' ++ c :: rest)) =
      (false, 0, '1' :: (List.replicate n '0' ++ c :: rest)) := rfl
  rw [Text.ofNat_ten_pow, List.cons_append, readNumber_eq, hsign]
  simp only [readUnsigned, hwhole, hfraction, hplain, List.isEmpty_nil, if_true, if_pos hlength]
  rw [List.length_cons, List.length_replicate]

/-! ### What is left -/

theorem length_digitRun (t : Text) : (digitRun t).2.length ≤ t.length :=
  (List.dropWhile_suffix _).length_le

theorem length_fractionPart (t : Text) : (fractionPart t).2.length ≤ t.length := by
  unfold fractionPart
  split
  · dsimp only
    split
    · exact Nat.le_refl _
    · exact Nat.le_trans (length_digitRun _) (Nat.le_succ _)
  · exact Nat.le_refl _

theorem length_exponentSign (t : Text) : (exponentSign t).2.2.length ≤ t.length := by
  unfold exponentSign
  split <;> simp

theorem length_exponentPart {negative : Bool} {ds : Text} {size : Nat}
    (h : exponentPart t = some (negative, ds, size, rest)) : rest.length ≤ t.length := by
  cases t with
  | nil => cases h
  | cons e t =>
    rw [exponentPart_eq, exponentDigits] at h
    dsimp only at h
    split at h
    · split at h
      · cases h
      · cases h
        exact Nat.le_trans (length_digitRun _)
          (Nat.le_trans (length_exponentSign t) (Nat.le_succ _))
    · cases h

theorem length_wholePart {ds : Text} (h : wholePart t = some (ds, rest)) :
    rest.length < t.length := by
  unfold wholePart at h
  split at h
  · cases h
    exact Nat.lt_succ_self _
  · dsimp only at h
    split at h
    · cases h
    · rename_i hdigits
      cases h
      -- the text is its digits and what follows them
      have hsplit := congrArg List.length
        (List.takeWhile_append_dropWhile (p := Char.isDigit) (l := t))
      have hpos : 0 < (t.takeWhile Char.isDigit).length := List.length_pos_iff.2 fun hnil =>
        hdigits (List.isEmpty_iff.2 hnil)
      rw [List.length_append] at hsplit
      change (t.dropWhile Char.isDigit).length < t.length
      omega

theorem length_signPart (t : Text) : (signPart t).2.2.length ≤ t.length := by
  unfold signPart
  split <;> simp

end Json

end SchemaStructs
