import Mathlib.Data.List.Infix
import SchemaStructs.Proofs.Computation
import SchemaStructs.Text.Utf8

/-!
# Bytes of ASCII characters

In UTF-8 a byte below 128 is an ASCII character by itself, wherever it stands
(`Text.of_mem_utf8EncodeChar`).  So ASCII characters that stand next to each other in the bytes of a
text do so in the text (`Text.infix_of_ofBytes`).

A text is read from its own bytes (`Text.ofBytes_toBytes`).
-/

namespace SchemaStructs

namespace Text

variable {c a b : Char} {t u : Text} {bytes before after : ByteArray}

theorem of_mem_utf8EncodeChar {n : UInt8} (hn : n.toNat < 128)
    (hmem : n ∈ String.utf8EncodeChar c) :
    String.utf8EncodeChar c = [n] ∧ c.toNat = n.toNat := by
  have hval : c.val.toNat = c.toNat := rfl
  rw [String.utf8EncodeChar] at hmem ⊢
  split at hmem
  · -- an ASCII character is one byte
    rename_i hascii
    rw [List.mem_singleton] at hmem
    subst hmem
    rw [if_pos hascii, UInt8.toNat_ofNat']
    exact ⟨rfl, by omega⟩
  · -- all bytes of another one are greater
    exfalso
    split at hmem
    · simp only [List.mem_cons, List.not_mem_nil, or_false] at hmem
      rcases hmem with rfl | rfl <;> rw [UInt8.toNat_ofNat'] at hn <;> omega
    · split at hmem
      · simp only [List.mem_cons, List.not_mem_nil, or_false] at hmem
        rcases hmem with rfl | rfl | rfl <;> rw [UInt8.toNat_ofNat'] at hn <;> omega
      · simp only [List.mem_cons, List.not_mem_nil, or_false] at hmem
        rcases hmem with rfl | rfl | rfl | rfl <;> rw [UInt8.toNat_ofNat'] at hn <;> omega

/-- The bytes of a text, as a list. -/
def encoded (t : Text) : List UInt8 := t.flatMap String.utf8EncodeChar

theorem data_utf8Encode (t : Text) : t.utf8Encode.data.toList = encoded t := by
  rw [List.utf8Encode, List.data_toByteArray]
  rfl

theorem data_toBytes (t : Text) : (toBytes t).data.toList = encoded t := by
  rw [← data_utf8Encode, ← String.toByteArray_ofList]
  rfl

theorem toBytes_append (t u : Text) : toBytes (t ++ u) = toBytes t ++ toBytes u := by
  refine ByteArray.ext (Array.toList_inj.1 ?_)
  rw [ByteArray.data_append, Array.toList_append, data_toBytes, data_toBytes, data_toBytes]
  exact List.flatMap_append

theorem data_of_ofBytes (h : ofBytes bytes = .ok u) : bytes.data.toList = encoded u := by
  unfold ofBytes at h
  split at h
  · rename_i s hs
    cases h
    rw [← data_utf8Encode, String.utf8Encode_toList]
    unfold String.fromUTF8? at hs
    split at hs
    · cases hs
      rfl
    · cases hs
  · cases h

/-- **A text is read from its bytes.** -/
theorem ofBytes_toBytes (t : Text) : ofBytes (toBytes t) = .ok t := by
  have hbytes : String.fromUTF8? t.asString.toUTF8 = some t.asString := by
    rw [String.fromUTF8?, dif_pos]
    rfl
  rw [ofBytes, toBytes, hbytes]
  exact congrArg _ String.toList_ofList

/-- An ASCII character by whose byte a text starts. -/
theorem exists_of_encoded_eq_cons {n : UInt8} {rest : List UInt8} (hn : n.toNat < 128)
    (h : encoded t = n :: rest) : ∃ c t', t = c :: t' ∧ c.toNat = n.toNat ∧ encoded t' = rest := by
  cases t with
  | nil => cases h
  | cons c t =>
    have hne : String.utf8EncodeChar c ≠ [] := String.utf8EncodeChar_ne_nil
    obtain ⟨m, ms, hc⟩ := List.exists_cons_of_ne_nil hne
    have hmem : n ∈ String.utf8EncodeChar c := by
      rw [encoded, List.flatMap_cons, hc] at h
      rw [hc, (List.cons.inj h).1]
      exact List.mem_cons_self
    obtain ⟨hsingle, hn⟩ := of_mem_utf8EncodeChar hn hmem
    rw [encoded, List.flatMap_cons, hsingle] at h
    exact ⟨c, t, rfl, hn, (List.cons.inj h).2⟩

theorem utf8EncodeChar_of_lt (h : c.toNat < 128) :
    String.utf8EncodeChar c = [UInt8.ofNat c.toNat] :=
  if_pos (Nat.le_of_lt_succ h)

theorem toNat_ofNat_of_lt {n : Nat} (h : n < 128) : (UInt8.ofNat n).toNat = n := by
  rw [UInt8.toNat_ofNat']
  omega

/-- **ASCII characters whose bytes stand in a row do so themselves.** -/
theorem infix_of_encoded (ha : a.toNat < 128) (hb : b.toNat < 128) (front : List UInt8)
    {back : List UInt8} (h : encoded u = front ++ (encoded [a, b] ++ back)) : [a, b] <:+: u := by
  have hfirst := toNat_ofNat_of_lt ha
  have hsecond := toNat_ofNat_of_lt hb
  have hbytes : encoded [a, b] ++ back =
      UInt8.ofNat a.toNat :: UInt8.ofNat b.toNat :: back := by
    simp [encoded, utf8EncodeChar_of_lt ha, utf8EncodeChar_of_lt hb]
  rw [hbytes] at h
  induction u generalizing front with
  | nil => exact absurd h.symm (by simp [encoded])
  | cons c u ih =>
    have hcons : encoded (c :: u) = String.utf8EncodeChar c ++ encoded u := List.flatMap_cons
    rcases List.append_eq_append_iff.1 (hcons.symm.trans h) with
      ⟨part, -, hrest⟩ | ⟨part, hc, hrest⟩
    · exact List.infix_cons (ih part hrest)
    · cases part with
      | nil => exact List.infix_cons (ih [] hrest.symm)
      | cons n part =>
        -- the first byte is a whole character, and the second one the next
        obtain ⟨rfl, hnext⟩ := List.cons.inj hrest
        have hmem : UInt8.ofNat a.toNat ∈ String.utf8EncodeChar c :=
          hc ▸ List.mem_append_right front List.mem_cons_self
        obtain ⟨hsingle, hca⟩ := of_mem_utf8EncodeChar (by rwa [hfirst]) hmem
        have hpart : part = [] := by
          have hlength := congrArg List.length (hsingle.symm.trans hc)
          rw [List.length_singleton, List.length_append, List.length_cons] at hlength
          exact List.length_eq_zero_iff.1 (by omega)
        subst hpart
        obtain ⟨d, u, rfl, hdb, -⟩ := exists_of_encoded_eq_cons (by rwa [hsecond]) hnext.symm
        rw [Char.toNat_inj.1 (hca.trans hfirst), Char.toNat_inj.1 (hdb.trans hsecond)]
        exact List.infix_iff_prefix_suffix.2 ⟨_, List.prefix_append [a, b] u, List.suffix_refl _⟩

/-- ASCII characters that stand in a row in the bytes of a text do so in the text. -/
theorem infix_of_ofBytes (ha : a.toNat < 128) (hb : b.toNat < 128)
    (h : ofBytes (before ++ toBytes [a, b] ++ after) = .ok u) : [a, b] <:+: u := by
  have hdata := data_of_ofBytes h
  rw [ByteArray.data_append, ByteArray.data_append, Array.toList_append, Array.toList_append,
    data_toBytes, List.append_assoc] at hdata
  exact infix_of_encoded ha hb _ hdata.symm

end Text

end SchemaStructs
