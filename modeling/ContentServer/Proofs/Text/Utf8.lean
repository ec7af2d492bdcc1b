import ContentServer.Text.Octets
import Mathlib.Data.List.Basic
import Mathlib.Data.Nat.Notation

namespace ContentServer.Text.Utf8

/-- The octet that holds the last six bits of a value. -/
def continuation (value : Nat) : UInt8 :=
  UInt8.ofNat (value % 64 + 128)

theorem toNat_continuation (value : Nat) : (continuation value).toNat = value % 64 + 128 := by
  simp [continuation]
  omega

theorem utf8EncodeChar_eq (c : Char) :
    String.utf8EncodeChar c =
      if c.toNat ≤ 0x7F then [UInt8.ofNat c.toNat]
      else if c.toNat ≤ 0x7FF then [UInt8.ofNat (c.toNat / 64 % 32 + 0xC0), continuation c.toNat]
      else if c.toNat ≤ 0xFFFF then
        [UInt8.ofNat (c.toNat / 4096 % 16 + 0xE0), continuation (c.toNat / 64), continuation c.toNat]
      else
        [UInt8.ofNat (c.toNat / 262144 % 8 + 0xF0), continuation (c.toNat / 4096),
          continuation (c.toNat / 64), continuation c.toNat] := rfl

section Lead

variable {value : Nat}

theorem lead_one (h : value ≤ 0x7F) : Lead.of (UInt8.ofNat value) = .whole (Char.ofNat value) := by
  have hoctet : (UInt8.ofNat value).toNat = value := by
    simp
    omega
  rw [Lead.of, hoctet, if_pos (by omega)]

theorem lead_two (hmin : 0x7F < value) (hmax : value ≤ 0x7FF) :
    Lead.of (UInt8.ofNat (value / 64 % 32 + 0xC0)) = .begun ⟨1, value / 64, 0x80, 0xBF⟩ := by
  have hoctet : (UInt8.ofNat (value / 64 % 32 + 0xC0)).toNat = value / 64 + 0xC0 := by
    simp
    omega
  rw [Lead.of, hoctet, if_neg (by omega), if_neg (by omega), if_pos (by omega), Nat.add_sub_cancel]

theorem lead_three (hmax : value ≤ 0xFFFF) :
    Lead.of (UInt8.ofNat (value / 4096 % 16 + 0xE0)) =
      .begun ⟨2, value / 64 / 64, if value / 4096 = 0 then 0xA0 else 0x80,
        if value / 4096 = 0xD then 0x9F else 0xBF⟩ := by
  have hoctet : (UInt8.ofNat (value / 4096 % 16 + 0xE0)).toNat = value / 4096 + 0xE0 := by
    simp
    omega
  rw [Lead.of, hoctet, if_neg (by omega), if_neg (by omega), if_neg (by omega), if_pos (by omega),
    Nat.add_sub_cancel, Nat.div_div_eq_div_mul]
  simp

theorem lead_four (hmax : value < 0x110000) :
    Lead.of (UInt8.ofNat (value / 262144 % 8 + 0xF0)) =
      .begun ⟨3, value / 4096 / 64, if value / 262144 = 0 then 0x90 else 0x80,
        if value / 262144 = 4 then 0x8F else 0xBF⟩ := by
  have hoctet : (UInt8.ofNat (value / 262144 % 8 + 0xF0)).toNat = value / 262144 + 0xF0 := by
    simp
    omega
  rw [Lead.of, hoctet, if_neg (by omega), if_neg (by omega), if_neg (by omega), if_neg (by omega),
    if_pos (by omega), Nat.add_sub_cancel, Nat.div_div_eq_div_mul]
  simp

end Lead

section Continuation

variable {owed value low high : Nat}

theorem accepts_continuation (hlow : low ≤ value % 64 + 128) (hhigh : value % 64 + 128 ≤ high) :
    Partial.accepts ⟨owed, value / 64, low, high⟩ (continuation value) = true := by
  simp [Partial.accepts, toNat_continuation, hlow, hhigh]

theorem extend_continuation :
    Partial.extend ⟨owed, value / 64, low, high⟩ (continuation value) =
      ⟨owed - 1, value, 0x80, 0xBF⟩ := by
  simp [Partial.extend, toNat_continuation]
  omega

theorem decodeFrom_continuation (howed : owed ≠ 1) (hlow : low ≤ value % 64 + 128)
    (hhigh : value % 64 + 128 ≤ high) (rest : List UInt8) :
    decodeFrom (some ⟨owed, value / 64, low, high⟩) (continuation value :: rest) =
      decodeFrom (some ⟨owed - 1, value, 0x80, 0xBF⟩) rest := by
  rw [decodeFrom, if_pos (accepts_continuation hlow hhigh), if_neg howed, extend_continuation]

theorem decodeFrom_last (rest : List UInt8) :
    decodeFrom (some ⟨1, value / 64, 0x80, 0xBF⟩) (continuation value :: rest) =
      some (Char.ofNat value) :: decodeFrom none rest := by
  rw [decodeFrom, if_pos (accepts_continuation (by omega) (by omega)), if_pos rfl,
    extend_continuation]

end Continuation

theorem decodeFrom_encodeChar (c : Char) (rest : List UInt8) :
    decodeFrom none (String.utf8EncodeChar c ++ rest) = some c :: decodeFrom none rest := by
  have hvalid : c.toNat < 0xD800 ∨ 0xDFFF < c.toNat ∧ c.toNat < 0x110000 := c.valid
  have hchar : Char.ofNat c.toNat = c := Char.ofNat_toNat c
  rw [utf8EncodeChar_eq]
  generalize c.toNat = value at hvalid hchar
  subst hchar
  by_cases h1 : value ≤ 0x7F
  · rw [if_pos h1, List.singleton_append, decodeFrom, lead_one h1]
  by_cases h2 : value ≤ 0x7FF
  · rw [if_neg h1, if_pos h2, List.cons_append, decodeFrom, lead_two (by omega) h2]
    exact decodeFrom_last rest
  by_cases h3 : value ≤ 0xFFFF
  · -- the second octet rules out overlong forms and surrogates
    have hlow : (if value / 4096 = 0 then 0xA0 else 0x80) ≤ value / 64 % 64 + 128 := by
      split <;> omega
    have hhigh : value / 64 % 64 + 128 ≤ if value / 4096 = 0xD then 0x9F else 0xBF := by
      split <;> omega
    rw [if_neg h1, if_neg h2, if_pos h3, List.cons_append, decodeFrom, lead_three h3]
    exact (decodeFrom_continuation (by omega) hlow hhigh _).trans (decodeFrom_last rest)
  · -- and here overlong forms and values that are no characters
    have hlow : (if value / 262144 = 0 then 0x90 else 0x80) ≤ value / 4096 % 64 + 128 := by
      split <;> omega
    have hhigh : value / 4096 % 64 + 128 ≤ if value / 262144 = 4 then 0x8F else 0xBF := by
      split <;> omega
    have hhalf : value / 4096 = value / 64 / 64 := by omega
    rw [if_neg h1, if_neg h2, if_neg h3, List.cons_append, decodeFrom, lead_four (by omega)]
    refine (decodeFrom_continuation (by omega) hlow hhigh _).trans ?_
    rw [hhalf]
    exact (decodeFrom_continuation (by omega) (by omega) (by omega) _).trans (decodeFrom_last rest)

theorem decode_encode (cs : List Char) : decode (encode cs) = cs.map some := by
  rw [decode, encode]
  induction cs with
  | nil => rfl
  | cons c cs ih => rw [List.flatMap_cons, decodeFrom_encodeChar, ih, List.map_cons]

theorem decodeLossy_encode (cs : List Char) : decodeLossy (encode cs) = cs := by
  simp [decodeLossy, decode_encode, Function.comp_def]

theorem utf8EncodeChar_ofNat {value : Nat} (h : value < 0x80) :
    String.utf8EncodeChar (Char.ofNat value) = [UInt8.ofNat value] := by
  have hvalid : value.isValidChar := .inl (by omega)
  have hchar : (Char.ofNat value).toNat = value := by
    rw [Char.ofNat, dif_pos hvalid]
    rfl
  rw [utf8EncodeChar_eq, hchar, if_pos (by omega)]

theorem encode_ascii {octets : List UInt8} (h : ∀ octet ∈ octets, octet.toNat < 0x80) :
    encode (octets.map fun octet => Char.ofNat octet.toNat) = octets := by
  rw [encode]
  induction octets with
  | nil => rfl
  | cons octet octets ih =>
    obtain ⟨hfirst, hrest⟩ := List.forall_mem_cons.mp h
    rw [List.map_cons, List.flatMap_cons, utf8EncodeChar_ofNat hfirst, UInt8.ofNat_toNat, ih hrest,
      List.singleton_append]

end ContentServer.Text.Utf8
