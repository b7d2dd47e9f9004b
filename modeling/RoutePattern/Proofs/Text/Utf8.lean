import Mathlib.Tactic.Common
import RoutePattern.Text.Utf8

/-! Reading back the bytes of a text gives the text. -/
namespace RoutePattern.Text.Utf8

variable {a b d e : UInt8} {n x y z : Nat} {rest : List UInt8}

theorem range_iff {lo hi : UInt8} :
    (lo ≤ a ∧ a < hi) ↔ lo.toNat ≤ a.toNat ∧ a.toNat < hi.toNat :=
  and_congr UInt8.le_iff_toNat_le UInt8.lt_iff_toNat_lt

theorem continuation?_eq_some (hb : b.toNat = x + 128) (hx : x < 64) :
    continuation? b = some x := by
  have hrange : (0x80 : UInt8) ≤ b ∧ b < 0xC0 := by
    rw [range_iff, hb]
    change 128 ≤ x + 128 ∧ x + 128 < 192
    omega
  rw [continuation?, if_pos hrange, hb]
  exact congrArg some (Nat.add_sub_cancel x 128)

theorem scalar?_toNat {least : Nat} {c : Char} (h : least ≤ c.toNat) :
    scalar? least c.toNat = some c := by
  rw [scalar?, if_pos ⟨h, c.valid⟩, Char.ofNat_toNat]

theorem decode_one (ha : a.toNat < 128) :
    decode (a :: rest) = (decode rest).map (Char.ofNat a.toNat :: ·) := by
  have hlow : a < 0x80 := UInt8.lt_iff_toNat_lt.mpr ha
  rw [decode.eq_def]
  exact if_pos hlow

theorem not_one (ha : 128 ≤ a.toNat) : ¬ a < 0x80 := by
  rw [UInt8.lt_iff_toNat_lt]
  exact Nat.not_lt.mpr ha

theorem decode_two (ha : a.toNat = n + 192) (hn : n < 32) (hb : b.toNat = x + 128) (hx : x < 64) :
    decode (a :: b :: rest) =
      (scalar? 0x80 (n * 64 + x)).bind fun c => (decode rest).map (c :: ·) := by
  have htwo : (0xC0 : UInt8) ≤ a ∧ a < 0xE0 := by
    rw [range_iff, ha]
    change 192 ≤ n + 192 ∧ n + 192 < 224
    omega
  rw [decode.eq_def]
  simp only [if_neg (not_one (a := a) (by omega)), continuation?_eq_some hb hx, if_pos htwo, ha,
    Nat.add_sub_cancel, bind, Option.bind_some]

theorem decode_three (ha : a.toNat = n + 224) (hn : n < 16) (hb : b.toNat = x + 128) (hx : x < 64)
    (hd : d.toNat = y + 128) (hy : y < 64) :
    decode (a :: b :: d :: rest) =
      (scalar? 0x800 ((n * 64 + x) * 64 + y)).bind fun c => (decode rest).map (c :: ·) := by
  have htwo : ¬ ((0xC0 : UInt8) ≤ a ∧ a < 0xE0) := by
    rw [range_iff, ha]
    change ¬ (192 ≤ n + 224 ∧ n + 224 < 224)
    omega
  have hthree : (0xE0 : UInt8) ≤ a ∧ a < 0xF0 := by
    rw [range_iff, ha]
    change 224 ≤ n + 224 ∧ n + 224 < 240
    omega
  rw [decode.eq_def]
  simp only [if_neg (not_one (a := a) (by omega)), continuation?_eq_some hb hx, if_neg htwo,
    continuation?_eq_some hd hy, if_pos hthree, ha, Nat.add_sub_cancel, bind, Option.bind_some]

theorem decode_four (ha : a.toNat = n + 240) (hn : n < 8) (hb : b.toNat = x + 128) (hx : x < 64)
    (hd : d.toNat = y + 128) (hy : y < 64) (he : e.toNat = z + 128) (hz : z < 64) :
    decode (a :: b :: d :: e :: rest) =
      (scalar? 0x10000 (((n * 64 + x) * 64 + y) * 64 + z)).bind fun c =>
        (decode rest).map (c :: ·) := by
  have htwo : ¬ ((0xC0 : UInt8) ≤ a ∧ a < 0xE0) := by
    rw [range_iff, ha]
    change ¬ (192 ≤ n + 240 ∧ n + 240 < 224)
    omega
  have hthree : ¬ ((0xE0 : UInt8) ≤ a ∧ a < 0xF0) := by
    rw [range_iff, ha]
    change ¬ (224 ≤ n + 240 ∧ n + 240 < 240)
    omega
  have hfour : (0xF0 : UInt8) ≤ a ∧ a < 0xF8 := by
    rw [range_iff, ha]
    change 240 ≤ n + 240 ∧ n + 240 < 248
    omega
  rw [decode.eq_def]
  simp only [if_neg (not_one (a := a) (by omega)), continuation?_eq_some hb hx, if_neg htwo,
    continuation?_eq_some hd hy, if_neg hthree, continuation?_eq_some he hz, if_pos hfour, ha,
    Nat.add_sub_cancel, bind, Option.bind_some]

/-- The bytes of a character are read as the character, whatever follows. -/
theorem decode_char (c : Char) (rest : List UInt8) :
    decode (String.utf8EncodeChar c ++ rest) = (decode rest).map (c :: ·) := by
  have hmax : c.toNat < 0x110000 := by
    have hvalid := c.valid
    simp only [Char.toNat, UInt32.isValidChar, Nat.isValidChar] at *
    omega
  have hval : c.val.toNat = c.toNat := rfl
  have hbyte {n : Nat} (h : n < 256) : (UInt8.ofNat n).toNat = n := UInt8.toNat_ofNat_of_lt' h
  -- by the number of bytes, which the digits of the code point fill
  simp only [String.utf8EncodeChar, hval]
  split_ifs with hone htwo hthree
  · rw [List.singleton_append, decode_one (by rw [hbyte] <;> omega), hbyte (by omega),
      Char.ofNat_toNat]
  · have hdigits : c.toNat / 64 % 32 * 64 + c.toNat % 64 = c.toNat := by omega
    rw [List.cons_append, List.singleton_append,
      decode_two (hbyte (by omega)) (by omega) (hbyte (by omega)) (by omega), hdigits,
      scalar?_toNat (by omega), Option.bind_some]
  · have hdigits : (c.toNat / 4096 % 16 * 64 + c.toNat / 64 % 64) * 64 + c.toNat % 64 =
        c.toNat := by omega
    rw [List.cons_append, List.cons_append, List.singleton_append,
      decode_three (hbyte (by omega)) (by omega) (hbyte (by omega)) (by omega)
        (hbyte (by omega)) (by omega), hdigits, scalar?_toNat (by omega), Option.bind_some]
  · have hdigits : ((c.toNat / 262144 % 8 * 64 + c.toNat / 4096 % 64) * 64 +
        c.toNat / 64 % 64) * 64 + c.toNat % 64 = c.toNat := by omega
    rw [List.cons_append, List.cons_append, List.cons_append, List.singleton_append,
      decode_four (hbyte (by omega)) (by omega) (hbyte (by omega)) (by omega)
        (hbyte (by omega)) (by omega) (hbyte (by omega)) (by omega), hdigits,
      scalar?_toNat (by omega), Option.bind_some]

theorem decode_encode (cs : List Char) : decode (encode cs) = some cs := by
  induction cs with
  | nil => rfl
  | cons c cs ih =>
    rw [encode] at ih
    rw [encode, List.flatMap_cons, decode_char, ih]
    rfl

end RoutePattern.Text.Utf8
