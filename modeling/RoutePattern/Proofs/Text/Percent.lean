import Mathlib.Data.List.Basic
import RoutePattern.Proofs.Text.Utf8
import RoutePattern.Text.Percent

/-! What percent coding writes, and that reading it gives the text back. -/
namespace RoutePattern.Text.Percent

section Characters

variable {c d : Char} {cs : List Char} {b : UInt8}

theorem hexValue?_hexDigit {n : Nat} (h : n < 16) : hexValue? (hexDigit n) = some n := by
  have hall : ∀ n < 16, hexValue? (hexDigit n) = some n := by decide
  exact hall n h

theorem isKept_hexDigit {n : Nat} (h : n < 16) : isKept (hexDigit n) = true := by
  have hall : ∀ n < 16, isKept (hexDigit n) = true := by decide
  exact hall n h

theorem toNat_lt_of_isKept (h : isKept c = true) : c.toNat < 128 := by
  have hpunct : ['-', '_', '.', '~', '!', '\'', '(', ')', '*'].all (·.toNat < 128) = true := rfl
  have hbelow {high : UInt32} (hle : c.val ≤ high) (hhigh : high.toNat < 128) : c.toNat < 128 :=
    Nat.lt_of_le_of_lt (UInt32.le_iff_toNat_le.mp hle) hhigh
  rcases Bool.or_eq_true_iff.mp h with halnum | hmem
  · rcases Bool.or_eq_true_iff.mp halnum with halpha | hdigit
    · rcases Bool.or_eq_true_iff.mp halpha with hupper | hlower
      · exact hbelow (of_decide_eq_true hupper).2 (by decide)
      · exact hbelow (of_decide_eq_true (Bool.and_eq_true_iff.mp hlower).2) (by decide)
    · exact hbelow (of_decide_eq_true (Bool.and_eq_true_iff.mp hdigit).2) (by decide)
  · exact of_decide_eq_true (List.all_eq_true.mp hpunct c (List.contains_iff_mem.mp hmem))

theorem ne_percent_of_isKept (h : isKept c = true) : c ≠ '%' := by
  intro hc
  rw [hc] at h
  exact absurd h (by decide)

theorem utf8EncodeChar_of_lt (h : c.toNat < 128) :
    String.utf8EncodeChar c = [UInt8.ofNat c.toNat] := by
  have hle : c.val.toNat ≤ 127 := Nat.le_of_lt_succ h
  simp only [String.utf8EncodeChar, if_pos hle]
  rfl

/-- The bytes of a character are large unless it is a byte itself. -/
theorem le_of_mem_utf8EncodeChar (h : 128 ≤ c.toNat) (hb : b ∈ String.utf8EncodeChar c) :
    128 ≤ b.toNat := by
  have hval : c.val.toNat = c.toNat := rfl
  have hlarge {n : Nat} (h : 128 ≤ n) (h' : n < 256) : 128 ≤ (UInt8.ofNat n).toNat := by
    rw [UInt8.toNat_ofNat_of_lt' h']
    exact h
  simp only [String.utf8EncodeChar, hval] at hb
  split_ifs at hb with hone
  · omega
  all_goals
    simp only [List.mem_cons, List.not_mem_nil, or_false] at hb
    rcases hb with rfl | rfl | rfl | rfl
    all_goals exact hlarge (by omega) (by omega)

end Characters

section Encoding

variable {c d : Char} {text : List Char} {b : UInt8}

theorem toNat_ofNat_byte (b : UInt8) : (Char.ofNat b.toNat).toNat = b.toNat := by
  have hb : b.toNat < 256 := b.toNat_lt
  have hvalid : b.toNat.isValidChar := Or.inl (by omega)
  rw [Char.ofNat, dif_pos hvalid]
  rfl

/-- The bytes of a character are written as the character is. -/
theorem flatMap_encodeByte (c : Char) :
    (String.utf8EncodeChar c).flatMap encodeByte = encodeChar c := by
  by_cases hkept : isKept c = true
  · have hlt : c.toNat < 128 := toNat_lt_of_isKept hkept
    have hbyte : (UInt8.ofNat c.toNat).toNat = c.toNat :=
      UInt8.toNat_ofNat_of_lt' (Nat.lt_trans hlt (by decide))
    rw [encodeChar, if_pos hkept, utf8EncodeChar_of_lt hlt, List.flatMap_singleton, encodeByte,
      hbyte, Char.ofNat_toNat, if_pos hkept]
  · have htriplet : ∀ b ∈ String.utf8EncodeChar c, encodeByte b = triplet b := by
      intro b hb
      rw [encodeByte]
      apply if_neg
      intro hbyte
      have hsmall : b.toNat < 128 := by
        have hlt := toNat_lt_of_isKept hbyte
        rwa [toNat_ofNat_byte] at hlt
      -- a small byte is the character itself, which is not kept
      by_cases hlarge : 128 ≤ c.toNat
      · have hle := le_of_mem_utf8EncodeChar hlarge hb
        omega
      · have hlt : c.toNat < 128 := by omega
        rw [utf8EncodeChar_of_lt hlt, List.mem_singleton] at hb
        rw [hb, UInt8.toNat_ofNat_of_lt' (Nat.lt_trans hlt (by decide)), Char.ofNat_toNat] at hbyte
        exact hkept hbyte
    rw [encodeChar, if_neg hkept]
    exact List.flatMap_congr htriplet

/-- A text is written character by character. -/
theorem encode_eq_flatMap (text : List Char) : encode text = text.flatMap encodeChar := by
  rw [encode, Utf8.encode, List.flatMap_assoc]
  exact List.flatMap_congr fun c _ => flatMap_encodeByte c

@[simp] theorem encode_nil : encode [] = [] := rfl

theorem encode_cons (c : Char) (text : List Char) :
    encode (c :: text) = encodeChar c ++ encode text := by
  rw [encode_eq_flatMap, encode_eq_flatMap, List.flatMap_cons]

theorem encode_append (text more : List Char) :
    encode (text ++ more) = encode text ++ encode more := by
  rw [encode_eq_flatMap, encode_eq_flatMap, encode_eq_flatMap, List.flatMap_append]

/-- What is written are kept characters and percent signs. -/
theorem isKept_or_of_mem_encodeChar (h : d ∈ encodeChar c) : isKept d = true ∨ d = '%' := by
  rw [encodeChar] at h
  split at h
  · next hkept =>
    rw [List.mem_singleton.mp h]
    exact Or.inl hkept
  · obtain ⟨b, -, hd⟩ := List.mem_flatMap.mp h
    have hb : b.toNat < 256 := b.toNat_lt
    simp only [triplet, List.mem_cons, List.not_mem_nil, or_false] at hd
    rcases hd with rfl | rfl | rfl
    · exact Or.inr rfl
    · exact Or.inl (isKept_hexDigit (by omega))
    · exact Or.inl (isKept_hexDigit (by omega))

theorem isKept_or_of_mem_encode (h : d ∈ encode text) : isKept d = true ∨ d = '%' := by
  rw [encode_eq_flatMap] at h
  obtain ⟨c, -, hd⟩ := List.mem_flatMap.mp h
  exact isKept_or_of_mem_encodeChar hd

theorem not_mem_encode (hkept : isKept d = false) (hd : d ≠ '%') : d ∉ encode text := by
  intro h
  rcases isKept_or_of_mem_encode h with h | h
  · rw [h] at hkept
    cases hkept
  · exact hd h

theorem encodeChar_ne_nil (c : Char) : encodeChar c ≠ [] := by
  rw [encodeChar]
  split
  · exact List.cons_ne_nil c []
  · cases hb : String.utf8EncodeChar c with
    | nil =>
      have hpos := String.length_utf8EncodeChar c
      rw [hb] at hpos
      exact absurd hpos.symm (Nat.ne_of_gt c.utf8Size_pos)
    | cons b bytes => exact nofun

theorem encode_eq_nil_iff : encode text = [] ↔ text = [] := by
  cases text with
  | nil => exact Iff.rfl
  | cons c text =>
    rw [encode_cons, List.append_eq_nil_iff]
    constructor
    · exact fun h => absurd h.1 (encodeChar_ne_nil c)
    · exact fun h => nomatch h

end Encoding

section Decoding

theorem bytes_cons {c : Char} (h : c ≠ '%') (rest : List Char) :
    bytes (c :: rest) = String.utf8EncodeChar c ++ bytes rest := by
  rw [bytes]
  intro a b more hc
  exact absurd hc h

theorem bytes_encodeByte (b : UInt8) (rest : List Char) :
    bytes (encodeByte b ++ rest) = b :: bytes rest := by
  rw [encodeByte]
  split
  · next hkept =>
    have hlt : b.toNat < 128 := by
      have hlt := toNat_lt_of_isKept hkept
      rwa [toNat_ofNat_byte] at hlt
    have hone : String.utf8EncodeChar (Char.ofNat b.toNat) = [b] := by
      rw [utf8EncodeChar_of_lt (by rwa [toNat_ofNat_byte]), toNat_ofNat_byte, UInt8.ofNat_toNat]
    rw [List.singleton_append, bytes_cons (ne_percent_of_isKept hkept), hone, List.singleton_append]
  · have hb : b.toNat < 256 := b.toNat_lt
    have htriplet : triplet? (hexDigit (b.toNat / 16)) (hexDigit (b.toNat % 16)) = some b := by
      have hdigits : 16 * (b.toNat / 16) + b.toNat % 16 = b.toNat := Nat.div_add_mod b.toNat 16
      rw [triplet?, hexValue?_hexDigit (by omega), hexValue?_hexDigit (by omega)]
      simp only [bind, Option.bind_some, pure, hdigits, UInt8.ofNat_toNat]
    rw [triplet, List.cons_append, List.cons_append, List.singleton_append, bytes, htriplet]

theorem bytes_encode (text : List Char) : bytes (encode text) = Utf8.encode text := by
  rw [encode]
  induction Utf8.encode text with
  | nil => rfl
  | cons b rest ih => rw [List.flatMap_cons, bytes_encodeByte, ih]

theorem decode_encode (text : List Char) : decode (encode text) = text := by
  rw [decode, bytes_encode, Utf8.decode_encode, Option.getD_some]

end Decoding

end RoutePattern.Text.Percent
