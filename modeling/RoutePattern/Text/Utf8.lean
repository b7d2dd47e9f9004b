/-!
Texts as bytes. A character has one encoding, and `decode` accepts no other.
-/
namespace RoutePattern.Text.Utf8

/-- The bytes of a text. -/
def encode (cs : List Char) : List UInt8 := cs.flatMap String.utf8EncodeChar

/-- The value of a byte that continues a character. -/
def continuation? (b : UInt8) : Option Nat :=
  if 0x80 ≤ b ∧ b < 0xC0 then some (b.toNat - 0x80) else none

/-- The character with code point `n`, if it needs as many bytes as were used for it. -/
def scalar? (least n : Nat) : Option Char :=
  if least ≤ n ∧ n.isValidChar then some (Char.ofNat n) else none

/-- The text that the bytes encode. -/
def decode : List UInt8 → Option (List Char)
  | [] => some []
  | a :: rest =>
    if a < 0x80 then (decode rest).map (Char.ofNat a.toNat :: ·)
    else
      match rest with
      | [] => none
      | b :: rest => do
        let x ← continuation? b
        if 0xC0 ≤ a ∧ a < 0xE0 then
          let c ← scalar? 0x80 ((a.toNat - 0xC0) * 64 + x)
          (decode rest).map (c :: ·)
        else
          match rest with
          | [] => none
          | d :: rest => do
            let y ← continuation? d
            if 0xE0 ≤ a ∧ a < 0xF0 then
              let c ← scalar? 0x800 (((a.toNat - 0xE0) * 64 + x) * 64 + y)
              (decode rest).map (c :: ·)
            else
              match rest with
              | [] => none
              | e :: rest => do
                let z ← continuation? e
                if 0xF0 ≤ a ∧ a < 0xF8 then
                  let c ← scalar? 0x10000 ((((a.toNat - 0xF0) * 64 + x) * 64 + y) * 64 + z)
                  (decode rest).map (c :: ·)
                else none

end RoutePattern.Text.Utf8
