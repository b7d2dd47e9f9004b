import RoutePattern.Text.Hexadecimal
import RoutePattern.Text.Utf8

/-!
Percent coding: in a written text each byte of a character that is not kept is a percent sign and
two hexadecimal digits. Writing uses capitals; reading takes both cases, and takes a percent sign
without two digits behind it for itself.
-/
namespace RoutePattern.Text.Percent

/-- The characters that are written as they are. -/
def isKept (c : Char) : Bool :=
  c.isAlphanum || ['-', '_', '.', '~', '!', '\'', '(', ')', '*'].contains c

/-- A byte as a percent triplet. -/
def triplet (b : UInt8) : List Char :=
  ['%', hexDigit (b.toNat / 16), hexDigit (b.toNat % 16)]

/-- A byte as it is written: as the character it encodes if that is kept, else as a triplet. -/
def encodeByte (b : UInt8) : List Char :=
  if isKept (Char.ofNat b.toNat) then [Char.ofNat b.toNat] else triplet b

/-- The written form of a text, byte by byte. -/
def encode (cs : List Char) : List Char := (Utf8.encode cs).flatMap encodeByte

/-- The written form of a character. -/
def encodeChar (c : Char) : List Char :=
  if isKept c then [c] else (String.utf8EncodeChar c).flatMap triplet

/-- The byte of a triplet, from its two digits. -/
def triplet? (a b : Char) : Option UInt8 := do
  return UInt8.ofNat (16 * (← hexValue? a) + (← hexValue? b))

/-- The bytes that a written text stands for. -/
def bytes : List Char → List UInt8
  | '%' :: a :: b :: rest =>
    match triplet? a b with
    | some byte => byte :: bytes rest
    | none => String.utf8EncodeChar '%' ++ bytes (a :: b :: rest)
  | c :: rest => String.utf8EncodeChar c ++ bytes rest
  | [] => []

/-- The text that a written text stands for; the written text itself if its bytes are not the
encoding of a text. -/
def decode (cs : List Char) : List Char :=
  (Utf8.decode (bytes cs)).getD cs

/-- Reads a part of a query, where a plus sign is a blank. -/
def decodeQuery (cs : List Char) : List Char :=
  decode (cs.map fun c => if c = '+' then ' ' else c)

end RoutePattern.Text.Percent
