/-!
Binary floating-point numbers of 64 bits, written with the fewest decimal digits that read back as
the same number.
-/
namespace RoutePattern

/-- A floating-point number by its bits: a sign, eleven bits of exponent, 52 bits of fraction. -/
structure Binary64 where
  bits : UInt64
deriving DecidableEq

namespace Binary64

def isNegative (x : Binary64) : Bool := 1 <<< 63 ≤ x.bits.toNat

def exponentField (x : Binary64) : Nat := x.bits.toNat / (1 <<< 52) % (1 <<< 11)

def fraction (x : Binary64) : Nat := x.bits.toNat % (1 <<< 52)

def isFinite (x : Binary64) : Bool := x.exponentField ≠ 2047

def isZero (x : Binary64) : Bool := x.exponentField = 0 ∧ x.fraction = 0

/-- The significand: a finite number is `significand * 2 ^ (scale - 1074)`. -/
def significand (x : Binary64) : Nat :=
  if x.exponentField = 0 then x.fraction else (1 <<< 52) + x.fraction

def scale (x : Binary64) : Nat := x.exponentField - 1

/-- The numerator of the magnitude over `2 ^ 1076`. -/
def quarters (x : Binary64) : Nat := 4 * x.significand * (1 <<< x.scale)

/-- How far below a number, in units of `quarters`, decimals still read back as it. Below a power of
two the neighbour is half as far as above it. -/
def roomBelow (x : Binary64) : Nat :=
  if x.fraction = 0 ∧ 1 < x.exponentField then 1 <<< x.scale else 2 <<< x.scale

def roomAbove (x : Binary64) : Nat := 2 <<< x.scale

/-- Whether `num / den` is read back as the magnitude of the number. The ends of the interval round to
the number with the even significand. -/
def readsBack (x : Binary64) (num den : Nat) : Bool :=
  let lo := (x.quarters - x.roomBelow) * den
  let hi := (x.quarters + x.roomAbove) * den
  let y := num <<< 1076
  if x.significand % 2 = 0 then lo ≤ y && y ≤ hi else lo < y && y < hi

/-- A decimal `digits * 10 ^ (places - shift)`. -/
structure Decimal where
  digits : Nat
  places : Nat

/-- All decimals are multiples of `10 ^ (places - shift)`. -/
def Decimal.shift : Nat := 343

/-- The multiple of `10 ^ (places - shift)` next to the number that reads back as it, if there is one.
The nearer of two is taken, and the upper one of two that are equally near. -/
def atPlaces? (x : Binary64) (places : Nat) : Option Decimal :=
  let num := Nat.pow 10 places
  let den := Nat.pow 10 Decimal.shift
  let below := x.quarters * den / (num <<< 1076)
  let above := below + 1
  let okBelow := x.readsBack (below * num) den
  let okAbove := x.readsBack (above * num) den
  let twice := 2 * (x.quarters * den)
  if okBelow && (!okAbove || twice < ((below + above) * num) <<< 1076) then some ⟨below, places⟩
  else if okAbove then some ⟨above, places⟩
  else none

/-- The coarsest grid from `places` down on which a decimal reads back. -/
def shortestFrom (x : Binary64) : Nat → Decimal
  | 0 => (x.atPlaces? 0).getD ⟨0, 0⟩
  | places + 1 => (x.atPlaces? (places + 1)).getD (x.shortestFrom places)

/-- The shortest decimal that reads back as the magnitude of the number. -/
def shortest (x : Binary64) : Decimal := x.shortestFrom (309 + Decimal.shift)

/-- A decimal in positional notation, without an exponent. -/
def Decimal.text (d : Decimal) : List Char :=
  let digits := Nat.toDigits 10 d.digits
  if Decimal.shift ≤ d.places then digits ++ List.replicate (d.places - Decimal.shift) '0'
  else
    let after := Decimal.shift - d.places
    let padded := List.replicate (after + 1 - digits.length) '0' ++ digits
    padded.take (padded.length - after) ++ '.' :: padded.drop (padded.length - after)

/-- The text of a finite number. -/
def text (x : Binary64) : List Char :=
  let magnitude := if x.isZero then ['0'] else x.shortest.text
  if x.isNegative then '-' :: magnitude else magnitude

end Binary64

end RoutePattern
