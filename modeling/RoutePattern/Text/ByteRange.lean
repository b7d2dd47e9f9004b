/-!
The encodings of a range of characters, as sequences of byte ranges: a character belongs to the
range if its bytes lie in the ranges of one of the sequences.
-/
namespace RoutePattern.Text

/-- The bytes between two numbers, both included. -/
abbrev ByteRange := Nat × Nat

/-- The numbers from `lo` to `hi`, with `n + 1` digits to base 64, as sequences of ranges for the
digits. The sequences are in order, and each takes in as many numbers as it can: all those that
share some first digits, or a range of such stretches. -/
def digitRanges : Nat → Nat → Nat → List (List ByteRange)
  | 0, lo, hi => [[(lo, hi)]]
  | n + 1, lo, hi =>
    let unit := 64 ^ (n + 1)
    let first := lo / unit
    let last := hi / unit
    if first = last then (digitRanges n (lo % unit) (hi % unit)).map ((first, first) :: ·)
    else
      let start := if lo % unit = 0 then first else first + 1
      let stop := if hi % unit = unit - 1 then last + 1 else last
      let below := if start = first then [] else
        (digitRanges n (lo % unit) (unit - 1)).map ((first, first) :: ·)
      let within := if start < stop then
        (digitRanges n 0 (unit - 1)).map ((start, stop - 1) :: ·) else []
      let above := if stop = last then (digitRanges n 0 (hi % unit)).map ((last, last) :: ·) else []
      below ++ within ++ above

/-- The stretches of code points whose encodings have one form: the first one, the last one, and
what is added to each digit. Surrogates have no encoding. -/
def encodingForms : List (Nat × Nat × List Nat) :=
  [(0, 0x7F, [0]), (0x80, 0x7FF, [0xC0, 0x80]), (0x800, 0xD7FF, [0xE0, 0x80, 0x80]),
    (0xE000, 0xFFFF, [0xE0, 0x80, 0x80]), (0x10000, 0x10FFFF, [0xF0, 0x80, 0x80, 0x80])]

/-- The encodings of the code points from `lo` to `hi`. -/
def byteRanges (lo hi : Nat) : List (List ByteRange) :=
  encodingForms.flatMap fun (first, last, marks) =>
    if max lo first ≤ min hi last then
      (digitRanges (marks.length - 1) (max lo first) (min hi last)).map fun digits =>
        digits.zipWith (fun (a, b) mark => (a + mark, b + mark)) marks
    else []

end RoutePattern.Text
