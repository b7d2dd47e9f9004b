import RoutePattern.Text.CharSet
import RoutePattern.Unicode.CasePairs

/-!
Sets of characters closed under case.
-/
namespace RoutePattern

namespace Unicode

/-- The images of the code points from `lo` to `hi` under some of the pairs. -/
def CasePairs.images (p : CasePairs) (r : Nat × Nat) : List (Nat × Nat) :=
  let lo := max r.1 p.first
  let hi := min r.2 p.last
  if hi < lo then []
  else if p.step = 1 then [(p.image + (lo - p.first), p.image + (hi - p.first))]
  else
    let start := (lo - p.first + (p.step - 1)) / p.step
    let stop := (hi - p.first) / p.step
    (List.range' start (stop + 1 - start)).map fun i =>
      (p.image + p.step * i, p.image + p.step * i)

end Unicode

namespace CharSet

/-- The set with every character that is the same letter as one of its characters. -/
def closeCase (s : CharSet) : CharSet :=
  (ofRanges (Unicode.casePairs.flatMap fun p => s.ranges.flatMap p.images)).union s

end CharSet

end RoutePattern
