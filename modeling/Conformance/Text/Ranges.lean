/-!
# Sets of code points

A set is an ascending array of closed ranges, searched by halving.
-/

namespace Conformance.Text

/-- Searches `ranges[low ..< high]`. -/
def inRangesBetween (ranges : Array (Nat × Nat)) (code : Nat) : Nat → Nat → Nat → Bool
  | 0, _, _ => false
  | fuel + 1, low, high =>
    if low < high then
      let middle := (low + high) / 2
      match ranges[middle]? with
      | none => false
      | some (first, last) =>
        if code < first then inRangesBetween ranges code fuel low middle
        else if last < code then inRangesBetween ranges code fuel (middle + 1) high
        else true
    else false

def inRanges (ranges : Array (Nat × Nat)) (code : Nat) : Bool :=
  inRangesBetween ranges code (ranges.size + 1) 0 ranges.size

end Conformance.Text
