/-!
# Ranges of code points

Character classes are kept as lists of closed ranges.
-/

namespace FareSearch.Text

/-- Whether a code point lies in one of the closed ranges. -/
def inRanges (ranges : List (Nat × Nat)) (point : Nat) : Bool :=
  ranges.any fun (first, last) ↦ first ≤ point && point ≤ last

end FareSearch.Text
