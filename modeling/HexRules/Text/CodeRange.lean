/-!
# Ranges of code points

A class of characters is given as a list of ranges, each by its first and its last code point, in
rising order.
-/

namespace HexRules.Text

/-- Whether the ranges, in rising order, hold the code point. -/
def inRanges (n : Nat) : List (Nat × Nat) → Bool
  | [] => false
  | (first, last) :: rest => if n < first then false else n ≤ last || inRanges n rest

end HexRules.Text
