/-!
Properties of characters given as ascending ranges of code points.
-/
namespace CardSearch.Text

/-- Whether a code point lies in one of the ranges, which are listed in ascending order, ends
included. -/
def inRanges : List (Nat × Nat) → Nat → Bool
  | [], _ => false
  | (first, last) :: ranges, code =>
    if code < first then false else code ≤ last || inRanges ranges code

end CardSearch.Text
