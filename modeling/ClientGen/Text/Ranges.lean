/-!
# Ranges of characters

A set of characters as a list of ranges `(first, last)` of code points.
-/

set_option autoImplicit false
set_option relaxedAutoImplicit false

namespace ClientGen.Text

/-- Whether a character lies in one of some ranges. -/
def inRanges (ranges : List (Nat × Nat)) (c : Char) : Bool :=
  ranges.any fun (first, last) ↦ first ≤ c.toNat && c.toNat ≤ last

end ClientGen.Text
