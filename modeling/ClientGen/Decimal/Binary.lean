/-!
# Binary fractions

A finite float is a whole number times a power of two. `ofFloat?` takes it apart exactly.
-/

set_option autoImplicit false
set_option relaxedAutoImplicit false

namespace ClientGen.Decimal

/-- The number `significand * 2 ^ exponent`, with its sign. `isEdge` marks a power of two, whose
neighbour below is nearer than the one above. -/
structure Binary where
  negative : Bool
  significand : Nat
  exponent : Int
  isEdge : Bool
  deriving DecidableEq, Repr

namespace Binary

/-- The parts of a finite float. -/
def ofFloat? (x : Float) : Option Binary :=
  let bits : Nat := x.toBits.toNat
  let negative : Bool := bits >>> 63 = 1
  let biased : Nat := (bits >>> 52) % 2048
  let hidden : Nat := 1 <<< 52
  let fraction : Nat := bits % hidden
  if biased = 2047 then none
  else if biased = 0 then some ⟨negative, fraction, -1074, false⟩
  else some ⟨negative, fraction + hidden, (biased : Int) - 1075, fraction = 0 && biased ≠ 1⟩

/-- Whether the number is the given whole number. -/
def isInt (binary : Binary) (n : Int) : Bool :=
  let signed : Int := if binary.negative then -binary.significand else binary.significand
  signed * Nat.pow 2 binary.exponent.toNat = n * Nat.pow 2 (-binary.exponent).toNat

end Binary

end ClientGen.Decimal
