import ClientGen.Decimal.Binary

/-!
# Shortest decimals

The text of a float has the fewest digits that read back as the same float, and of those the nearest
to it. It is positional from `0.0001` up to below `10 ^ 16`, and has an exponent otherwise.
-/

set_option autoImplicit false
set_option relaxedAutoImplicit false

namespace ClientGen.Decimal

/-- The comparison of `a * 2 ^ p` with `b * 10 ^ s`, both numbers whole after scaling. -/
def scaled (a : Nat) (p : Int) (b : Nat) (s : Int) : Nat × Nat :=
  (a * Nat.pow 2 p.toNat * Nat.pow 10 (-s).toNat, b * Nat.pow 10 s.toNat * Nat.pow 2 (-p).toNat)

/-- Whether `candidate * 10 ^ place` reads back as the given number: it lies between the midpoints
to the neighbours, which belong to the numbers with an even significand. -/
def readsBack (binary : Binary) (place : Int) (candidate : Nat) : Bool :=
  let low := 4 * binary.significand - if binary.isEdge then 1 else 2
  let high := 4 * binary.significand + 2
  let (l, c) := scaled low (binary.exponent - 2) candidate place
  let (h, d) := scaled high (binary.exponent - 2) candidate place
  if binary.significand % 2 = 0 then l ≤ c && d ≤ h else l < c && d < h

/-- The nearest of the two decimals around a number at a decimal place that reads back. A tie goes
to the even one. -/
def nearest? (binary : Binary) (place : Int) : Option Nat :=
  let (v, unit) := scaled binary.significand binary.exponent 1 place
  let below := v / unit
  let rest := v % unit
  let order :=
    if 2 * rest < unit || (2 * rest = unit && below % 2 = 0) then [below, below + 1]
    else [below + 1, below]
  order.find? (readsBack binary place)

/-- The number of decimal digits of a number. -/
def digitCount (n : Nat) : Nat :=
  (Nat.toDigits 10 n).length

/-- The decimal place of the leading digit of a positive number, by which `10 ^ place` is the
largest power of ten not above it. -/
def leadingPlace (binary : Binary) : Int :=
  let (v, unit) := scaled binary.significand binary.exponent 1 0
  if unit ≤ v then digitCount (v / unit) - 1
  else
    let guess : Int := -(digitCount (unit / v) : Int)
    let (a, b) := scaled binary.significand binary.exponent 1 (guess + 1)
    if b ≤ a then guess + 1 else guess

/-- The fewest digits that read back, with the decimal place of the last one. -/
def shortestFrom (binary : Binary) : Nat → Int → Nat × Int
  | 0, place => ((nearest? binary place).getD 0, place)
  | fuel + 1, place =>
    match nearest? binary place with
    | some digits => (digits, place)
    | none => shortestFrom binary fuel (place - 1)

/-- Digits at decimal places, the first of them at `leading`, as text. -/
def layout (digits : List Char) (leading : Int) : List Char :=
  if leading < -4 || 16 ≤ leading then
    let exponent := (Nat.toDigits 10 leading.natAbs)
    let padded := if exponent.length < 2 then '0' :: exponent else exponent
    (match digits with
      | [] => []
      | [d] => [d]
      | d :: rest => d :: '.' :: rest) ++ 'e' :: (if leading < 0 then '-' else '+') :: padded
  else if leading < 0 then
    '0' :: '.' :: List.replicate (-leading - 1).toNat '0' ++ digits
  else
    let count := leading.toNat + 1
    let whole := digits.take count ++ List.replicate (count - digits.length) '0'
    let fraction := digits.drop count
    whole ++ '.' :: if fraction.isEmpty then ['0'] else fraction

/-- The text of a finite number. -/
def binaryText (binary : Binary) : List Char :=
  let sign := if binary.negative then ['-'] else []
  if binary.significand = 0 then sign ++ "0.0".toList
  else
    let leading := leadingPlace binary
    let (number, place) := shortestFrom binary 17 leading
    let digits := Nat.toDigits 10 number
    let top := place + (digits.length : Int) - 1
    let kept := (digits.reverse.dropWhile (· = '0')).reverse
    sign ++ layout kept top

/-- The text of a float. -/
def floatText (x : Float) : String :=
  match Binary.ofFloat? x with
  | some binary => String.ofList (binaryText binary)
  | none => if x.isNaN then "nan" else if x < 0 then "-inf" else "inf"

end ClientGen.Decimal
