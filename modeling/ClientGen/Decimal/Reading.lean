import ClientGen.Text.Numeral

/-!
# Fractions in texts

`Decimal.float?` reads the float that a text writes: digits of any script with a point among them
and an exponent behind them, or a word for infinity or for no number, in lower case. Blanks may
stand around it and a sign in front.
-/

set_option autoImplicit false
set_option relaxedAutoImplicit false

namespace ClientGen.Decimal

open ClientGen.Text

/-- Infinity. -/
def infinity : Float := 1.0 / 0.0

/-- A float that is no number. -/
def notNumber : Float := 0.0 / 0.0

/-- The float nearest to a number written in decimal digits, the last of them at a decimal place. -/
def ofDecimal (digits : List Nat) (place : Int) : Float :=
  let leading := digits.dropWhile (· = 0)
  let number := Numeral.ofDigits 10 leading
  let top := place + leading.length
  if leading.isEmpty || top < -330 then 0.0
  else if 310 < top then infinity
  else Float.ofScientific number (place < 0) place.natAbs

/-- The exponent behind the digits of a number; there may be none. -/
def exponent? : List Char → Option Int
  | [] => some 0
  | 'e' :: written =>
    let (negative, unsigned) := Numeral.splitSign written
    let digits := Numeral.digitsOf 10 unsigned
    if digits.isEmpty || digits.length ≠ unsigned.length then none
    else some (if negative then -(Numeral.ofDigits 10 digits : Int) else Numeral.ofDigits 10 digits)
  | _ => none

/-- The float that digits with a point and an exponent write. -/
def unsigned? (cs : List Char) : Option Float := do
  let whole := Numeral.digitsOf 10 cs
  let (fraction, rest) := match cs.drop whole.length with
    | '.' :: rest =>
      let fraction := Numeral.digitsOf 10 rest
      (fraction, rest.drop fraction.length)
    | rest => ([], rest)
  if whole.isEmpty && fraction.isEmpty then none
  else
    let exponent ← exponent? rest
    return ofDecimal (whole ++ fraction) (exponent - fraction.length)

/-- The float that a text writes. -/
def float? (text : List Char) : Option Float := do
  let (negative, written) := Numeral.splitSign (Numeral.trimmed text)
  let magnitude ←
    if written = "inf".toList || written = "infinity".toList then some infinity
    else if written = "nan".toList then some notNumber
    else unsigned? written
  return if negative then -magnitude else magnitude

end ClientGen.Decimal
