/-!
# Hexadecimal numbers

The digits of a number to the base sixteen, read in either case and written in lower case, and the
escapes of characters by their codes, which need no more digits than the code.
-/

set_option autoImplicit false
set_option relaxedAutoImplicit false

namespace ClientGen.Text

/-- The value of a hexadecimal digit. -/
def hexDigit? (c : Char) : Option Nat :=
  if c.isDigit then some (c.toNat - 48)
  else if 'a' ≤ c && c ≤ 'f' then some (c.toNat - 87)
  else if 'A' ≤ c && c ≤ 'F' then some (c.toNat - 55)
  else none

/-- The value of hexadecimal digits. -/
def hexNumber? (digits : List Char) : Option Nat :=
  digits.foldlM (fun n c ↦ (hexDigit? c).map (n * 16 + ·)) 0

/-- The character whose code is written in hexadecimal. -/
def hexChar? (digits : List Char) : Option Char := do
  let n ← hexNumber? digits
  if h : n.isValidChar then some (Char.ofNatAux n h) else none

/-- The hexadecimal digits of a number, padded with zeros to the given width. -/
def hexPadded (width n : Nat) : List Char :=
  let digits := Nat.toDigits 16 n
  List.replicate (width - digits.length) '0' ++ digits

/-- The code of a character after the letter that tells its width: two digits after an `x`, four
after a `u`, or eight after a `U`. -/
def hexCode (c : Char) : List Char :=
  if c.toNat < 0x100 then 'x' :: hexPadded 2 c.toNat
  else if c.toNat < 0x10000 then 'u' :: hexPadded 4 c.toNat
  else 'U' :: hexPadded 8 c.toNat

end ClientGen.Text
