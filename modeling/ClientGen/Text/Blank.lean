/-!
# Blank characters

`isBlank` is the set of Unicode white space together with the four information separators, and
`trim` removes blanks at both ends of a text. The zero-width space and the byte order mark are not
blank.
-/

set_option autoImplicit false
set_option relaxedAutoImplicit false

namespace ClientGen.Text

/-- The blanks: tab to carriage return, the information separators, the space, the next-line
control, and the space characters of the other scripts. -/
def isBlank (c : Char) : Bool :=
  let n := c.toNat
  (0x09 ≤ n && n ≤ 0x0d) || (0x1c ≤ n && n ≤ 0x20) || n == 0x85 || n == 0xa0 || n == 0x1680 ||
    (0x2000 ≤ n && n ≤ 0x200a) || n == 0x2028 || n == 0x2029 || n == 0x202f || n == 0x205f ||
    n == 0x3000

/-- Drops the blanks at the start. -/
def trimLeft (cs : List Char) : List Char :=
  cs.dropWhile isBlank

/-- Drops the blanks at the end. -/
def trimRight (cs : List Char) : List Char :=
  (cs.reverse.dropWhile isBlank).reverse

/-- Drops the blanks at both ends. -/
def trim (cs : List Char) : List Char :=
  trimRight (trimLeft cs)

end ClientGen.Text
