import ClientGen.Text.Blank
import ClientGen.Text.Digit

/-!
# Whole numbers in texts

`whole` reads a whole number in a base up to thirty-six. Blanks may stand around it, a sign in
front, and then the mark of its base: `0b`, `0o` or `0x`. The digits are those of any script, and
behind nine the letters. A number in base ten has a limit on its length.
-/

set_option autoImplicit false
set_option relaxedAutoImplicit false

namespace ClientGen.Text.Numeral

/-- Whether a character may stand around a number: the blanks without the information separators. -/
def isAround (c : Char) : Bool :=
  isBlank c && !(0x1c ≤ c.toNat && c.toNat ≤ 0x1f)

/-- A text without what may stand around a number. -/
def trimmed (cs : List Char) : List Char :=
  ((cs.dropWhile isAround).reverse.dropWhile isAround).reverse

/-- Whether a text has a minus sign in front, and the text behind its sign. -/
def splitSign : List Char → Bool × List Char
  | '-' :: rest => (true, rest)
  | '+' :: rest => (false, rest)
  | cs => (false, cs)

/-- The value of a digit or a letter. -/
def digit? (c : Char) : Option Nat :=
  if 'a' ≤ c && c ≤ 'z' then some (c.toNat - 87)
  else if 'A' ≤ c && c ≤ 'Z' then some (c.toNat - 55)
  else decimalDigit? c

/-- The value of a digit below a base. -/
def digitBelow? (base : Nat) (c : Char) : Option Nat :=
  (digit? c).filter (· < base)

/-- The letters that mark a base behind a zero. -/
def marks (base : Nat) : List Char :=
  if base = 2 then ['b', 'B'] else if base = 8 then ['o', 'O'] else if base = 16 then ['x', 'X']
  else []

/-- A text without the mark of a base in front. -/
def withoutMark (base : Nat) : List Char → List Char
  | zero :: mark :: rest =>
    if decimalDigit? zero = some 0 && (marks base).contains mark then rest else zero :: mark :: rest
  | cs => cs

/-- The number that digits write. -/
def ofDigits (base : Nat) (digits : List Nat) : Nat :=
  digits.foldl (fun n digit ↦ n * base + digit) 0

/-- The digits in front of a text. -/
def digitsOf (base : Nat) (cs : List Char) : List Nat :=
  (cs.takeWhile fun c ↦ (digitBelow? base c).isSome).filterMap (digitBelow? base)

/-- Why a text is no whole number. -/
inductive Fault
  | malformed
  | tooLong (digits : Nat)
  deriving DecidableEq, Repr

/-- The most digits of a number in base ten. -/
def mostDigits : Nat := 4300

/-- The whole number that a text writes in a base. -/
def whole (base : Nat) (text : List Char) : Except Fault Int :=
  let (negative, unsigned) := splitSign (trimmed text)
  let written := withoutMark base unsigned
  let digits := digitsOf base written
  if base = 10 && mostDigits < digits.length then .error (.tooLong digits.length)
  else if digits.isEmpty || digits.length ≠ written.length then .error .malformed
  else .ok (if negative then -(ofDigits base digits : Int) else ofDigits base digits)

end ClientGen.Text.Numeral
