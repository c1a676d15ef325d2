/-!
# Lines of a text

A line ends at a line feed, a carriage return with or without a line feed after it, the vertical
tab, the form feed, the file, group and record separators, the next-line control, and the Unicode
line and paragraph separators. A break at the very end of a text opens no further line, so the
empty text has no line at all.
-/

set_option autoImplicit false
set_option relaxedAutoImplicit false

namespace ClientGen.Text

/-- The characters that end a line. -/
def isLineBreak (c : Char) : Bool :=
  let n := c.toNat
  (0x0a ≤ n && n ≤ 0x0d) || (0x1c ≤ n && n ≤ 0x1e) || n == 0x85 || n == 0x2028 || n == 0x2029

/-- Puts a character in front of the first line, opening a line if there is none. -/
def consLine (c : Char) : List (List Char) → List (List Char)
  | [] => [[c]]
  | line :: rest => (c :: line) :: rest

/-- The lines of a text without their breaks. -/
def lineChars : List Char → List (List Char)
  | [] => []
  | '\r' :: '\n' :: rest => [] :: lineChars rest
  | c :: rest => if isLineBreak c then [] :: lineChars rest else consLine c (lineChars rest)

/-- The lines of a text without their breaks. -/
def lines (s : String) : List String :=
  (lineChars s.toList).map String.ofList

/-- Reads every carriage return, alone or before a line feed, as one line feed. -/
def unixLineEnds : List Char → List Char
  | [] => []
  | '\r' :: '\n' :: rest => '\n' :: unixLineEnds rest
  | c :: rest => (if c = '\r' then '\n' else c) :: unixLineEnds rest

end ClientGen.Text
