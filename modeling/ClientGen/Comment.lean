import ClientGen.Text.Blank
import ClientGen.Text.Lines
import ClientGen.Text.Splice

/-!
# Comments

A comment is kept as clean text: no blanks at the ends of the whole or of any line, and a line feed
between lines.
-/

set_option autoImplicit false
set_option relaxedAutoImplicit false

namespace ClientGen.Comment

open ClientGen.Text

/-- Trims a comment and each of its lines. -/
def cleanChars (cs : List Char) : List Char :=
  joinWith ['\n'] ((lineChars (trim cs)).map trim)

/-- Trims a comment and each of its lines. -/
def clean (s : String) : String :=
  String.ofList (cleanChars s.toList)

/-- A comment on one line: its lines with a space between neighbours. -/
def oneLine (s : String) : String :=
  String.ofList (joinWith [' '] (lineChars s.toList))

end ClientGen.Comment
