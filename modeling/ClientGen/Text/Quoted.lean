import ClientGen.Text.Hexadecimal
import ClientGen.Text.Unprintable

/-!
# Quoted texts in messages

A text shown inside a message stands in single quotes, or in double quotes if it holds a single
quote and no double quote. The backslash, the enclosing quote, the tab and the line ends are
escaped, and so is every unprintable character, by its code in hexadecimal.
-/

set_option autoImplicit false
set_option relaxedAutoImplicit false

namespace ClientGen.Text

/-- One character of a quoted text, for the enclosing quote. -/
def quotedChar (quote c : Char) : List Char :=
  if c = quote || c = '\\' then ['\\', c]
  else if c = '\t' then ['\\', 't']
  else if c = '\n' then ['\\', 'n']
  else if c = '\r' then ['\\', 'r']
  else if isUnprintable c then '\\' :: hexCode c
  else [c]

/-- A text as a message shows it. -/
def quoted (s : String) : String :=
  let cs := s.toList
  let quote := if cs.contains '\x27' && !cs.contains '\x22' then '\x22' else '\x27'
  String.ofList (quote :: cs.flatMap (quotedChar quote) ++ [quote])

end ClientGen.Text
