import ClientGen.Text.NameTable
import ClientGen.Text.Ranges

/-!
# Characters of names

A name starts with a letter of some script or an underscore; digits and combining marks can follow.
-/

set_option autoImplicit false
set_option relaxedAutoImplicit false

namespace ClientGen.Text

/-- Whether a character can start a name. -/
def startsName (c : Char) : Bool :=
  if c.toNat < 0x80 then c.isAlpha || c = '_' else inRanges NameTable.starts c

/-- Whether a character can stand in a name behind its start. -/
def continuesName (c : Char) : Bool :=
  if c.toNat < 0x80 then c.isAlphanum || c = '_'
  else inRanges NameTable.starts c || inRanges NameTable.follows c

end ClientGen.Text
