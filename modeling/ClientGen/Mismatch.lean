/-!
# Mismatches

A value that was not checked may have a type that does not suit its use. `Mismatch` tells the use
and the name of the type.
-/

set_option autoImplicit false
set_option relaxedAutoImplicit false

namespace ClientGen

/-- A type that does not suit a use: as a path, as a directory to list, as lines, as one line, or as
a template. -/
inductive Mismatch
  | path (type : String)
  | directory (type : String)
  | lines (type : String)
  | line (type : String)
  | template
  deriving DecidableEq, Repr

/-- The report of a mismatch. -/
def Mismatch.message : Mismatch → String
  | path type => "expected str, bytes or os.PathLike object, not " ++ type
  | directory type =>
    "listdir: path should be string, bytes, os.PathLike, integer or None, not " ++ type
  | lines type => "'" ++ type ++ "' object is not iterable"
  | line type =>
    if type = "list" then "can only concatenate list (not \"str\") to list"
    else "unsupported operand type(s) for +: '" ++ type ++ "' and 'str'"
  | template => "Can't compile non template nodes"

end ClientGen
