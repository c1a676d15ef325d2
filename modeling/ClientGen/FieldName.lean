import ClientGen.Text.Case
import ClientGen.Text.Splice

/-!
# Names of fields in JSON

A field without a JSON name of its own gets one from its declared name: the underscores are dropped
and every part after the first is capitalized.
-/

set_option autoImplicit false
set_option relaxedAutoImplicit false

namespace ClientGen.FieldName

open ClientGen.Text

/-- The JSON name for a declared name. -/
def jsonChars (cs : List Char) : List Char :=
  match splitOn '_' cs with
  | [] => []
  | first :: rest => first ++ rest.flatMap capitalize

/-- The JSON name for a declared name. -/
def json (name : String) : String :=
  String.ofList (jsonChars name.toList)

end ClientGen.FieldName
