import ClientGen.Text.Quoted

/-!
# Counts and lists in messages

`counted` is a count with its noun, `enumerated` a list of names in a sentence, and `tupleText` the
items of a tuple.
-/

set_option autoImplicit false
set_option relaxedAutoImplicit false

namespace ClientGen.Text

/-- A count with a noun in the singular for one and in the plural otherwise. -/
def counted (count : Nat) (noun : String) : String :=
  toString count ++ " " ++ noun ++ if count = 1 then "" else "s"

/-- Names in quotes as a list in a sentence. -/
def enumerated : List String → String
  | [] => ""
  | [a] => quoted a
  | [a, b] => quoted a ++ " and " ++ quoted b
  | a :: rest => quoted a ++ enumeratedRest rest
where
  /-- The names after the first of three or more. -/
  enumeratedRest : List String → String
    | [] => ""
    | [z] => ", and " ++ quoted z
    | b :: rest => ", " ++ quoted b ++ enumeratedRest rest

/-- Shown values as the items of a tuple. A single item is followed by a comma. -/
def tupleText : List String → String
  | [item] => "(" ++ item ++ ",)"
  | items => "(" ++ ", ".intercalate items ++ ")"

end ClientGen.Text
