/-!
# JSON documents

The documents that records are shown as, and their text: members in order, an indent of two spaces a
level, empty lists and objects closed on the spot, and only quotes, backslashes and the controls
below the space escaped.
-/

set_option autoImplicit false
set_option relaxedAutoImplicit false

namespace ClientGen

/-- A JSON document. -/
inductive Json
  | text (s : String)
  | number (n : Int)
  | flag (b : Bool)
  | list (items : List Json)
  | object (members : List (String × Json))

namespace Json

/-- The two-digit hexadecimal form of a control code. -/
def controlCode (n : Nat) : List Char :=
  [Nat.digitChar (n / 16), Nat.digitChar (n % 16)]

/-- One character of a string literal. -/
def escapeChar (c : Char) : List Char :=
  if c = '\x22' then ['\\', '\x22']
  else if c = '\\' then ['\\', '\\']
  else if c = '\n' then ['\\', 'n']
  else if c = '\r' then ['\\', 'r']
  else if c = '\t' then ['\\', 't']
  else if c = '\x08' then ['\\', 'b']
  else if c = '\x0c' then ['\\', 'f']
  else if c.toNat < 0x20 then '\\' :: 'u' :: '0' :: '0' :: controlCode c.toNat
  else [c]

/-- A string literal. -/
def literal (s : String) : String :=
  String.ofList ('\x22' :: s.toList.flatMap escapeChar ++ ['\x22'])

/-- A line break with the indent of a level. -/
def newline (level : Nat) : String :=
  String.ofList ('\n' :: List.replicate (2 * level) ' ')

mutual

/-- The text of a document that stands at a level. -/
def render (level : Nat) : Json → String
  | .text s => literal s
  | .number n => toString n
  | .flag b => if b then "true" else "false"
  | .list [] => "[]"
  | .list items =>
    "[" ++ newline (level + 1) ++ renderItems (level + 1) items ++ newline level ++ "]"
  | .object [] => "\x7b\x7d"
  | .object members =>
    "\x7b" ++ newline (level + 1) ++ renderMembers (level + 1) members ++ newline level ++ "\x7d"

/-- The text of the items of a list. -/
def renderItems (level : Nat) : List Json → String
  | [] => ""
  | [item] => item.render level
  | item :: rest => item.render level ++ "," ++ newline level ++ renderItems level rest

/-- The text of the members of an object. -/
def renderMembers (level : Nat) : List (String × Json) → String
  | [] => ""
  | [(name, item)] => literal name ++ ": " ++ item.render level
  | (name, item) :: rest =>
    literal name ++ ": " ++ item.render level ++ "," ++ newline level ++ renderMembers level rest

end

/-- The text of a document. -/
def pretty (document : Json) : String :=
  document.render 0

end Json

end ClientGen
