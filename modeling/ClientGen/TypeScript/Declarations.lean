import ClientGen.Comment
import ClientGen.Record
import ClientGen.TypeScript.Primitive

/-!
# Interfaces and enums

A record is written as comment lines, a header, a line for each member and a closing brace. A member
with a comment of its own ends in a trailing comment: its own text if `ownComments` is set, the text
of the record around it otherwise, and nothing if that text is empty.
-/

set_option autoImplicit false
set_option relaxedAutoImplicit false

namespace ClientGen.TypeScript

open ClientGen.Text

/-- The comment lines in front of a declaration. -/
def commentLines (comment : String) : List String :=
  (lines comment).map ("// " ++ ·)

/-- The trailing comment of a member. -/
def trailing (ownComments : Bool) (own container : String) : String :=
  if own = "" then ""
  else
    let text := Comment.oneLine (if ownComments then own else container)
    if text = "" then "" else "  // " ++ text

/-- The type of a field: a map from keys to values, or a primitive or named type, as a list if the
field is repeated. -/
def fieldType (field : Record.Field) : String :=
  match field.kind with
  | .map keyType valueType valueName =>
    "\x7b [key: " ++ typeText keyType keyType ++ "]: " ++ typeText valueType valueName ++ " \x7d"
  | _ => typeText field.type field.typeName ++ if field.isRepeated then "[]" else ""

/-- The line of a field. -/
def fieldLine (ownComments : Bool) (container : String) (field : Record.Field) : String :=
  "  " ++ field.name ++ ": " ++ fieldType field ++ ";" ++
    trailing ownComments field.comment container

/-- The lines of an interface. -/
def interfaceLines (ownComments : Bool) (message : Record.Message) : List String :=
  commentLines message.comment ++ ["export interface " ++ message.name ++ " \x7b"] ++
    message.fields.map (fieldLine ownComments message.comment) ++ ["\x7d"]

/-- The line of an enum value. -/
def itemLine (ownComments : Bool) (container : String) (item : Record.EnumItem) : String :=
  "  " ++ item.key ++ " = " ++ toString item.value ++ "," ++
    trailing ownComments item.comment container

/-- The lines of an enum. -/
def enumLines (ownComments : Bool) (enum : Record.Enum) : List String :=
  commentLines enum.comment ++ ["export enum " ++ enum.name ++ " \x7b"] ++
    enum.items.map (itemLine ownComments enum.comment) ++ ["\x7d"]

/-- Lines as text, each with a line feed. -/
def unlines (lines : List String) : String :=
  String.join (lines.map (· ++ "\n"))

/-- The text of an interface. -/
def interfaceText (ownComments : Bool) (message : Record.Message) : String :=
  unlines (interfaceLines ownComments message)

/-- The text of an enum. -/
def enumText (ownComments : Bool) (enum : Record.Enum) : String :=
  unlines (enumLines ownComments enum)

end ClientGen.TypeScript
