import ClientGen.Decimal.Shortest
import ClientGen.Text.Counted
import ClientGen.Text.Quoted
import ClientGen.Yaml.Moment

/-!
# Values of documents

What nodes stand for. A mapping keeps its keys in the order in which they first appear, and a later
entry with the same key replaces the value. Numbers and truth values are the same key if they are
equal as numbers, and moments if they are the same instant. The one value `nan` is the same key as
itself; any other float that is no number is the same key as none.
-/

set_option autoImplicit false
set_option relaxedAutoImplicit false

namespace ClientGen.Yaml

open ClientGen.Text

/-- A value. -/
inductive Value
  | null
  | bool (value : Bool)
  | int (value : Int)
  | float (value : Float)
  | nan
  | str (text : String)
  | bytes (data : List UInt8)
  | moment (moment : Moment)
  | list (items : List Value)
  | tuple (items : List Value)
  | map (entries : List (Value × Value))
  | set (items : List Value)
  deriving Inhabited, Repr

namespace Value

/-- The name of the type of a value. -/
def typeName : Value → String
  | null => "NoneType"
  | bool _ => "bool"
  | int _ => "int"
  | float _ | nan => "float"
  | str _ => "str"
  | bytes _ => "bytes"
  | moment m => if m.time.isSome then "datetime" else "date"
  | list _ => "list"
  | tuple _ => "tuple"
  | map _ => "dict"
  | set _ => "set"

/-- One byte as it is shown. -/
def byteText (quote : Char) (byte : UInt8) : List Char :=
  if 0x20 ≤ byte && byte < 0x7f then quotedChar quote (Char.ofNat byte.toNat)
  else if byte = 9 || byte = 10 || byte = 13 then quotedChar quote (Char.ofNat byte.toNat)
  else '\\' :: 'x' :: hexPadded 2 byte.toNat

/-- Bytes as they are shown. -/
def bytesText (bytes : List UInt8) : String :=
  let quote := if bytes.contains 39 && !bytes.contains 34 then '\x22' else '\x27'
  String.ofList ('b' :: quote :: bytes.flatMap (byteText quote) ++ [quote])

mutual

/-- A value as it is shown inside a collection, where a text stands in quotes and a moment as the
call that makes it. -/
def shownInside : Value → String
  | null => "None"
  | bool value => if value then "True" else "False"
  | int value => toString value
  | float value => Decimal.floatText value
  | nan => "nan"
  | str text => quoted text
  | bytes data => bytesText data
  | moment m => m.shownInside
  | list items => "[" ++ ", ".intercalate (shownItems items) ++ "]"
  | tuple items => tupleText (shownItems items)
  | map entries => "\x7b" ++ ", ".intercalate (shownEntries entries) ++ "\x7d"
  | set [] => "set()"
  | set items => "\x7b" ++ ", ".intercalate (shownItems items) ++ "\x7d"

/-- Values as they are shown inside a collection. -/
def shownItems : List Value → List String
  | [] => []
  | item :: rest => item.shownInside :: shownItems rest

/-- Entries as they are shown inside a mapping. -/
def shownEntries : List (Value × Value) → List String
  | [] => []
  | (key, value) :: rest => (key.shownInside ++ ": " ++ value.shownInside) :: shownEntries rest

end

/-- A value as it is shown. -/
def shown : Value → String
  | str text => text
  | moment m => m.text
  | value => value.shownInside

/-- Whether a value counts as true: anything but nothing, zero and what is empty. -/
def isTruthy : Value → Bool
  | null => false
  | bool value => value
  | int value => value ≠ 0
  | float value => value != 0.0
  | nan | moment _ => true
  | str text => text ≠ ""
  | bytes data => !data.isEmpty
  | list items | tuple items | set items => !items.isEmpty
  | map entries => !entries.isEmpty

/-- Whether a value can be a key. -/
def isKey : Value → Bool
  | list _ | map _ | set _ => false
  | _ => true

/-- The whole number that a value is. -/
def int? : Value → Option Int
  | bool value => some (if value then 1 else 0)
  | int value => some value
  | _ => none

/-- Whether two values are the same key. -/
def sameKey : Value → Value → Bool
  | null, null => true
  | str a, str b => a = b
  | bytes a, bytes b => a = b
  | nan, nan => true
  | moment a, moment b => a.isSame b
  | float a, float b => a == b
  | float a, b =>
    match b.int?, Decimal.Binary.ofFloat? a with
    | some n, some binary => binary.isInt n
    | _, _ => false
  | a, float b =>
    match a.int?, Decimal.Binary.ofFloat? b with
    | some n, some binary => binary.isInt n
    | _, _ => false
  | a, b =>
    match a.int?, b.int? with
    | some m, some n => m = n
    | _, _ => false

/-- Entries with one more: the value of the same key is replaced, or the entry goes to the end. -/
def insertBy {κ ν : Type} (same : κ → κ → Bool) (key : κ) (value : ν) : List (κ × ν) → List (κ × ν)
  | [] => [(key, value)]
  | (other, old) :: rest =>
    if same other key then (other, value) :: rest
    else (other, old) :: insertBy same key value rest

/-- Entries with one more. -/
def insert (key value : Value) (entries : List (Value × Value)) : List (Value × Value) :=
  insertBy sameKey key value entries

end Value

end ClientGen.Yaml
