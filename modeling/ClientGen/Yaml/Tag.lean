import ClientGen.Text.Splice
import ClientGen.Yaml.Moment

/-!
# Tags

The kinds of nodes. A plain scalar without a tag of its own gets one from its text (`Tag.ofPlain`):
the words for truth and nothing, whole numbers in several bases, fractions, moments, and the two
marks for merging and for a default value; anything else is a text. A line feed at the end of the
text does not count.
-/

set_option autoImplicit false
set_option relaxedAutoImplicit false

namespace ClientGen.Yaml

open ClientGen.Text

/-- The tags of nodes; `other` is one without a meaning here. -/
inductive Tag
  | null | bool | int | float | binary | timestamp | omap | pairs | set | str | seq | map
  | merge | value
  | other (name : String)
  deriving DecidableEq, Repr

namespace Tag

/-- What the names of the standard tags start with. -/
def standard : String := "tag:yaml.org,2002:"

/-- The standard tags by name. -/
def known : List (String × Tag) :=
  [("null", null), ("bool", bool), ("int", int), ("float", float), ("binary", binary),
    ("timestamp", timestamp), ("omap", omap), ("pairs", pairs), ("set", set), ("str", str),
    ("seq", seq), ("map", map), ("merge", merge), ("value", value)]

/-- The tag with a full name. -/
def ofName (name : String) : Tag :=
  ((dropPrefix? standard.toList name.toList).bind fun short ↦
    known.lookup (String.ofList short)).getD (other name)

/-- The words for truth. -/
def truthWords : List String :=
  ["yes", "Yes", "YES", "true", "True", "TRUE", "on", "On", "ON"]

/-- The words for falsehood. -/
def falsehoodWords : List String :=
  ["no", "No", "NO", "false", "False", "FALSE", "off", "Off", "OFF"]

/-- The words for nothing. -/
def nothingWords : List String :=
  ["", "~", "null", "Null", "NULL"]

/-- The marks that mean something in front of a node only, and nothing as a node. -/
def indicators : List String :=
  ["!", "&", "*"]

/-- Whether a text has characters, all with a property. -/
def isFilledWith (p : Char → Bool) (cs : List Char) : Bool :=
  !cs.isEmpty && cs.all p

/-- Whether a character is a decimal digit or an underscore. -/
def isDigitOrUnderscore (c : Char) : Bool :=
  c.isDigit || c = '_'

/-- Whether a text is a digit followed by digits and underscores. -/
def isDigits : List Char → Bool
  | [] => false
  | c :: rest => c.isDigit && rest.all isDigitOrUnderscore

/-- A text without a sign in front. -/
def unsigned : List Char → List Char
  | '+' :: rest => rest
  | '-' :: rest => rest
  | cs => cs

/-- Whether a text is a number below sixty of one or two digits. -/
def isSixtieth : List Char → Bool
  | [a] => a.isDigit
  | [a, b] => '0' ≤ a && a ≤ '5' && b.isDigit
  | _ => false

/-- Whether a text writes a whole number: with bits after `0b`, octal after a zero, hexadecimal
after `0x`, decimal, or in parts of sixty. -/
def isInt (cs : List Char) : Bool :=
  match unsigned cs with
  | '0' :: 'b' :: bits => isFilledWith (fun c ↦ c = '0' || c = '1' || c = '_') bits
  | '0' :: 'x' :: digits =>
    isFilledWith
      (fun c ↦ isDigitOrUnderscore c || ('a' ≤ c && c ≤ 'f') || ('A' ≤ c && c ≤ 'F')) digits
  | '0' :: rest => rest.all fun c ↦ ('0' ≤ c && c ≤ '7') || c = '_'
  | cs =>
    match splitOn ':' cs with
    | [] => false
    | first :: rest => isDigits first && rest.all isSixtieth

/-- Whether a text is an exponent with a sign, or empty. -/
def isExponent : List Char → Bool
  | [] => true
  | e :: sign :: digits =>
    (e = 'e' || e = 'E') && (sign = '+' || sign = '-') && isFilledWith Char.isDigit digits
  | _ => false

/-- Whether a text writes a fraction: with a point, infinite, or no number at all. -/
def isFloat (cs : List Char) : Bool :=
  let (whole, rest) := ((unsigned cs).takeWhile (· ≠ '.'), (unsigned cs).dropWhile (· ≠ '.'))
  match rest with
  | '.' :: fraction =>
    let decimals := fraction.dropWhile isDigitOrUnderscore
    if whole.isEmpty then
      [".inf", ".Inf", ".INF"].contains (String.ofList rest) ||
        [".nan", ".NaN", ".NAN"].contains (String.ofList cs) ||
        (cs.head? = some '.' && isDigits (fraction.takeWhile isDigitOrUnderscore) &&
          isExponent decimals)
    else
      match splitOn ':' whole with
      | [] => false
      | [first] => isDigits first && isExponent decimals
      | first :: parts => isDigits first && parts.all isSixtieth && decimals.isEmpty
  | _ => false

/-- A text without one line feed behind other characters. -/
def withoutLineFeed (cs : List Char) : List Char :=
  if 1 < cs.length && cs.getLast? = some '\n' then cs.dropLast else cs

/-- The tag of a plain scalar without a tag of its own. -/
def ofPlain (written : String) : Tag :=
  let cs := withoutLineFeed written.toList
  let text := String.ofList cs
  if truthWords.contains text || falsehoodWords.contains text then bool
  else if isFloat cs then float
  else if isInt cs then int
  else if text = "<<" then merge
  else if nothingWords.contains text then null
  else if Moment.isPlain cs then timestamp
  else if text = "=" then value
  else if indicators.contains text then other (standard ++ "yaml")
  else str

end Tag

end ClientGen.Yaml
