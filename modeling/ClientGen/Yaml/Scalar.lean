import ClientGen.Decimal.Reading
import ClientGen.Text.Case
import ClientGen.Yaml.Fault
import ClientGen.Yaml.Tag
import ClientGen.Yaml.Value

/-!
# Values of scalars

The value that the text of a scalar stands for under a tag. Underscores in numbers are dropped, and
one sign in front is taken off before the rest is read.
-/

set_option autoImplicit false
set_option relaxedAutoImplicit false

namespace ClientGen.Yaml

open ClientGen.Text

namespace Scalar

/-- The whole number that a text writes in a base. -/
def whole (base : Nat) (cs : List Char) : Except Fault Int :=
  match Numeral.whole base cs with
  | .ok n => .ok n
  | .error .malformed => .error (.badWhole base (String.ofList cs))
  | .error (.tooLong digits) => .error (.longWhole digits)

/-- The whole number that an unsigned text writes: in a base that its start tells, or in parts of
sixty. -/
def unsignedWhole (cs : List Char) : Except Fault Int :=
  match cs with
  | [] => .error .emptyNumber
  | ['0'] => .ok 0
  | '0' :: 'b' :: bits => whole 2 bits
  | '0' :: 'x' :: digits => whole 16 digits
  | '0' :: _ => whole 8 cs
  | _ =>
    if cs.contains ':' then do
      let parts ← (splitOn ':' cs).mapM (whole 10)
      return parts.foldl (fun sum part ↦ sum * 60 + part) 0
    else whole 10 cs

/-- The whole number that a text writes. -/
def wholeValue (text : String) : Except Fault Int := do
  let cs := text.toList.filter (· ≠ '_')
  if cs.isEmpty then throw .emptyNumber
  let n ← unsignedWhole (Tag.unsigned cs)
  return if cs.head? = some '-' then -n else n

/-- The float that a text writes. -/
def fraction (cs : List Char) : Except Fault Float :=
  match Decimal.float? cs with
  | some x => .ok x
  | none => .error (.badFraction (String.ofList cs))

/-- The sum of parts of sixty, the last one first. -/
def sumOfSixties : Nat → Float → List Float → Float
  | _, sum, [] => sum
  | scale, sum, part :: rest => sumOfSixties (scale * 60) (sum + part * Float.ofNat scale) rest

/-- The most parts of sixty whose scale a float can hold. -/
def mostSixties : Nat := 174

/-- The float that a text in lower case and without a sign writes. -/
def unsignedFraction (cs : List Char) : Except Fault Float :=
  if cs = ".inf".toList then .ok Decimal.infinity
  else if cs.contains ':' then do
    let parts ← (splitOn ':' cs).mapM fraction
    if mostSixties < parts.length then throw .longFraction
    return sumOfSixties 1 0.0 parts.reverse
  else fraction cs

/-- The float that a text writes. -/
def fractionValue (text : String) : Except Fault Value := do
  let cs := lower (text.toList.filter (· ≠ '_'))
  if cs.isEmpty then throw .emptyNumber
  let unsigned := Tag.unsigned cs
  if unsigned = ".nan".toList then return .nan
  let x ← unsignedFraction unsigned
  return .float (if cs.head? = some '-' then -x else x)

/-- The truth value of a word, in any case of letters. -/
def truthValue (text : String) : Except Fault Bool :=
  let word := String.ofList (lower text.toList)
  if Tag.truthWords.contains word then .ok true
  else if Tag.falsehoodWords.contains word then .ok false
  else .error (.badTruth word)

/-- The value of a character that stands for six bits. -/
def sextet? (c : Char) : Option Nat :=
  if 'A' ≤ c && c ≤ 'Z' then some (c.toNat - 65)
  else if 'a' ≤ c && c ≤ 'z' then some (c.toNat - 71)
  else if c.isDigit then some (c.toNat + 4)
  else if c = '+' then some 62
  else if c = '/' then some 63
  else none

/-- The bytes behind some sextets: how many of a group of four have been read, the bits that are
left of them, and the number of padding characters in a row. Other characters are skipped. -/
def groupBytes (position left padding : Nat) : List Char → Option (List UInt8)
  | [] => if position = 0 then some [] else none
  | c :: rest =>
    if c = '=' then
      if 2 ≤ position && 4 ≤ position + padding + 1 then some []
      else groupBytes position left (if 2 ≤ position then padding + 1 else padding) rest
    else match sextet? c with
      | none => groupBytes position left padding rest
      | some v =>
        match position with
        | 0 => groupBytes 1 v 0 rest
        | 1 => (groupBytes 2 (v % 16) 0 rest).map ((left * 4 + v / 16).toUInt8 :: ·)
        | 2 => (groupBytes 3 (v % 4) 0 rest).map ((left * 16 + v / 4).toUInt8 :: ·)
        | _ => (groupBytes 0 0 0 rest).map ((left * 64 + v).toUInt8 :: ·)

/-- The bytes that a text writes in groups of six bits. -/
def binaryValue (text : String) : Except Fault (List UInt8) :=
  if text.toList.all fun c ↦ c.toNat < 128 then
    match groupBytes 0 0 0 text.toList with
    | some bytes => .ok bytes
    | none => .error .badBinary
  else .error .badBinary

/-- The moment that a text writes. A line feed at its end does not count. -/
def momentValue (text : String) : Except Fault Value :=
  match Moment.read? (Tag.withoutLineFeed text.toList) with
  | none => .error .noMoment
  | some moment =>
    match moment.fault? with
    | some reason => .error (.badMoment reason)
    | none => .ok (.moment moment)

/-- The value of a scalar with a tag, if it is a tag of scalars. -/
def value (tag : Tag) (text : String) : Except Fault Value :=
  match tag with
  | .null => .ok .null
  | .bool => .bool <$> truthValue text
  | .int => .int <$> wholeValue text
  | .float => fractionValue text
  | .binary => .bytes <$> binaryValue text
  | .timestamp => momentValue text
  | .str => .ok (.str text)
  | .omap | .pairs | .set | .seq | .map => .error .wrongNode
  | .merge | .value | .other _ => .error .unknownTag

end Scalar

end ClientGen.Yaml
