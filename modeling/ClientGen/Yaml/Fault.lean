import ClientGen.Text.Quoted

/-!
# Faults of documents

Why a text has no value. Most faults are of its form (`Fault.isForm`); the others are of single
scalars whose text does not suit their tag, and these have reports of their own. A reader of
documents may also report a fault of form in its words, or raise an error that is no such fault.
-/

set_option autoImplicit false
set_option relaxedAutoImplicit false

namespace ClientGen.Yaml

open ClientGen.Text

/-- Why a text has no value. -/
inductive Fault
  | unprintable
  | unexpectedCharacter
  | unclosedQuote
  | badEscape
  | badBlockHeader
  | badDirective
  | badAnchor
  | badTag
  | misplacedEntry
  | misplacedKey
  | missingColon
  | unexpectedToken
  | severalDocuments
  | unknownHandle
  | unknownAlias
  | repeatedAnchor
  | unknownTag
  | wrongNode
  | unusableKey
  | badMerge
  | badBinary
  | noCharacter (code : Nat)
  | emptyNumber
  | badWhole (base : Nat) (text : String)
  | longWhole (digits : Nat)
  | badFraction (text : String)
  | longFraction
  | badTruth (text : String)
  | badMoment (reason : String)
  | noMoment
  | unwrittenMoment
  | endless
  | reported (report : String)
  | raised (kind message : String)
  deriving DecidableEq, Repr

namespace Fault

/-- Whether a fault is one of the form of a document. -/
def isForm : Fault → Bool
  | noCharacter _ | emptyNumber | badWhole .. | longWhole _ | badFraction _ | longFraction
  | badTruth _ | badMoment _ | noMoment | unwrittenMoment | endless | raised .. => false
  | _ => true

/-- The report of a fault. Faults of form without words of their own share one. -/
def message : Fault → String
  | noCharacter code =>
    if code < Nat.pow 2 31 then "chr() arg not in range(0x110000)"
    else "Python int too large to convert to C int"
  | emptyNumber => "string index out of range"
  | badWhole base text =>
    "invalid literal for int() with base " ++ toString base ++ ": " ++
      String.ofList ((quoted text).toList.take 200)
  | longWhole digits =>
    "Exceeds the limit (4300 digits) for integer string conversion: value has " ++
      toString digits ++ " digits; use sys.set_int_max_str_digits() to increase the limit"
  | badFraction text => "could not convert string to float: " ++ quoted text
  | longFraction => "int too large to convert to float"
  | badTruth text => quoted text
  | badMoment reason => reason
  | noMoment => "'NoneType' object has no attribute 'groupdict'"
  | unwrittenMoment => "expected string or bytes-like object, got 'list'"
  | endless => "maximum recursion depth exceeded"
  | reported report => report
  | raised _ message => message
  | _ => "<yaml error>"

end Fault

end ClientGen.Yaml
