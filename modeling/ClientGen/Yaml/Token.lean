/-!
# Tokens of a document

A block collection opens and closes by indentation, a flow collection by brackets.
-/

set_option autoImplicit false
set_option relaxedAutoImplicit false

namespace ClientGen.Yaml

/-- A tag as it is written: its handle unless it is written in full, and what follows. -/
structure TagText where
  handle : Option String
  suffix : String
  deriving DecidableEq, Repr

/-- The tokens of a document. A scalar notes whether it is plain. -/
inductive Token
  | versionDirective (major : Nat)
  | tagDirective (handle pattern : String)
  | otherDirective
  | documentStart
  | documentEnd
  | blockSequenceStart
  | blockMappingStart
  | blockEnd
  | flowSequenceStart
  | flowSequenceEnd
  | flowMappingStart
  | flowMappingEnd
  | flowEntry
  | blockEntry
  | key
  | value
  | alias (name : String)
  | anchor (name : String)
  | tag (tag : TagText)
  | scalar (text : String) (plain : Bool)
  deriving DecidableEq, Repr

end ClientGen.Yaml
