import ClientGen.Descriptor

/-!
# Primitive types

The TypeScript primitives that stand for scalar tags. Bytes, groups, messages, enums and unknown
tags have none.
-/

set_option autoImplicit false
set_option relaxedAutoImplicit false

namespace ClientGen.TypeScript

/-- The primitive types of TypeScript in use. -/
inductive Primitive
  | number | boolean | string
  deriving DecidableEq, Repr

/-- A primitive as it is written. -/
def Primitive.text : Primitive → String
  | number => "number"
  | boolean => "boolean"
  | string => "string"

/-- The primitive of a field type. -/
def Primitive.ofFieldType? : FieldType → Option Primitive
  | .double | .float | .int64 | .uint64 | .int32 | .fixed64 | .fixed32 | .uint32 | .sfixed32
  | .sfixed64 | .sint32 | .sint64 => some number
  | .bool => some boolean
  | .string => some string
  | .group | .message | .bytes | .enum => none

/-- The primitive of a tag. -/
def Primitive.ofTag? (tag : String) : Option Primitive :=
  (FieldType.ofTag? tag).bind ofFieldType?

/-- The primitive of a tag as it is written, or the given name if the tag has none. -/
def typeText (tag name : String) : String :=
  match Primitive.ofTag? tag with
  | some primitive => primitive.text
  | none => name

end ClientGen.TypeScript
