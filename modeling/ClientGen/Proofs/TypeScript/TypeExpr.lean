import ClientGen.TypeScript.Declarations
import Mathlib.Tactic.Common

/-!
# Type expressions

The type of a field line is a name, a list of a name, or a map between two names (`TypeExpr`). Such
an expression is closed over declared names if each name in it is not empty, and is a primitive or
declared. A tag that has a primitive is written by it, and any other tag by the name beside it,
whatever that is; tags themselves are never primitives, so that a map key without a primitive is
closed only if its tag is declared (`atom_typeText_tag_iff`).
-/

set_option autoImplicit false
set_option relaxedAutoImplicit false

namespace ClientGen.TypeScript

/-- The type of a field line. -/
inductive TypeExpr
  | plain (name : String)
  | list (name : String)
  | map (key value : String)
  deriving DecidableEq, Repr

namespace TypeExpr

/-- A type as it is written. -/
def text : TypeExpr → String
  | plain name => name
  | list name => name ++ "[]"
  | map key value => "\x7b [key: " ++ key ++ "]: " ++ value ++ " \x7d"

/-- The type of a field. -/
def ofField (field : Record.Field) : TypeExpr :=
  match field.kind with
  | .map keyType valueType valueName =>
    .map (typeText keyType keyType) (typeText valueType valueName)
  | _ =>
    if field.isRepeated then .list (typeText field.type field.typeName)
    else .plain (typeText field.type field.typeName)

section Kinds

variable {field : Record.Field}

theorem ofField_of_map {keyType valueType valueName : String}
    (h : field.kind = .map keyType valueType valueName) :
    ofField field = .map (typeText keyType keyType) (typeText valueType valueName) := by
  simp only [ofField, h]

theorem ofField_of_scalar {type : String} {repeated : Bool}
    (h : field.kind = .scalar type repeated) :
    ofField field =
      if repeated then .list (typeText field.type "") else .plain (typeText field.type "") := by
  simp only [ofField, Record.Field.isRepeated, Record.Field.typeName, h]

theorem ofField_of_reference {typeName : String} {repeated : Bool}
    (h : field.kind = .reference typeName repeated) :
    ofField field =
      if repeated then .list (typeText field.type typeName)
      else .plain (typeText field.type typeName) := by
  simp only [ofField, Record.Field.isRepeated, Record.Field.typeName, h]

end Kinds

end TypeExpr

/-- A name is not empty, and is a primitive or declared. -/
structure Atom (declared : List String) (name : String) : Prop where
  ne_empty : name ≠ ""
  known : (∃ primitive : Primitive, name = primitive.text) ∨ name ∈ declared

/-- All names of a type are primitives or declared. -/
def TypeExpr.Closed (declared : List String) : TypeExpr → Prop
  | plain name => Atom declared name
  | list name => Atom declared name
  | map key value => Atom declared key ∧ Atom declared value

/-! ### Lines -/

theorem fieldType_eq (field : Record.Field) : fieldType field = (TypeExpr.ofField field).text := by
  cases hkind : field.kind with
  | map keyType valueType valueName =>
    rw [TypeExpr.ofField_of_map hkind]
    simp only [fieldType, hkind, TypeExpr.text]
  | scalar tag repeated =>
    rw [TypeExpr.ofField_of_scalar hkind]
    simp only [fieldType, Record.Field.isRepeated, Record.Field.typeName, hkind]
    cases repeated with
    | true => rfl
    | false => simp [TypeExpr.text]
  | reference typeName repeated =>
    rw [TypeExpr.ofField_of_reference hkind]
    simp only [fieldType, Record.Field.isRepeated, Record.Field.typeName, hkind]
    cases repeated with
    | true => rfl
    | false => simp [TypeExpr.text]

/-- The line of a field of a given type. -/
def typedLine (ownComments : Bool) (container : String) (field : Record.Field) (type : TypeExpr) :
    String :=
  "  " ++ field.name ++ ": " ++ type.text ++ ";" ++ trailing ownComments field.comment container

theorem fieldLine_eq (ownComments : Bool) (container : String) (field : Record.Field) :
    fieldLine ownComments container field =
      typedLine ownComments container field (TypeExpr.ofField field) := by
  rw [fieldLine, typedLine, fieldType_eq]

/-! ### Tags -/

theorem ofTag?_tag (type : FieldType) :
    Primitive.ofTag? type.tag = Primitive.ofFieldType? type := by
  cases type <;> decide

theorem ofFieldType?_eq_none_iff (type : FieldType) :
    Primitive.ofFieldType? type = none ↔
      (type = .message ∨ type = .enum) ∨ type = .bytes ∨ type = .group := by
  cases type <;> decide

theorem atom_primitive (declared : List String) (primitive : Primitive) :
    Atom declared primitive.text where
  ne_empty := by cases primitive <;> decide
  known := .inl ⟨primitive, rfl⟩

theorem atom_iff_ne_empty {declared : List String} {name : String} (h : name ∈ declared) :
    Atom declared name ↔ name ≠ "" :=
  ⟨Atom.ne_empty, fun hne ↦ ⟨hne, .inr h⟩⟩

/-- No tag is empty or a primitive. -/
theorem atom_tag_iff {declared : List String} (type : FieldType) :
    Atom declared type.tag ↔ type.tag ∈ declared := by
  have hempty : type.tag ≠ "" := by cases type <;> decide
  have hprimitive : ∀ primitive : Primitive, type.tag ≠ primitive.text := by
    intro primitive
    cases primitive <;> cases type <;> decide
  constructor
  · rintro ⟨-, ⟨primitive, heq⟩ | hmem⟩
    · exact absurd heq (hprimitive primitive)
    · exact hmem
  · exact fun hmem ↦ ⟨hempty, .inr hmem⟩

/-- What a tag is written by: its primitive, or else the name beside it. -/
theorem typeText_tag (type : FieldType) (name : String) :
    typeText type.tag name =
      ((Primitive.ofFieldType? type).map Primitive.text).getD name := by
  rw [typeText, ofTag?_tag]
  cases Primitive.ofFieldType? type <;> rfl

theorem atom_typeText_tag_iff {declared : List String} (type : FieldType) :
    Atom declared (typeText type.tag type.tag) ↔
      (Primitive.ofFieldType? type).isSome ∨ type.tag ∈ declared := by
  rw [typeText_tag]
  cases hprimitive : Primitive.ofFieldType? type with
  | none => simpa using atom_tag_iff type
  | some primitive => simpa using atom_primitive declared primitive

end ClientGen.TypeScript
