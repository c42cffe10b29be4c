import LayoutParity.Arithmetic
import LayoutParity.Policy

/-!
# Struct declarations

A schema declares a struct: a name and its fields in order. A field has a type and, if it is
repeated, a count. A type is a primitive, another struct, or an array of a type. The three are one
mutual family, so a struct is nested by holding its whole declaration and recursion over any of
them is structural.

`FieldType.repeated` turns a repeat count into an array type; layouts record the type in this form
(`Field.fullType`).
-/

namespace LayoutParity

mutual

/-- The type of a field. -/
inductive FieldType where
  | primitive (type : Primitive)
  | struct (schema : Schema)
  | array (element : FieldType) (count : Nat)

/-- The declaration of a struct. Nothing is checked by building one. -/
structure Schema where
  name : String
  fields : List Field

/-- One field of a declaration. -/
structure Field where
  name : String
  type : FieldType
  /-- How often the type is repeated in a row, for a field declared with a count. -/
  count? : Option Nat

end

namespace FieldType

/-- The name of the type in a declaration, with array lengths from the innermost outwards. -/
def text : FieldType → String
  | primitive type => type.name
  | struct schema => schema.name
  | array element count => s!"{element.text}[{count}]"

/-- The lanes of a vector type. -/
def vectorLanes? : FieldType → Option Nat
  | primitive type => if type.lanes = 1 then none else some type.lanes
  | _ => none

/-- Whether the outermost part of the type is an array. -/
def isArray : FieldType → Bool
  | array .. => true
  | _ => false

/-- What an array of arrays holds in the end; any other type is its own element. -/
def element : FieldType → FieldType
  | array inner _ => inner.element
  | type => type

/-- How many of `element` the type holds. -/
def elementCount (arith : Arithmetic) : FieldType → Nat
  | array inner count => arith.mul count (inner.elementCount arith)
  | _ => 1

/-- The declaration of the struct that the type holds in the end, if it holds one. -/
def nested? (type : FieldType) : Option Schema :=
  match type.element with
  | struct schema => some schema
  | _ => none

/-- A repeat count as an array around the type. -/
def repeated (type : FieldType) : Option Nat → FieldType
  | none => type
  | some count => array type count

end FieldType

namespace Field

/-- The type of the field with its repeat count as an array around it. -/
def fullType (field : Field) : FieldType :=
  field.type.repeated field.count?

/-- The line that declares the field, without its semicolon. -/
def text (field : Field) : String :=
  match field.count? with
  | none => s!"{field.type.text} {field.name}"
  | some count => s!"{field.type.text} {field.name}[{count}]"

end Field

namespace Schema

/-- The first field of a name. -/
def field? (schema : Schema) (name : String) : Option Field :=
  schema.fields.find? (·.name == name)

/-- The declarations that the fields hold directly, in field order. -/
def nested (schema : Schema) : List Schema :=
  schema.fields.filterMap (·.type.nested?)

/-- The declaration as it is written in a shader. -/
def text (schema : Schema) : String :=
  s!"struct {schema.name} \x7b\n"
    ++ String.join (schema.fields.map fun field => s!"    {field.text};\n") ++ "\x7d"

end Schema

end LayoutParity
