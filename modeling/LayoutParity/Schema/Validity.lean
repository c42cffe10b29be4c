import LayoutParity.Schema.Basic
import LayoutParity.Problem

/-!
# Valid declarations

A declaration is valid if its name and the names of its fields are not blank, it has a field, no
two fields share a name, and no repeat count or array length is zero. Structs held by the fields
are not looked into. `Schema.validate` reports the first defect: of the struct first, then field by
field.
-/

namespace LayoutParity

/-- Whether an array length somewhere in the type is zero; a struct's inside is not asked. -/
def FieldType.hasZeroLength : FieldType → Bool
  | .array element count => count == 0 || element.hasZeroLength
  | _ => false

/-- The defect of a field that follows fields of the names `seen`. -/
def Field.defect? (seen : List String) (field : Field) : Option SchemaDefect :=
  if Text.isBlankText field.name then some .blankFieldName
  else if seen.contains field.name then some (.duplicateField field.name)
  else if field.count? = some 0 then some (.zeroCount field.name)
  else if field.type.hasZeroLength then some (.zeroLength field.name)
  else none

/-- The first defect of the fields that follow fields of the names `seen`. -/
def Field.firstDefect? (seen : List String) : List Field → Option SchemaDefect
  | [] => none
  | field :: rest => (field.defect? seen).or (firstDefect? (field.name :: seen) rest)

/-- The first defect of a declaration. -/
def Schema.defect? (schema : Schema) : Option SchemaDefect :=
  if Text.isBlankText schema.name then some .blankName
  else if schema.fields.isEmpty then some .noFields
  else Field.firstDefect? [] schema.fields

/-- Accepts a declaration without a defect. -/
def Schema.validate (schema : Schema) : Check :=
  match schema.defect? with
  | none => .ok ()
  | some defect => .error (.invalidSchema schema.name defect)

end LayoutParity
