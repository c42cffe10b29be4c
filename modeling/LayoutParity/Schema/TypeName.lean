import LayoutParity.Schema.Basic
import LayoutParity.Problem

/-!
# Names of types and policies in user input

Reads what a user types for a type or a policy. Blanks around the name are cut; a type's spelling
is compared by case and a policy's is not. An unknown type is reported by its trimmed name, an
unknown policy by the text as it was given.
-/

namespace LayoutParity

/-- The primitive type that a text spells. -/
def FieldType.ofText (text : String) : Except Problem FieldType :=
  let name := Text.trim text
  match Primitive.ofSpelling? name with
  | some type => .ok (.primitive type)
  | none => .error (.unknownType name)

/-- The policy that a text names. -/
def Policy.ofText (text : String) : Except Problem Policy :=
  match Policy.ofName? text with
  | some policy => .ok policy
  | none => .error (.text (.unknownPolicy text))

end LayoutParity
