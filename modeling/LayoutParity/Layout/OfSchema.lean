import LayoutParity.Layout.Basic

/-!
# The layout of a declaration

The layout of a struct is found in two steps. `Field.block` measures a field: its name, its full
type and the extent of that type under the policy, which is its size, its alignment and the layout
of the struct inside it. `FieldLayout.placeFrom` puts blocks one after the other, each at the first
multiple of its alignment. The struct takes the strictest alignment of its fields, at least that of
a scalar, and its size is rounded up to it.

An array repeats the stride of its element, which is the element's size rounded up to its
alignment; a repeated field is laid out as an array.

The rules are those of the program in `word` arithmetic, where a struct that is too large for its
words wraps around and may come out with any size. In `exact` arithmetic they say how large it
would have to be.
-/

namespace LayoutParity

/-- What a type takes in memory under a policy. -/
structure Extent where
  size : Nat
  alignment : Alignment
  /-- The layout of the struct that the type holds in the end. -/
  nested? : Option Layout

namespace Extent

/-- The distance between neighbours in an array. -/
def stride (arith : Arithmetic) (extent : Extent) : Nat :=
  arith.roundUp extent.alignment extent.size

/-- The extent of an array of `count` elements. -/
def array (arith : Arithmetic) (extent : Extent) (count : Nat) : Extent :=
  { extent with size := arith.mul (extent.stride arith) count }

/-- The extent of a type repeated as a field declares. -/
def repeated (arith : Arithmetic) (extent : Extent) : Option Nat → Extent
  | none => extent
  | some count => extent.array arith count

/-- The extent of a struct. -/
def ofLayout (layout : Layout) : Extent :=
  ⟨layout.size, layout.alignment, some layout⟩

end Extent

/-- A measured field that has no place yet. -/
structure Block where
  name : String
  type : FieldType
  extent : Extent

/-- Places blocks in order, each at the first aligned offset that is not before `cursor`. -/
def FieldLayout.placeFrom (arith : Arithmetic) (cursor : Nat) : List Block → List FieldLayout
  | [] => []
  | ⟨name, type, extent⟩ :: rest =>
    let offset := arith.roundUp extent.alignment cursor
    ⟨name, type, offset, extent.size, extent.alignment, extent.nested?⟩
      :: placeFrom arith (arith.add offset extent.size) rest

/-- The strictest alignment of the fields, at least that of a scalar. -/
def FieldLayout.strictest (fields : List FieldLayout) : Alignment :=
  fields.foldr (fun field strictest => max field.alignment strictest) .scalar

/-- The struct with these fields, its size rounded up to its alignment. -/
def Layout.ofFields (arith : Arithmetic) (name : String) (policy : Policy)
    (fields : List FieldLayout) : Layout :=
  let dataSize := FieldLayout.lastFinish arith 0 fields
  let alignment := FieldLayout.strictest fields
  ⟨name, policy, fields, dataSize, arith.roundUp alignment dataSize, alignment⟩

section
variable (arith : Arithmetic) (policy : Policy)

mutual

/-- What a type takes in memory under a policy. -/
def FieldType.extent : FieldType → Extent
  | .primitive type => ⟨policy.sizeOf type, policy.alignmentOf type, none⟩
  | .struct schema => .ofLayout schema.layout
  | .array element count => element.extent.array arith count

/-- The layout of a struct under a policy. -/
def Schema.layout : Schema → Layout
  | ⟨name, fields⟩ =>
    .ofFields arith name policy (FieldLayout.placeFrom arith 0 (Field.blocks fields))

/-- The measured fields of a struct. -/
def Field.blocks : List Field → List Block
  | [] => []
  | field :: rest => field.block :: Field.blocks rest

/-- A field measured under a policy. -/
def Field.block : Field → Block
  | ⟨name, type, count?⟩ => ⟨name, type.repeated count?, type.extent.repeated arith count?⟩

end

/-- The fields are measured one by one. -/
theorem Field.blocks_eq_map (fields : List Field) :
    Field.blocks arith policy fields = fields.map (Field.block arith policy) := by
  induction fields with
  | nil => rfl
  | cons field rest ih => rw [Field.blocks, ih, List.map_cons]

/-- A repeated type takes what its array type takes. -/
theorem FieldType.extent_repeated (type : FieldType) (count? : Option Nat) :
    (type.repeated count?).extent arith policy =
      (type.extent arith policy).repeated arith count? := by
  cases count? <;> simp [FieldType.repeated, Extent.repeated, FieldType.extent]

/-- A block holds the extent of its type. -/
theorem Field.extent_block (field : Field) :
    (field.block arith policy).extent = field.fullType.extent arith policy := by
  cases field
  exact (FieldType.extent_repeated ..).symm

end

/-! ## The type model -/

/-- The alignment of a type that is packed tightly. -/
def FieldType.naturalAlignment (arith : Arithmetic) : FieldType → Alignment
  | .primitive _ => .scalar
  | .struct schema => (schema.layout arith .natural).alignment
  | .array element _ => element.naturalAlignment arith

/-- The size of a type that is packed tightly. -/
def FieldType.naturalSize (arith : Arithmetic) : FieldType → Nat
  | .primitive type => type.lanes * laneSize
  | .struct schema => (schema.layout arith .natural).size
  | .array element count =>
    arith.mul (arith.roundUp (element.naturalAlignment arith) (element.naturalSize arith)) count

end LayoutParity
