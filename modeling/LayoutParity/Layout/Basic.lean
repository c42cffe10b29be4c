import LayoutParity.Schema.Basic

/-!
# Layouts

The layout of a struct places its fields: each has an offset, a size, an alignment and, if its
type holds a struct in the end, the layout of that struct. A layout is a value of its own: nothing
ties it to a declaration or makes it sound (`Layout.OfSchema` computes the one of a declaration,
`Layout.Soundness` checks any). Where fields end and how many bytes they leave over is calculated
in the arithmetic that is asked for.

The holes of a layout are the bytes of the struct that no field covers.
-/

namespace LayoutParity

mutual

/-- The placement of the fields of a struct. -/
structure Layout where
  name : String
  policy : Policy
  fields : List FieldLayout
  /-- Where the last field ends. -/
  dataSize : Nat
  size : Nat
  alignment : Alignment

/-- The placement of one field. -/
structure FieldLayout where
  name : String
  /-- The type with the repeat count of the field as an array around it. -/
  type : FieldType
  offset : Nat
  size : Nat
  alignment : Alignment
  /-- The layout of the struct that the type holds in the end. -/
  nested? : Option Layout

end

/-- Where the field ends: the offset of the first byte after it. -/
def FieldLayout.finish (arith : Arithmetic) (field : FieldLayout) : Nat :=
  arith.add field.offset field.size

/-- Where the last of the fields ends, for fields that follow the offset `cursor`. -/
def FieldLayout.lastFinish (arith : Arithmetic) (cursor : Nat) : List FieldLayout → Nat
  | [] => cursor
  | field :: rest => lastFinish arith (field.finish arith) rest

/-- A run of bytes that no field covers. -/
structure Hole where
  offset : Nat
  bytes : Nat
deriving DecidableEq, Repr

/-- The run from `start` to `stop`, if it has a byte. -/
def Hole.between? (start stop : Nat) : Option Hole :=
  if start < stop then some ⟨start, stop - start⟩ else none

/-- The bytes of all the runs. -/
def Hole.totalBytes (arith : Arithmetic) : List Hole → Nat
  | [] => 0
  | hole :: rest => arith.add hole.bytes (totalBytes arith rest)

namespace Layout

/-- The last field of a name. -/
def field? (layout : Layout) (name : String) : Option FieldLayout :=
  layout.fields.reverse.find? (·.name == name)

/-- The holes before the fields and between the last of them and `size`, for fields that follow
the offset `cursor`. -/
def holesFrom (arith : Arithmetic) (size cursor : Nat) : List FieldLayout → List Hole
  | [] => (Hole.between? cursor size).toList
  | field :: rest =>
    (Hole.between? cursor field.offset).toList ++ holesFrom arith size (field.finish arith) rest

/-- The holes of the struct in order. -/
def holes (arith : Arithmetic) (layout : Layout) : List Hole :=
  holesFrom arith layout.size 0 layout.fields

/-- The bytes in holes. -/
def holeBytes (arith : Arithmetic) (layout : Layout) : Nat :=
  Hole.totalBytes arith (layout.holes arith)

end Layout

end LayoutParity
