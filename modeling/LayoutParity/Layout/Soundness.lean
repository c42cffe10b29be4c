import LayoutParity.Layout.Basic
import LayoutParity.Problem

/-!
# Sound layouts

`Layout.validate` accepts a layout if, in it and in every layout nested in it, each field is
aligned, does not start before the field before it ends and is no more aligned than the struct, and
the size covers the last field and is a multiple of the struct's alignment. It reports the first
defect: of the fields in order, then of the size, then of the nested layouts in order.
-/

namespace LayoutParity

/-- The defect of a field of a struct of the given alignment, after a field that ends at
`previousEnd`. -/
def FieldLayout.defect? (alignment : Alignment) (previousEnd : Nat) (field : FieldLayout) :
    Option LayoutDefect :=
  if !field.alignment.isAligned field.offset then
    some (.misaligned field.name field.offset field.alignment)
  else if field.offset < previousEnd then
    some (.overlap field.name field.offset previousEnd)
  else if ¬ field.alignment ≤ alignment then some (.strictField field.name)
  else none

/-- The first defect of the fields of a struct, for fields that follow the offset `previousEnd`. -/
def FieldLayout.firstDefect? (arith : Arithmetic) (alignment : Alignment) (previousEnd : Nat) :
    List FieldLayout → Option LayoutDefect
  | [] => none
  | field :: rest =>
    (field.defect? alignment previousEnd).or
      (firstDefect? arith alignment (field.finish arith) rest)

/-- The defect of a layout, apart from the layouts nested in it. -/
def Layout.ownDefect? (arith : Arithmetic) (layout : Layout) : Option LayoutDefect :=
  (FieldLayout.firstDefect? arith layout.alignment 0 layout.fields).or <|
    let lastEnd := FieldLayout.lastFinish arith 0 layout.fields
    if layout.size < lastEnd then some (.cutOff layout.size lastEnd)
    else if !layout.alignment.isAligned layout.size then
      some (.unevenSize layout.size layout.alignment)
    else none

/-- Accepts a layout without a defect of its own. -/
def Layout.validateOwn (arith : Arithmetic) (layout : Layout) : Check :=
  match layout.ownDefect? arith with
  | none => .ok ()
  | some defect => .error (.unsoundLayout layout.name defect)

section
variable (arith : Arithmetic)

mutual

/-- Accepts a layout that is sound at every depth. -/
def Layout.validate : Layout → Check
  | ⟨name, policy, fields, dataSize, size, alignment⟩ => do
    Layout.validateOwn arith ⟨name, policy, fields, dataSize, size, alignment⟩
    FieldLayout.validateNested fields

/-- Accepts fields whose nested layouts are sound at every depth. -/
def FieldLayout.validateNested : List FieldLayout → Check
  | [] => .ok ()
  | field :: rest => do
    field.validateInside
    FieldLayout.validateNested rest

/-- Accepts a field whose nested layout is sound at every depth. -/
def FieldLayout.validateInside : FieldLayout → Check
  | ⟨_, _, _, _, _, nested?⟩ => Layout.validate? nested?

/-- Accepts a layout that is sound at every depth, or none. -/
def Layout.validate? : Option Layout → Check
  | none => .ok ()
  | some layout => layout.validate

end

end

end LayoutParity
