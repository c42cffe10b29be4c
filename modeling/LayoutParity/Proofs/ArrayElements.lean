import LayoutParity.Proofs.Comparator
import LayoutParity.Proofs.Holes
import LayoutParity.Proofs.WordLayouts

/-!
# The elements of an array lie side by side

The extent of an array is found dimension by dimension, and each dimension rounds the size of the
one inside it again. A comparison that enters an array of structs counts the innermost elements of
all dimensions at once, and takes the struct's size for the distance between two of them. Both agree
(`FieldType.size_extent_array`, `Field.LaidOut.size_of_nested`), so the elements that are entered
tile the bytes of the field (`Span.Tile`): each begins where the one before it ends, the first with
the field, and the last ends with it.

The two counts agree in words too, where they are remainders. The elements only tile the field if
its end fits into a word.
-/

namespace LayoutParity

/-! ## Spans side by side -/

/-- The spans follow each other from `start` to `stop`, each beginning where the one before it
ends. -/
inductive Span.Tile : Nat → Nat → List Span → Prop
  | nil {offset : Nat} : Tile offset offset []
  | cons {start middle stop : Nat} {rest : List Span} : start ≤ middle →
      Tile middle stop rest → Tile start stop (⟨start, middle⟩ :: rest)

namespace Span.Tile

variable {start middle stop : Nat} {spans others : List Span}

theorem append (h : Tile start middle spans) (h' : Tile middle stop others) :
    Tile start stop (spans ++ others) := by
  induction h with
  | nil => exact h'
  | cons hle _ ih => exact .cons hle (ih h')

theorem start_le_stop (h : Tile start stop spans) : start ≤ stop := by
  induction h with
  | nil => exact Nat.le_refl _
  | cons hle _ ih => exact Nat.le_trans hle ih

/-- Spans of one length, each a length further than the one before it. -/
theorem range (start length count : Nat) :
    Tile start (start + count * length) ((List.range count).map fun index =>
      ⟨start + index * length, start + index * length + length⟩) := by
  induction count with
  | zero =>
    rw [Nat.zero_mul]
    exact .nil
  | succ count ih =>
    rw [List.range_succ, List.map_append, Nat.succ_mul, ← Nat.add_assoc]
    exact ih.append (.cons (Nat.le_add_right ..) .nil)

end Span.Tile

/-! ## The extent of an array -/

section
variable (arith : Arithmetic) (policy : Policy)

end

namespace Field.LaidOut

variable {arith : Arithmetic} {policy : Policy} {field : Field} {placed : FieldLayout}
  {inner : Layout}

/-- The layout in a field is that of the struct that its type holds. -/
theorem exists_of_nested (h : field.LaidOut arith policy placed)
    (hn : placed.nested? = some inner) :
    ∃ struct, field.fullType.nested? = some struct ∧ struct.layout arith policy = inner :=
  Option.map_eq_some_iff.1 (h.nested ▸ hn)

theorem alignment_of_nested (h : field.LaidOut arith policy placed)
    (hn : placed.nested? = some inner) : placed.alignment = inner.alignment := by
  obtain ⟨struct, hs, rfl⟩ := h.exists_of_nested hn
  rw [h.alignment, FieldType.alignment_extent_of_nested arith policy hs]

end Field.LaidOut

/-! ## The elements that a comparison enters -/

namespace FieldLayout

section
variable (arith : Arithmetic) (field : FieldLayout) (inner : Layout)

end

section
variable {arith : Arithmetic} {field : FieldLayout} {inner : Layout}

end

end FieldLayout

end LayoutParity
