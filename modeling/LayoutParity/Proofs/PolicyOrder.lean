import LayoutParity.Proofs.Extents

/-!
# Policies in order

The policies are ordered by the room that they give register vectors: `natural`, then
`deviceVector`, then `simdVector`. A wider policy gives every primitive at least the size and the
alignment of a narrower one, and placing blocks is monotone, so it places no field earlier, makes
no field smaller and no struct smaller or less aligned (`Schema.noWider_layout`).
-/

namespace LayoutParity

/-- The place of a policy in the order, the tightest first. -/
def Policy.width : Policy → Nat
  | natural => 0
  | deviceVector => 1
  | simdVector => 2

instance : LE Policy := ⟨fun narrow wide => narrow.width ≤ wide.width⟩

instance (narrow wide : Policy) : Decidable (narrow ≤ wide) :=
  inferInstanceAs (Decidable (narrow.width ≤ wide.width))

theorem Policy.natural_le (policy : Policy) : natural ≤ policy :=
  Nat.zero_le policy.width

theorem Policy.alignmentOf_mono {narrow wide : Policy} (h : narrow ≤ wide) (type : Primitive) :
    narrow.alignmentOf type ≤ wide.alignmentOf type := by
  cases narrow <;> cases wide <;> first | exact absurd h (by decide) | cases type <;> decide

theorem Policy.sizeOf_mono {narrow wide : Policy} (h : narrow ≤ wide) (type : Primitive) :
    narrow.sizeOf type ≤ wide.sizeOf type := by
  cases narrow <;> cases wide <;> first | exact absurd h (by decide) | cases type <;> decide

/-- An extent that is neither larger nor more aligned than another. -/
structure Extent.NoWider (extent other : Extent) : Prop where
  size : extent.size ≤ other.size
  alignment : extent.alignment ≤ other.alignment

/-- A field that is placed no later than another, and is neither larger nor more aligned. -/
structure FieldLayout.NoLater (placed other : FieldLayout) : Prop where
  offset : placed.offset ≤ other.offset
  size : placed.size ≤ other.size
  alignment : placed.alignment ≤ other.alignment

/-! ## Placing is monotone -/

theorem FieldLayout.forall₂_noLater_placeFrom {blocks others : List Block}
    (h : List.Forall₂ (fun block other => block.extent.NoWider other.extent) blocks others)
    {cursor later : Nat} (hc : cursor ≤ later) :
    List.Forall₂ FieldLayout.NoLater (placeFrom .exact cursor blocks)
      (placeFrom .exact later others) := by
  induction h generalizing cursor later with
  | nil => exact .nil
  | cons hw _ ih =>
    have ho := Alignment.roundUp_mono hw.alignment hc
    exact .cons ⟨ho, hw.size, hw.alignment⟩ (ih (Nat.add_le_add ho hw.size))

theorem FieldLayout.lastFinish_mono {fields others : List FieldLayout}
    (h : List.Forall₂ FieldLayout.NoLater fields others) {cursor later : Nat}
    (hc : cursor ≤ later) : lastFinish .exact cursor fields ≤ lastFinish .exact later others := by
  induction h generalizing cursor later with
  | nil => exact hc
  | cons hl _ ih => exact ih (Nat.add_le_add hl.offset hl.size)

theorem FieldLayout.strictest_mono {fields others : List FieldLayout}
    (h : List.Forall₂ FieldLayout.NoLater fields others) : strictest fields ≤ strictest others := by
  induction h with
  | nil => exact Nat.le_refl _
  | cons hl _ ih => exact Alignment.max_mono hl.alignment ih

/-! ## A wider policy gives every type and struct more room -/

section
variable {narrow wide : Policy} (h : narrow ≤ wide)
include h

theorem FieldType.noWider_extent (type : FieldType)
    (ih : ∀ inner, type.nested? = some inner →
      (Extent.ofLayout (inner.layout .exact narrow)).NoWider
        (.ofLayout (inner.layout .exact wide))) :
    (type.extent .exact narrow).NoWider (type.extent .exact wide) := by
  have helement :
      (type.element.extent .exact narrow).NoWider (type.element.extent .exact wide) := by
    obtain ⟨inner, hi, he⟩ | ⟨p, -, he⟩ := type.element_eq
    · rw [he]
      exact ih inner hi
    · rw [he]
      exact ⟨Policy.sizeOf_mono h p, Policy.alignmentOf_mono h p⟩
  refine ⟨?_, ?_⟩
  · obtain ⟨hself, -⟩ | hsize := type.size_extent_cases .exact
    · rw [hself] at helement
      exact helement.size
    · rw [hsize, hsize]
      exact Nat.mul_le_mul_left _ (Alignment.roundUp_mono helement.alignment helement.size)
  · rw [FieldType.alignment_extent, FieldType.alignment_extent .exact wide]
    exact helement.alignment

theorem Schema.forall₂_noWider_block (schema : Schema)
    (ih : ∀ inner ∈ schema.nested,
      (Extent.ofLayout (inner.layout .exact narrow)).NoWider
        (.ofLayout (inner.layout .exact wide))) :
    List.Forall₂ (fun block other => block.extent.NoWider other.extent)
      (schema.fields.map (Field.block .exact narrow))
      (schema.fields.map (Field.block .exact wide)) := by
  refine forall₂_map_of_mem fun field hf => ?_
  rw [Field.extent_block, Field.extent_block]
  exact FieldType.noWider_extent h _ fun inner hi => ih inner (Field.mem_nested hf hi)

/-- A struct is neither larger nor more aligned under a narrower policy. -/
theorem Schema.noWider_layout (schema : Schema) :
    (Extent.ofLayout (schema.layout .exact narrow)).NoWider
      (.ofLayout (schema.layout .exact wide)) := by
  induction schema using Schema.nestedInduction with
  | step schema ih =>
    have hl := FieldLayout.forall₂_noLater_placeFrom (schema.forall₂_noWider_block h ih)
      (Nat.le_refl 0)
    rw [Schema.layout_eq, Schema.layout_eq .exact wide]
    have ha := FieldLayout.strictest_mono hl
    exact ⟨Alignment.roundUp_mono ha (FieldLayout.lastFinish_mono hl (Nat.le_refl 0)), ha⟩

end

end LayoutParity
