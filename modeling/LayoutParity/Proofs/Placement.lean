import LayoutParity.Proofs.Extents
import Mathlib.Order.Bounds.Basic

/-!
# The rules of a layout

A layout is computed with a cursor that moves from field to field and an alignment that grows on the
way. `Schema.Placement` says what comes of it rule by rule, with least and greatest numbers in place
of rounding and running values: each field is measured by its type and stands at the least multiple
of its alignment at which the field before it has ended, and the struct takes the greatest alignment
and the least size that suits it.

The rules leave nothing open: of exact numbers the computed layout is the only one that follows them
(`Schema.placement_iff`).
-/

namespace LayoutParity

/-! ## Rounding and the strictest alignment -/

namespace Alignment

/-- Rounding up gives the least multiple that is not before the offset. -/
theorem isLeast_roundUp (a : Alignment) (offset : Nat) :
    IsLeast {multiple | a.bytes ∣ multiple ∧ offset ≤ multiple} (a.roundUp offset) :=
  ⟨⟨a.bytes_dvd_roundUp offset, a.le_roundUp offset⟩, fun _ h => roundUp_le h.1 h.2⟩

theorem bytes_injective : Function.Injective bytes := by
  intro a b h
  have hlog : a.log = b.log := Nat.pow_right_injective (Nat.le_refl 2) h
  cases a
  cases b
  exact congrArg mk hlog

/-- One alignment is at most as strict as another if it has at most as many bytes. -/
theorem bytes_le_bytes_iff {a b : Alignment} : a.bytes ≤ b.bytes ↔ a ≤ b :=
  Nat.pow_le_pow_iff_right (by omega)

/-- The stricter of two alignments is one of them. -/
theorem max_eq_or (a b : Alignment) : max a b = a ∨ max a b = b := by
  rcases Nat.le_total a.log b.log with h | h
  · exact .inr (congrArg mk (Nat.max_eq_right h))
  · exact .inl (congrArg mk (Nat.max_eq_left h))

end Alignment

namespace FieldLayout

theorem scalar_le_strictest (fields : List FieldLayout) : .scalar ≤ strictest fields := by
  induction fields with
  | nil => exact Nat.le_refl _
  | cons field rest ih => exact Nat.le_trans ih (Alignment.le_max_right ..)

/-- The strictest alignment is a scalar's or that of some field. -/
theorem strictest_cases (fields : List FieldLayout) :
    strictest fields = .scalar ∨ ∃ field ∈ fields, field.alignment = strictest fields := by
  refine strictest_induction (motive := fun a => a = .scalar ∨ ∃ field ∈ fields,
    field.alignment = a) (.inl rfl) (fun a b ha hb => ?_) fun field hf => .inr ⟨field, hf, rfl⟩
  rcases Alignment.max_eq_or a b with h | h
  · rwa [h]
  · rwa [h]

/-- The strictest alignment is the greatest of four bytes and the alignments of the fields. -/
theorem isGreatest_strictest (fields : List FieldLayout) :
    IsGreatest (insert 4 {bytes | ∃ field ∈ fields, field.alignment.bytes = bytes})
      (strictest fields).bytes := by
  constructor
  · rcases strictest_cases fields with h | ⟨field, hf, h⟩
    · exact .inl (h ▸ Alignment.bytes_scalar)
    · exact .inr ⟨field, hf, h ▸ rfl⟩
  · rintro bytes (rfl | ⟨field, hf, rfl⟩)
    · exact Alignment.bytes_le_bytes_iff.2 (scalar_le_strictest fields)
    · exact Alignment.bytes_le_bytes_iff.2 (alignment_le_strictest hf)

/-! ## Placing one after the other -/

theorem lastFinish_eq (arith : Arithmetic) (cursor : Nat) (fields : List FieldLayout) :
    lastFinish arith cursor fields = fields.getLast?.elim cursor (finish arith) := by
  induction fields generalizing cursor with
  | nil => rfl
  | cons field rest ih =>
    rw [lastFinish, ih, List.getLast?_cons]
    cases rest.getLast? <;> rfl

/-- A field stands where it can stand first once the fields before it have ended. -/
theorem isLeast_offset_placeFrom (cursor : Nat) (blocks : List Block)
    (before : List FieldLayout) (placed : FieldLayout) (after : List FieldLayout)
    (h : placeFrom .exact cursor blocks = before ++ placed :: after) :
    IsLeast {offset | placed.alignment.bytes ∣ offset ∧ lastFinish .exact cursor before ≤ offset}
      placed.offset := by
  induction blocks generalizing cursor before with
  | nil => simp [placeFrom] at h
  | cons block rest ih =>
    rw [placeFrom] at h
    cases before with
    | nil =>
      obtain ⟨rfl, -⟩ := List.cons.inj h
      exact Alignment.isLeast_roundUp ..
    | cons first before =>
      obtain ⟨rfl, hrest⟩ := List.cons.inj h
      exact ih _ before hrest

end FieldLayout

theorem Field.LaidOut.eq_place {policy : Policy} {field : Field} {placed : FieldLayout}
    (h : field.LaidOut .exact policy placed) :
    placed = ⟨field.name, field.fullType, placed.offset, (field.fullType.extent .exact policy).size,
      (field.fullType.extent .exact policy).alignment,
      (field.fullType.extent .exact policy).nested?⟩ := by
  obtain ⟨hname, htype, hsize, halignment, hnested⟩ := h
  rw [← FieldType.nested?_extent] at hnested
  cases placed
  simp_all

/-- Fields that are measured by their types and stand where they can stand first are the ones that
are placed. -/
theorem Field.eq_placeFrom {policy : Policy} {cursor : Nat} {fields : List Field}
    {placed : List FieldLayout} (h : List.Forall₂ (Field.LaidOut .exact policy) fields placed)
    (ho : ∀ before field after, placed = before ++ field :: after →
      IsLeast {offset | field.alignment.bytes ∣ offset ∧
        FieldLayout.lastFinish .exact cursor before ≤ offset} field.offset) :
    placed = FieldLayout.placeFrom .exact cursor (fields.map (Field.block .exact policy)) := by
  induction h generalizing cursor with
  | nil => rfl
  | @cons field first fields rest hp _ ih =>
    have hoffset : first.offset =
        Arithmetic.exact.roundUp (field.fullType.extent .exact policy).alignment cursor :=
      hp.alignment ▸ (ho [] first rest rfl).unique (Alignment.isLeast_roundUp ..)
    have hrest := @ih (first.finish .exact) fun before later after he =>
      ho (first :: before) later after (congrArg (first :: ·) he)
    rw [FieldLayout.finish, hoffset, hp.size] at hrest
    have hfirst := hp.eq_place
    rw [hoffset] at hfirst
    rw [List.map_cons, Field.block_eq, FieldLayout.placeFrom, ← hrest, ← hfirst]

/-! ## The rules -/

/-- What the layout of a declaration under a policy has to be. -/
structure Schema.Placement (policy : Policy) (schema : Schema) (layout : Layout) : Prop where
  name : layout.name = schema.name
  recorded : layout.policy = policy
  /-- The fields are those of the declaration in order: each with its name, its type with the repeat
  count as an array around it, and the size and the alignment of this type. -/
  fields : List.Forall₂ (Field.LaidOut .exact policy) schema.fields layout.fields
  /-- A field has a layout in it exactly if the innermost element of its type is a struct, and it is
  the layout of this struct. -/
  nested : ∀ placed ∈ layout.fields, ∀ inner, placed.nested? = some inner ↔
    ∃ struct, placed.type.element = .struct struct ∧ struct.layout .exact policy = inner
  /-- Each field stands at the least multiple of its alignment at which the field before it, if
  there is one, has ended. -/
  offsets : ∀ before placed after, layout.fields = before ++ placed :: after →
    IsLeast {offset | placed.alignment.bytes ∣ offset ∧
      before.getLast?.elim 0 (FieldLayout.finish .exact) ≤ offset} placed.offset
  /-- The alignment is the greatest of four bytes and the alignments of the fields. -/
  alignment : IsGreatest
    (insert 4 {bytes | ∃ placed ∈ layout.fields, placed.alignment.bytes = bytes})
    layout.alignment.bytes
  dataSize : layout.dataSize = layout.fields.getLast?.elim 0 (FieldLayout.finish .exact)
  /-- The size is the least multiple of the alignment that holds the data. -/
  size : IsLeast {size | layout.alignment.bytes ∣ size ∧ layout.dataSize ≤ size} layout.size

theorem Field.LaidOut.nested?_eq_some_iff {policy : Policy} {field : Field} {placed : FieldLayout}
    (h : field.LaidOut .exact policy placed) (inner : Layout) :
    placed.nested? = some inner ↔
      ∃ struct, placed.type.element = .struct struct ∧ struct.layout .exact policy = inner := by
  rw [h.nested, h.type, Option.map_eq_some_iff]
  simp only [FieldType.nested?_eq_some_iff]

/-- Exactly one layout follows the rules for a declaration and a policy: the one that is computed
with exact numbers. -/
theorem Schema.placement_iff (policy : Policy) (schema : Schema) (layout : Layout) :
    schema.Placement policy layout ↔ layout = schema.layout .exact policy := by
  constructor
  · intro h
    have hfields : layout.fields =
        FieldLayout.placeFrom .exact 0 (schema.fields.map (Field.block .exact policy)) :=
      Field.eq_placeFrom h.fields fun before placed after he => by
        rw [FieldLayout.lastFinish_eq]
        exact h.offsets before placed after he
    have hdata : layout.dataSize = FieldLayout.lastFinish .exact 0 layout.fields :=
      h.dataSize.trans (FieldLayout.lastFinish_eq ..).symm
    have halignment : layout.alignment = FieldLayout.strictest layout.fields :=
      Alignment.bytes_injective (h.alignment.unique (FieldLayout.isGreatest_strictest _))
    have hsize : layout.size = Arithmetic.exact.roundUp layout.alignment layout.dataSize :=
      h.size.unique (Alignment.isLeast_roundUp ..)
    rw [Schema.layout_eq, ← hfields, Layout.ofFields, ← hdata, ← halignment, ← hsize, ← h.name,
      ← h.recorded]
    cases layout
    rfl
  · rintro rfl
    have hdata := schema.dataSize_eq .exact policy
    refine ⟨schema.name_layout .exact policy, schema.policy_layout .exact policy,
      schema.forall₂_laidOut .exact policy, fun placed hm => ?_,
      fun before placed after he => ?_, ?_, ?_, ?_⟩
    · obtain ⟨field, -, hp⟩ := schema.exists_of_mem_layout .exact policy hm
      exact hp.nested?_eq_some_iff
    · rw [← FieldLayout.lastFinish_eq]
      rw [Schema.fields_layout] at he
      exact FieldLayout.isLeast_offset_placeFrom 0 _ before placed after he
    · rw [Schema.layout_eq]
      exact FieldLayout.isGreatest_strictest _
    · rw [hdata, FieldLayout.lastFinish_eq]
    · rw [Schema.size_eq]
      exact Alignment.isLeast_roundUp ..

end LayoutParity
