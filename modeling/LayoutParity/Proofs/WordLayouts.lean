import LayoutParity.Catalogue
import LayoutParity.Proofs.SoundLayouts

/-!
# Layouts in 64-bit words

A layout that is computed in words has the numbers of the exact one, wrapped: this holds of the
size of every type and struct (`Schema.size_layout_eq`) and of the offset and size of every field
(`Schema.forall₂_kept`), whatever the declaration. Alignments do not depend on sizes and are the
same.

So wrapping can be seen from outside. If the exact size of a struct fits into a word
(`Schema.Fits`), nothing in the struct can have wrapped: its fields end within it, so they stand
where they do in exact numbers (`Schema.Fits.forall₂_alike`), however large the structs in arrays
without an element are. If all structs in it fit, the two layouts are one
(`Schema.layout_word_eq_exact`), and the check in words accepts it (`Schema.validate_layout_word`).
The built-in structs are among these (`Catalogue.fits`).
-/

namespace LayoutParity

/-! ## What words keep of a type -/

section
variable (arith : Arithmetic) (policy : Policy)

theorem FieldType.elementCount_eq (type : FieldType) :
    type.elementCount arith = arith.wrap (type.elementCount .exact) := by
  match type with
  | .primitive _ | .struct _ => exact (arith.wrap_of_lt (by decide : 1 < UInt64.size)).symm
  | .array inner count =>
    rw [elementCount, elementCount, inner.elementCount_eq, arith.mul_eq, arith.wrap_mul_wrap]
    rfl

theorem FieldType.alignment_extent_eq (type : FieldType) :
    (type.extent arith policy).alignment = (type.extent .exact policy).alignment :=
  type.alignment_congr arith .exact fun _ => rfl

theorem Schema.alignment_layout_eq (schema : Schema) :
    (schema.layout arith policy).alignment = (schema.layout .exact policy).alignment :=
  schema.alignment_congr arith .exact fun _ => rfl

theorem Policy.sizeOf_lt (type : Primitive) : policy.sizeOf type < UInt64.size := by
  cases policy <;> cases type <;> decide

/-- The size of a type is the exact one, wrapped, if that of the struct it holds is. -/
theorem FieldType.size_extent_eq_of_nested (type : FieldType)
    (ih : ∀ inner, type.nested? = some inner →
      (inner.layout arith policy).size = arith.wrap (inner.layout .exact policy).size) :
    (type.extent arith policy).size = arith.wrap (type.extent .exact policy).size := by
  obtain ⟨inner, hi, -⟩ | ⟨p, -, he⟩ := type.element_eq
  · rw [FieldType.size_extent_of_nested arith policy hi,
      FieldType.size_extent_of_nested .exact policy hi, ih inner hi, type.elementCount_eq arith,
      arith.mul_eq, arith.wrap_wrap_mul, arith.wrap_mul_wrap]
    rfl
  · obtain ⟨hself, -⟩ | hsize := type.size_extent_cases arith
    · rw [← hself, he]
      exact (arith.wrap_of_lt (policy.sizeOf_lt p)).symm
    · obtain ⟨hself, -⟩ | hexact := type.size_extent_cases .exact
      · -- Whether a type is its own element does not depend on how sizes are calculated.
        rw [← hself, he]
        exact (arith.wrap_of_lt (policy.sizeOf_lt p)).symm
      · rw [hsize, hexact, he, type.elementCount_eq arith, Extent.stride, Extent.stride,
          arith.roundUp_eq, arith.mul_eq, arith.wrap_wrap_mul, arith.wrap_mul_wrap]
        rfl

end

/-! ## What words keep of a field -/

/-- The extent of a block as an arithmetic keeps it. -/
structure Block.Kept (arith : Arithmetic) (block kept : Block) : Prop where
  name : kept.name = block.name
  type : kept.type = block.type
  size : kept.extent.size = arith.wrap block.extent.size
  alignment : kept.extent.alignment = block.extent.alignment

/-- A field as an arithmetic keeps it: its offset and its size are wrapped. What is nested in it is
left open. -/
structure FieldLayout.Kept (arith : Arithmetic) (field kept : FieldLayout) : Prop where
  name : kept.name = field.name
  type : kept.type = field.type
  offset : kept.offset = arith.wrap field.offset
  size : kept.size = arith.wrap field.size
  alignment : kept.alignment = field.alignment

section
variable {arith : Arithmetic}

theorem FieldLayout.Kept.finish {field kept : FieldLayout} (h : field.Kept arith kept) :
    kept.finish arith = arith.wrap (field.finish .exact) := by
  rw [FieldLayout.finish, h.offset, h.size, arith.add_eq, arith.wrap_wrap_add, arith.wrap_add_wrap]
  rfl

/-- Blocks that are kept are placed at the offsets that are kept. -/
theorem FieldLayout.forall₂_kept_placeFrom {blocks kept : List Block}
    (h : List.Forall₂ (Block.Kept arith) blocks kept) (cursor : Nat) :
    List.Forall₂ (FieldLayout.Kept arith) (placeFrom .exact cursor blocks)
      (placeFrom arith (arith.wrap cursor) kept) := by
  induction h generalizing cursor with
  | nil => exact .nil
  | @cons block other _ _ hk _ ih =>
    have hoffset : arith.roundUp other.extent.alignment (arith.wrap cursor) =
        arith.wrap (block.extent.alignment.roundUp cursor) := by
      rw [hk.alignment, arith.roundUp_wrap, arith.roundUp_eq]
    have hcursor : arith.add (arith.wrap (block.extent.alignment.roundUp cursor))
        other.extent.size =
          arith.wrap (block.extent.alignment.roundUp cursor + block.extent.size) := by
      rw [hk.size, arith.add_eq, arith.wrap_wrap_add, arith.wrap_add_wrap]
    have hrest := ih (block.extent.alignment.roundUp cursor + block.extent.size)
    rw [placeFrom, placeFrom, hoffset, hcursor]
    exact .cons ⟨hk.name, hk.type, rfl, hk.size, hk.alignment⟩ hrest

theorem FieldLayout.lastFinish_kept {fields kept : List FieldLayout}
    (h : List.Forall₂ (FieldLayout.Kept arith) fields kept) (cursor : Nat) :
    lastFinish arith (arith.wrap cursor) kept = arith.wrap (lastFinish .exact cursor fields) := by
  induction h generalizing cursor with
  | nil => rfl
  | cons hk _ ih => rw [lastFinish, lastFinish, hk.finish, ih]

end

section
variable (arith : Arithmetic) (policy : Policy)

theorem Schema.forall₂_kept_block (schema : Schema)
    (ih : ∀ inner ∈ schema.nested,
      (inner.layout arith policy).size = arith.wrap (inner.layout .exact policy).size) :
    List.Forall₂ (Block.Kept arith) (schema.fields.map (Field.block .exact policy))
      (schema.fields.map (Field.block arith policy)) := by
  refine forall₂_map_of_mem fun field hf => ?_
  rw [Field.block_eq, Field.block_eq]
  exact ⟨rfl, rfl, FieldType.size_extent_eq_of_nested arith policy _ fun inner hi =>
    ih inner (Field.mem_nested hf hi), FieldType.alignment_extent_eq ..⟩

/-- The fields of a layout are those of the exact one as they are kept, if the sizes of nested
structs are. -/
theorem Schema.forall₂_kept_of_nested (schema : Schema)
    (ih : ∀ inner ∈ schema.nested,
      (inner.layout arith policy).size = arith.wrap (inner.layout .exact policy).size) :
    List.Forall₂ (FieldLayout.Kept arith) (schema.layout .exact policy).fields
      (schema.layout arith policy).fields := by
  have h := FieldLayout.forall₂_kept_placeFrom (schema.forall₂_kept_block arith policy ih) 0
  rw [arith.wrap_zero] at h
  rwa [Schema.fields_layout, Schema.fields_layout arith]

/-- The end of a struct's last field is the exact one, wrapped, if its fields are. -/
theorem Schema.dataSize_eq_of_kept {schema : Schema}
    (h : List.Forall₂ (FieldLayout.Kept arith) (schema.layout .exact policy).fields
      (schema.layout arith policy).fields) :
    (schema.layout arith policy).dataSize = arith.wrap (schema.layout .exact policy).dataSize := by
  have hlast := FieldLayout.lastFinish_kept h 0
  rw [arith.wrap_zero] at hlast
  rw [Schema.dataSize_eq, Schema.dataSize_eq, hlast]

/-- The size of a struct is the exact one, wrapped. -/
theorem Schema.size_layout_eq (schema : Schema) :
    (schema.layout arith policy).size = arith.wrap (schema.layout .exact policy).size := by
  induction schema using Schema.nestedInduction with
  | step schema ih =>
    have hdata := Schema.dataSize_eq_of_kept arith policy
      (schema.forall₂_kept_of_nested arith policy ih)
    rw [Schema.size_eq, Schema.size_eq, Schema.alignment_layout_eq, hdata, arith.roundUp_wrap,
      arith.roundUp_eq]
    rfl

/-- Every field of a layout has the offset and the size of the exact one, wrapped. -/
theorem Schema.forall₂_kept (schema : Schema) :
    List.Forall₂ (FieldLayout.Kept arith) (schema.layout .exact policy).fields
      (schema.layout arith policy).fields :=
  schema.forall₂_kept_of_nested arith policy fun inner _ => inner.size_layout_eq arith policy

theorem Schema.dataSize_layout_eq (schema : Schema) :
    (schema.layout arith policy).dataSize = arith.wrap (schema.layout .exact policy).dataSize :=
  Schema.dataSize_eq_of_kept arith policy (schema.forall₂_kept arith policy)

end

/-! ## Structs that fit into a word -/

/-- The exact size of the struct fits into a word. -/
def Schema.Fits (policy : Policy) (schema : Schema) : Prop :=
  (schema.layout .exact policy).size < UInt64.size

instance (policy : Policy) (schema : Schema) : Decidable (schema.Fits policy) :=
  inferInstanceAs (Decidable (_ < _))

/-- A field of a layout in words that is where the exact one is, apart from what is nested in
it. -/
structure FieldLayout.Alike (field other : FieldLayout) : Prop where
  name : other.name = field.name
  type : other.type = field.type
  offset : other.offset = field.offset
  size : other.size = field.size
  alignment : other.alignment = field.alignment
  finish : other.finish .word = field.finish .exact

theorem FieldLayout.eq_of_alike {field other : FieldLayout} (h : field.Alike other)
    (hn : other.nested? = field.nested?) : field = other := by
  obtain ⟨hname, htype, hoffset, hsize, halign, -⟩ := h
  cases field
  cases other
  simp_all

theorem Layout.eq_of_members {layout other : Layout} (hname : layout.name = other.name)
    (hpolicy : layout.policy = other.policy) (hfields : layout.fields = other.fields)
    (hdata : layout.dataSize = other.dataSize) (hsize : layout.size = other.size)
    (halign : layout.alignment = other.alignment) : layout = other := by
  cases layout
  cases other
  simp_all

namespace Schema.Fits

variable {policy : Policy} {schema : Schema} (h : schema.Fits policy)
include h

theorem size : (schema.layout .word policy).size = (schema.layout .exact policy).size := by
  rw [Schema.size_layout_eq]
  exact Arithmetic.word.wrap_of_lt h

theorem dataSize :
    (schema.layout .word policy).dataSize = (schema.layout .exact policy).dataSize := by
  rw [Schema.dataSize_layout_eq]
  exact Arithmetic.word.wrap_of_lt (Nat.lt_of_le_of_lt (schema.dataSize_le_size policy) h)

/-- A field ends within its struct, so it fits too. -/
theorem finish_lt {placed : FieldLayout} (hm : placed ∈ (schema.layout .exact policy).fields) :
    placed.finish .exact < UInt64.size :=
  Nat.lt_of_le_of_lt ((schema.sound_layout policy).within placed hm) h

/-- The fields of a struct that fits are where they are in exact numbers. -/
theorem forall₂_alike :
    List.Forall₂ FieldLayout.Alike (schema.layout .exact policy).fields
      (schema.layout .word policy).fields := by
  have hkept := (List.forall₂_and_left _ _).2
    ⟨fun _ hm => h.finish_lt hm, schema.forall₂_kept .word policy⟩
  refine hkept.imp fun placed other ⟨hlt, hk⟩ => ?_
  have hfinish : placed.finish .exact = placed.offset + placed.size := rfl
  exact {
    name := hk.name
    type := hk.type
    offset := hk.offset.trans (Arithmetic.word.wrap_of_lt (by omega))
    size := hk.size.trans (Arithmetic.word.wrap_of_lt (by omega))
    alignment := hk.alignment
    finish := hk.finish.trans (Arithmetic.word.wrap_of_lt hlt) }

/-- The type of a field in a struct that fits is no larger. -/
theorem size_extent_lt {field : Field} (hf : field ∈ schema.fields) :
    (field.fullType.extent .exact policy).size < UInt64.size := by
  obtain ⟨placed, hm, hp⟩ := schema.exists_laidOut .exact policy hf
  have hfinish : placed.finish .exact = placed.offset + placed.size := rfl
  have hlt := h.finish_lt hm
  rw [← hp.size]
  omega

/-- A struct that is held at least once fits if the struct around it does. -/
theorem of_nested {field : Field} (hf : field ∈ schema.fields) {inner : Schema}
    (hi : field.fullType.nested? = some inner) (hc : 0 < field.fullType.elementCount .exact) :
    inner.Fits policy := by
  have hlt := h.size_extent_lt hf
  rw [FieldType.size_extent_of_nested .exact policy hi] at hlt
  exact Nat.lt_of_le_of_lt (Nat.le_mul_of_pos_left _ hc) hlt

end Schema.Fits

/-- Where every struct in a declaration fits into a word, nothing overflows: the layout in words is
the exact one. -/
theorem Schema.layout_word_eq_exact {policy : Policy} {schema : Schema}
    (h : ∀ struct ∈ schema.structs, struct.Fits policy) :
    schema.layout .word policy = schema.layout .exact policy := by
  induction schema using Schema.nestedInduction with
  | step schema ih =>
    have hself : schema.Fits policy := h schema schema.self_mem_structs
    have hfields : (schema.layout .exact policy).fields = (schema.layout .word policy).fields := by
      rw [← List.forall₂_eq_eq_eq]
      refine List.Forall₂.mp ?_ hself.forall₂_alike (forall₂_of_common
        (schema.forall₂_laidOut .exact policy) (schema.forall₂_laidOut .word policy))
      rintro placed other ha ⟨field, hf, hp, ho⟩
      have hnested : other.nested? = placed.nested? := by
        rw [hp.nested, ho.nested]
        refine Option.map_congr fun inner hi => ?_
        have hi := Field.mem_nested hf hi
        exact ih inner hi fun struct hs => h struct (Schema.mem_structs_of_nested hi hs)
      exact FieldLayout.eq_of_alike ha hnested
    have hname : (schema.layout .word policy).name = (schema.layout .exact policy).name := by
      rw [Schema.name_layout, Schema.name_layout]
    have hpolicy : (schema.layout .word policy).policy = (schema.layout .exact policy).policy := by
      rw [Schema.policy_layout, Schema.policy_layout]
    exact Layout.eq_of_members hname hpolicy hfields.symm hself.dataSize hself.size
      (schema.alignment_layout_eq .word policy)

/-! ## Accepted layouts in words -/

/-- Fields that end at the same offsets in words have the same first defect. -/
theorem FieldLayout.firstDefect?_word {alignment : Alignment} {fields : List FieldLayout}
    (h : ∀ field ∈ fields, field.finish .word = field.finish .exact) (previousEnd : Nat) :
    firstDefect? .word alignment previousEnd fields =
      firstDefect? .exact alignment previousEnd fields := by
  induction fields generalizing previousEnd with
  | nil => rfl
  | cons field rest ih =>
    obtain ⟨hfield, hrest⟩ := List.forall_mem_cons.1 h
    rw [firstDefect?, firstDefect?, hfield, ih hrest]

theorem FieldLayout.lastFinish_word {fields : List FieldLayout}
    (h : ∀ field ∈ fields, field.finish .word = field.finish .exact) (cursor : Nat) :
    lastFinish .word cursor fields = lastFinish .exact cursor fields := by
  induction fields generalizing cursor with
  | nil => rfl
  | cons field rest ih =>
    obtain ⟨hfield, hrest⟩ := List.forall_mem_cons.1 h
    rw [lastFinish, lastFinish, hfield, ih hrest]

theorem Layout.validateOwn_word {layout : Layout}
    (h : ∀ field ∈ layout.fields, field.finish .word = field.finish .exact) :
    layout.validateOwn .word = layout.validateOwn .exact := by
  rw [validateOwn, validateOwn, ownDefect?, ownDefect?, FieldLayout.firstDefect?_word h,
    FieldLayout.lastFinish_word h]

/-- A field of a struct that fits ends where it does in exact numbers. -/
theorem Schema.Fits.finish_word {policy : Policy} {schema : Schema} (h : schema.Fits policy)
    {placed : FieldLayout} (hm : placed ∈ (schema.layout .exact policy).fields) :
    placed.finish .word = placed.finish .exact := by
  rw [FieldLayout.finish, Arithmetic.add_eq]
  exact Arithmetic.word.wrap_of_lt (h.finish_lt hm)

/-- Where every struct in a declaration fits into a word, the check in words accepts the layout in
words. -/
theorem Schema.validate_layout_word {policy : Policy} {schema : Schema}
    (h : ∀ struct ∈ schema.structs, struct.Fits policy) :
    (schema.layout .word policy).validate .word = .ok () := by
  rw [Schema.layout_word_eq_exact h, Layout.validate_eq_forM, Check.forM_eq_ok_iff,
    Schema.layouts_layout]
  refine List.forall_mem_map.2 fun struct hs => ?_
  rw [Layout.validateOwn_word fun _ hm => (h struct hs).finish_word hm]
  exact (Layout.validateOwn_eq_ok_iff _).2 (struct.sound_layout policy)

/-- Every built-in struct, and every struct in one, fits into a word. -/
theorem Catalogue.fits (policy : Policy) :
    ∀ schema ∈ Catalogue.schemas, ∀ struct ∈ schema.structs, struct.Fits policy := by
  cases policy <;> decide

end LayoutParity
