import LayoutParity.Layout.OfSchema
import LayoutParity.Proofs.Structs
import LayoutParity.Proofs.Wrapping
import Mathlib.Data.List.Forall2

/-!
# What a computed layout says of its fields

A type is its innermost element, or takes the element's stride as often as it holds the element
(`FieldType.size_extent_cases`): the arrays around an element neither add bytes between its copies
nor change its alignment. A struct's size is a multiple of its alignment, so structs in an array
stand a struct's size apart (`FieldType.size_extent_of_nested`).

A struct takes the strictest alignment in it, so what holds of the alignments of primitives holds of
every alignment (`Schema.alignment_induction`): each is a scalar's or a register's. Alignments
depend on those of the primitives alone (`Schema.alignment_congr`), not on any size.

`Field.LaidOut` says everything about a field of a computed layout except where it stands, and
`Schema.forall₂_laidOut` that the fields of a layout are those of the declaration in order. Later
proofs go through these two and do not open the computation.
-/

namespace LayoutParity

/-! ## Alignments -/

namespace Alignment

/-- Of two powers of two the smaller divides the larger. -/
theorem bytes_dvd_bytes {a b : Alignment} (h : a ≤ b) : a.bytes ∣ b.bytes :=
  Nat.pow_dvd_pow 2 h

theorem roundUp_mono {a b : Alignment} {x y : Nat} (h : a ≤ b) (hxy : x ≤ y) :
    a.roundUp x ≤ b.roundUp y :=
  roundUp_le (Nat.dvd_trans (bytes_dvd_bytes h) (b.bytes_dvd_roundUp y))
    (Nat.le_trans hxy (b.le_roundUp y))

/-- Rounding up moves by less than the alignment. -/
theorem roundUp_lt (a : Alignment) (offset : Nat) : a.roundUp offset < offset + a.bytes := by
  have hle := Nat.div_mul_le_self (offset + (a.bytes - 1)) a.bytes
  have hpos := a.bytes_pos
  unfold roundUp
  omega

theorem le_max_left (a b : Alignment) : a ≤ max a b :=
  Nat.le_max_left a.log b.log

theorem le_max_right (a b : Alignment) : b ≤ max a b :=
  Nat.le_max_right a.log b.log

theorem max_mono {a b c d : Alignment} (hab : a ≤ b) (hcd : c ≤ d) : max a c ≤ max b d := by
  have : a.log ≤ b.log := hab
  have : c.log ≤ d.log := hcd
  show max a.log c.log ≤ max b.log d.log
  omega

end Alignment

/-! ## Innermost elements -/

section
variable (arith : Arithmetic) (policy : Policy)

namespace FieldType

/-- The element of a type is the struct it holds in the end, or else a primitive. -/
theorem element_eq (type : FieldType) :
    (∃ schema, type.nested? = some schema ∧ type.element = .struct schema) ∨
      ∃ p, type.nested? = none ∧ type.element = .primitive p := by
  match type with
  | primitive p => exact .inr ⟨p, rfl, rfl⟩
  | struct schema => exact .inl ⟨schema, rfl, rfl⟩
  | array inner _ => exact element_eq inner

theorem element_of_nested {type : FieldType} {schema : Schema} (h : type.nested? = some schema) :
    type.element = .struct schema := by
  obtain ⟨other, ho, he⟩ | ⟨p, ho, -⟩ := type.element_eq <;> rw [h] at ho <;> cases ho
  exact he

/-- A repeat count does not change what a type holds in the end. -/
theorem nested?_repeated (type : FieldType) (count? : Option Nat) :
    (type.repeated count?).nested? = type.nested? := by
  cases count? <;> rfl

/-! ## The extent of a type is that of its element -/

theorem alignment_extent (type : FieldType) :
    (type.extent arith policy).alignment = (type.element.extent arith policy).alignment := by
  match type with
  | primitive _ | struct _ => rfl
  | array inner _ => exact alignment_extent inner

/-- The layout inside a type is that of the struct it holds in the end. -/
theorem nested?_extent (type : FieldType) :
    (type.extent arith policy).nested? = type.nested?.map (Schema.layout arith policy) := by
  match type with
  | primitive _ | struct _ => rfl
  | array inner _ => exact nested?_extent inner

/-- A type is its own element, held once, or an array, which takes its element's stride for each
element however many dimensions it has. -/
theorem size_extent_cases (type : FieldType) :
    (type.element = type ∧ type.elementCount arith = 1) ∨ ∀ policy : Policy,
      (type.extent arith policy).size =
        arith.mul (type.elementCount arith) ((type.element.extent arith policy).stride arith) := by
  match type with
  | primitive _ | struct _ => exact .inl ⟨rfl, rfl⟩
  | array inner count =>
    refine .inr fun policy => ?_
    -- The stride of the inner type is its size if it is an array again, since its size is made of
    -- strides already.
    have hstride : (inner.extent arith policy).stride arith =
        arith.mul (inner.elementCount arith)
          ((inner.element.extent arith policy).stride arith) := by
      obtain ⟨he, hc⟩ | hsize := size_extent_cases inner
      · rw [he, hc, arith.one_mul]
        exact (arith.wrap_roundUp ..).symm
      · rw [Extent.stride, alignment_extent, hsize]
        exact (arith.roundUp_of_dvd (arith.bytes_dvd_mul _ (arith.bytes_dvd_roundUp ..))).trans
          (arith.wrap_mul ..)
    show arith.mul ((inner.extent arith policy).stride arith) count =
      arith.mul (arith.mul count (inner.elementCount arith)) _
    rw [hstride, element, arith.mul_comm _ count, arith.mul_assoc]

end FieldType

/-! ## The size of a struct -/

theorem Schema.layout_eq (schema : Schema) :
    schema.layout arith policy = .ofFields arith schema.name policy
      (FieldLayout.placeFrom arith 0 (schema.fields.map (Field.block arith policy))) := by
  cases schema
  rw [Schema.layout, Field.blocks_eq_map]

theorem Schema.fields_layout (schema : Schema) :
    (schema.layout arith policy).fields =
      FieldLayout.placeFrom arith 0 (schema.fields.map (Field.block arith policy)) := by
  rw [Schema.layout_eq]
  rfl

theorem Schema.dataSize_eq (schema : Schema) :
    (schema.layout arith policy).dataSize =
      FieldLayout.lastFinish arith 0 (schema.layout arith policy).fields := by
  rw [Schema.layout_eq]
  rfl

theorem Schema.size_eq (schema : Schema) :
    (schema.layout arith policy).size =
      arith.roundUp (schema.layout arith policy).alignment
        (schema.layout arith policy).dataSize := by
  rw [Schema.layout_eq]
  rfl

theorem Schema.dataSize_le_size (schema : Schema) :
    (schema.layout .exact policy).dataSize ≤ (schema.layout .exact policy).size := by
  rw [Schema.size_eq]
  exact Alignment.le_roundUp ..

/-- The size of a struct is a multiple of its alignment. -/
theorem Schema.alignment_dvd_size (schema : Schema) :
    (schema.layout arith policy).alignment.bytes ∣ (schema.layout arith policy).size := by
  rw [Schema.size_eq]
  exact arith.bytes_dvd_roundUp ..

theorem Schema.wrap_size (schema : Schema) :
    arith.wrap (schema.layout arith policy).size = (schema.layout arith policy).size := by
  rw [Schema.size_eq]
  exact arith.wrap_roundUp ..

theorem Schema.stride_extent (schema : Schema) :
    ((FieldType.struct schema).extent arith policy).stride arith =
      (schema.layout arith policy).size := by
  rw [Extent.stride]
  exact (arith.roundUp_of_dvd (schema.alignment_dvd_size arith policy)).trans
    (schema.wrap_size arith policy)

/-- A type that holds a struct in the end takes the struct's size for each of them. -/
theorem FieldType.size_extent_of_nested {type : FieldType} {schema : Schema}
    (h : type.nested? = some schema) :
    (type.extent arith policy).size =
      arith.mul (type.elementCount arith) (schema.layout arith policy).size := by
  have he := FieldType.element_of_nested h
  obtain ⟨hself, hc⟩ | hsize := type.size_extent_cases arith
  · rw [hself] at he
    rw [hc, he, arith.one_mul, schema.wrap_size arith policy]
    rfl
  · rw [hsize, he, Schema.stride_extent]

theorem FieldType.alignment_extent_of_nested {type : FieldType} {schema : Schema}
    (h : type.nested? = some schema) :
    (type.extent arith policy).alignment = (schema.layout arith policy).alignment := by
  rw [FieldType.alignment_extent, FieldType.element_of_nested h]
  rfl

/-! ## The fields of a computed layout -/

theorem Schema.name_layout (schema : Schema) :
    (schema.layout arith policy).name = schema.name := by
  rw [Schema.layout_eq]
  rfl

theorem Schema.policy_layout (schema : Schema) :
    (schema.layout arith policy).policy = policy := by
  rw [Schema.layout_eq]
  rfl

theorem Field.nested?_fullType (field : Field) : field.fullType.nested? = field.type.nested? :=
  FieldType.nested?_repeated ..

theorem Field.mem_nested {schema inner : Schema} {field : Field} (hf : field ∈ schema.fields)
    (h : field.fullType.nested? = some inner) : inner ∈ schema.nested :=
  List.mem_filterMap.2 ⟨field, hf, field.nested?_fullType ▸ h⟩

theorem Field.block_eq (field : Field) :
    field.block arith policy =
      ⟨field.name, field.fullType, field.fullType.extent arith policy⟩ := by
  rw [← Field.extent_block]
  cases field
  rfl

/-- What a computed layout says of a field, apart from where it stands. -/
structure Field.LaidOut (arith : Arithmetic) (policy : Policy) (field : Field)
    (placed : FieldLayout) : Prop where
  name : placed.name = field.name
  type : placed.type = field.fullType
  size : placed.size = (field.fullType.extent arith policy).size
  alignment : placed.alignment = (field.fullType.extent arith policy).alignment
  nested : placed.nested? = field.fullType.nested?.map (Schema.layout arith policy)

/-- A field is laid out wherever it is placed. -/
theorem Field.laidOut_place (field : Field) (offset : Nat) :
    field.LaidOut arith policy ⟨field.name, field.fullType, offset,
      (field.fullType.extent arith policy).size, (field.fullType.extent arith policy).alignment,
      (field.fullType.extent arith policy).nested?⟩ :=
  ⟨rfl, rfl, rfl, rfl, FieldType.nested?_extent ..⟩

theorem Field.forall₂_laidOut_placeFrom (cursor : Nat) (fields : List Field) :
    List.Forall₂ (Field.LaidOut arith policy) fields
      (FieldLayout.placeFrom arith cursor (fields.map (Field.block arith policy))) := by
  induction fields generalizing cursor with
  | nil => exact .nil
  | cons field rest ih =>
    rw [List.map_cons, Field.block_eq, FieldLayout.placeFrom]
    exact .cons (field.laidOut_place arith policy _) (ih _)

/-- A layout has the fields of its declaration in order. -/
theorem Schema.forall₂_laidOut (schema : Schema) :
    List.Forall₂ (Field.LaidOut arith policy) schema.fields
      (schema.layout arith policy).fields := by
  rw [Schema.fields_layout]
  exact Field.forall₂_laidOut_placeFrom ..

/-- A member of the second of two related lists has its partner in the first. -/
theorem exists_of_forall₂ {α β : Type} {R : α → β → Prop} {members : List α} {others : List β}
    (h : List.Forall₂ R members others) {other : β} (hm : other ∈ others) :
    ∃ member ∈ members, R member other := by
  induction h with
  | nil => cases hm
  | cons hr _ ih =>
    rcases List.mem_cons.1 hm with rfl | hm
    · exact ⟨_, .head _, hr⟩
    · obtain ⟨member, hm, hr⟩ := ih hm
      exact ⟨member, .tail _ hm, hr⟩

/-- Lists built from related members in the same way are equal. -/
theorem flatMap_eq_of_forall₂ {α β γ : Type} {f : α → List γ} {g : β → List γ} {members : List α}
    {others : List β} (h : List.Forall₂ (fun member other => f member = g other) members others) :
    members.flatMap f = others.flatMap g := by
  induction h with
  | nil => rfl
  | cons he _ ih => rw [List.flatMap_cons, List.flatMap_cons, he, ih]

/-- Two lists that are related to the same members are related through them. -/
theorem forall₂_of_common {α β γ : Type} {R : α → β → Prop} {S : α → γ → Prop} {members : List α}
    {images : List β} {others : List γ} (h : List.Forall₂ R members images)
    (h' : List.Forall₂ S members others) :
    List.Forall₂ (fun image other => ∃ member ∈ members, R member image ∧ S member other)
      images others := by
  induction h generalizing others with
  | nil =>
    cases h'
    exact .nil
  | @cons member _ _ _ hr _ ih =>
    cases h' with
    | cons hs h' =>
      refine .cons ⟨member, .head _, hr, hs⟩ ((ih h').imp ?_)
      rintro image other ⟨member, hm, hrelated⟩
      exact ⟨member, .tail _ hm, hrelated⟩

/-- Lists of members with the same images in order have the same image. -/
theorem map_eq_of_forall₂ {α β γ : Type} {f : α → γ} {g : β → γ} {members : List α}
    {others : List β} (h : List.Forall₂ (fun member other => f member = g other) members others) :
    members.map f = others.map g := by
  rw [← List.forall₂_eq_eq_eq, List.forall₂_map_left_iff, List.forall₂_map_right_iff]
  exact h

/-- Two images of a list are related if the images of each member are. -/
theorem forall₂_map_of_mem {α β γ : Type} {R : β → γ → Prop} {f : α → β} {g : α → γ}
    {members : List α} (h : ∀ member ∈ members, R (f member) (g member)) :
    List.Forall₂ R (members.map f) (members.map g) := by
  rw [List.forall₂_map_left_iff, List.forall₂_map_right_iff]
  exact List.forall₂_same.2 h

theorem Schema.names_layout (schema : Schema) :
    (schema.layout arith policy).fields.map (·.name) = schema.fields.map (·.name) := by
  refine (map_eq_of_forall₂ ((schema.forall₂_laidOut arith policy).imp ?_)).symm
  intro field placed hp
  exact hp.name.symm

/-- The layouts of a declaration under two policies lay out the same fields in the same order. -/
theorem Schema.forall₂_laidOut_both (host device : Policy) (schema : Schema) :
    List.Forall₂ (fun placed other =>
      ∃ field ∈ schema.fields, field.LaidOut arith host placed ∧ field.LaidOut arith device other)
      (schema.layout arith host).fields (schema.layout arith device).fields :=
  forall₂_of_common (schema.forall₂_laidOut arith host) (schema.forall₂_laidOut arith device)

/-- A field is no more aligned than its struct. -/
theorem FieldLayout.alignment_le_strictest {fields : List FieldLayout} {field : FieldLayout}
    (h : field ∈ fields) : field.alignment ≤ FieldLayout.strictest fields := by
  induction fields with
  | nil => cases h
  | cons first rest ih =>
    rcases List.mem_cons.1 h with rfl | h
    · exact Alignment.le_max_left ..
    · exact Nat.le_trans (ih h) (Alignment.le_max_right ..)

theorem Schema.field_alignment_le (schema : Schema) {placed : FieldLayout}
    (h : placed ∈ (schema.layout arith policy).fields) :
    placed.alignment ≤ (schema.layout arith policy).alignment := by
  rw [Schema.layout_eq] at h ⊢
  exact FieldLayout.alignment_le_strictest h

/-- Every field of a layout is one of the declaration. -/
theorem Schema.exists_of_mem_layout {schema : Schema} {placed : FieldLayout}
    (hm : placed ∈ (schema.layout arith policy).fields) :
    ∃ field ∈ schema.fields, field.LaidOut arith policy placed :=
  exists_of_forall₂ (schema.forall₂_laidOut arith policy) hm

/-- Every field of the declaration is laid out. -/
theorem Schema.exists_laidOut {schema : Schema} {field : Field}
    (hf : field ∈ schema.fields) :
    ∃ placed ∈ (schema.layout arith policy).fields, field.LaidOut arith policy placed :=
  exists_of_forall₂ (schema.forall₂_laidOut arith policy).flip hf

theorem Schema.alignment_extent_le {schema : Schema} {field : Field}
    (hf : field ∈ schema.fields) :
    (field.fullType.extent arith policy).alignment ≤ (schema.layout arith policy).alignment := by
  obtain ⟨placed, hm, hp⟩ := schema.exists_laidOut arith policy hf
  exact hp.alignment ▸ schema.field_alignment_le arith policy hm

end

/-! ## Where fields end and how they are aligned is read off each field -/

theorem FieldLayout.lastFinish_map {arith : Arithmetic} {change : FieldLayout → FieldLayout}
    (h : ∀ field, (change field).finish arith = field.finish arith) (cursor : Nat)
    (fields : List FieldLayout) :
    lastFinish arith cursor (fields.map change) = lastFinish arith cursor fields := by
  induction fields generalizing cursor with
  | nil => rfl
  | cons field rest ih => rw [List.map_cons, lastFinish, lastFinish, h, ih]

theorem FieldLayout.strictest_map {change : FieldLayout → FieldLayout}
    (h : ∀ field, (change field).alignment = field.alignment) (fields : List FieldLayout) :
    strictest (fields.map change) = strictest fields := by
  simp only [strictest, List.foldr_map, h]

/-! ## Every alignment is one of a primitive, or a scalar's -/

/-- What holds of a scalar's alignment and of each field's holds of the strictest. -/
theorem FieldLayout.strictest_induction {motive : Alignment → Prop} (hscalar : motive .scalar)
    (hmax : ∀ a b, motive a → motive b → motive (max a b)) {fields : List FieldLayout}
    (hfields : ∀ field ∈ fields, motive field.alignment) :
    motive (FieldLayout.strictest fields) := by
  induction fields with
  | nil => exact hscalar
  | cons field rest ih =>
    have hrest := ih fun other ho => hfields other (.tail _ ho)
    exact hmax _ _ (hfields field (.head _)) hrest

section
variable {motive : Alignment → Prop} {arith : Arithmetic} {policy : Policy}
  (hprimitive : ∀ type, motive (policy.alignmentOf type))
include hprimitive

/-- What holds of the alignment of each primitive holds of a type's, if it holds of that of the
struct the type holds. -/
theorem FieldType.alignment_of_nested (type : FieldType)
    (ih : ∀ inner, type.nested? = some inner → motive (inner.layout arith policy).alignment) :
    motive (type.extent arith policy).alignment := by
  obtain ⟨inner, hi, -⟩ | ⟨p, -, he⟩ := type.element_eq
  · rw [FieldType.alignment_extent_of_nested arith policy hi]
    exact ih inner hi
  · rw [FieldType.alignment_extent, he]
    exact hprimitive p

variable (hscalar : motive .scalar) (hmax : ∀ a b, motive a → motive b → motive (max a b))
include hscalar hmax

/-- What holds of the alignments of primitives, and of the stricter of any two, holds of every
struct's. -/
theorem Schema.alignment_induction (schema : Schema) :
    motive (schema.layout arith policy).alignment := by
  induction schema using Schema.nestedInduction with
  | step schema ih =>
    have hfields : ∀ placed ∈ (schema.layout arith policy).fields, motive placed.alignment := by
      intro placed hm
      obtain ⟨field, hf, hp⟩ := schema.exists_of_mem_layout arith policy hm
      rw [hp.alignment]
      exact FieldType.alignment_of_nested hprimitive _ fun inner hi =>
        ih inner (Field.mem_nested hf hi)
    rw [Schema.layout_eq] at hfields ⊢
    exact FieldLayout.strictest_induction hscalar hmax hfields

theorem FieldType.alignment_induction (type : FieldType) :
    motive (type.extent arith policy).alignment :=
  FieldType.alignment_of_nested hprimitive type fun inner _ =>
    inner.alignment_induction hprimitive hscalar hmax

end

/-- Every alignment is a scalar's or a register's. -/
theorem Policy.alignmentOf_cases (policy : Policy) (type : Primitive) :
    policy.alignmentOf type = .scalar ∨ policy.alignmentOf type = .vector := by
  cases policy <;> cases type <;> decide

theorem Alignment.max_cases (a b : Alignment) (ha : a = .scalar ∨ a = .vector)
    (hb : b = .scalar ∨ b = .vector) : max a b = .scalar ∨ max a b = .vector := by
  rcases ha with rfl | rfl <;> rcases hb with rfl | rfl <;> decide

theorem Schema.alignment_cases (arith : Arithmetic) (policy : Policy) (schema : Schema) :
    (schema.layout arith policy).alignment = .scalar ∨
      (schema.layout arith policy).alignment = .vector :=
  schema.alignment_induction policy.alignmentOf_cases (.inl rfl) Alignment.max_cases

theorem FieldType.alignment_cases (arith : Arithmetic) (policy : Policy) (type : FieldType) :
    (type.extent arith policy).alignment = .scalar ∨
      (type.extent arith policy).alignment = .vector :=
  type.alignment_induction policy.alignmentOf_cases (.inl rfl) Alignment.max_cases

/-! ## Alignments depend on those of the primitives -/

theorem Schema.alignments_fields (arith : Arithmetic) (policy : Policy) (schema : Schema) :
    (schema.layout arith policy).fields.map (·.alignment) =
      schema.fields.map fun field => (field.fullType.extent arith policy).alignment := by
  refine (map_eq_of_forall₂ ((schema.forall₂_laidOut arith policy).imp ?_)).symm
  intro field placed hp
  exact hp.alignment.symm

/-- The alignment of a struct is the strictest of its fields' and a scalar's. -/
theorem Schema.alignment_eq (arith : Arithmetic) (policy : Policy) (schema : Schema) :
    (schema.layout arith policy).alignment =
      (schema.fields.map fun field => (field.fullType.extent arith policy).alignment).foldr max
        .scalar := by
  rw [← Schema.alignments_fields, Schema.layout_eq, List.foldr_map]
  rfl

section
variable (arith arith' : Arithmetic) {policy other : Policy}
  (hprimitive : ∀ type, policy.alignmentOf type = other.alignmentOf type)
include hprimitive

/-- Policies that align all primitives alike align a type alike, if they do the struct it holds. -/
theorem FieldType.alignment_congr_of_nested (type : FieldType)
    (ih : ∀ inner, type.nested? = some inner →
      (inner.layout arith policy).alignment = (inner.layout arith' other).alignment) :
    (type.extent arith policy).alignment = (type.extent arith' other).alignment := by
  obtain ⟨inner, hi, -⟩ | ⟨p, -, he⟩ := type.element_eq
  · rw [FieldType.alignment_extent_of_nested arith policy hi,
      FieldType.alignment_extent_of_nested arith' other hi]
    exact ih inner hi
  · rw [FieldType.alignment_extent, FieldType.alignment_extent arith' other, he]
    exact hprimitive p

/-- Policies that align all primitives alike align all structs alike, whichever way sizes are
calculated. -/
theorem Schema.alignment_congr (schema : Schema) :
    (schema.layout arith policy).alignment = (schema.layout arith' other).alignment := by
  induction schema using Schema.nestedInduction with
  | step schema ih =>
    rw [Schema.alignment_eq, Schema.alignment_eq arith' other]
    congr 1
    refine List.map_congr_left fun field hf => ?_
    exact FieldType.alignment_congr_of_nested arith arith' hprimitive _ fun inner hi =>
      ih inner (Field.mem_nested hf hi)

theorem FieldType.alignment_congr (type : FieldType) :
    (type.extent arith policy).alignment = (type.extent arith' other).alignment :=
  FieldType.alignment_congr_of_nested arith arith' hprimitive type fun inner _ =>
    inner.alignment_congr arith arith' hprimitive

end

/-! ## A scalar is the unit of every layout -/

theorem Alignment.scalar_le {a : Alignment} (h : a = .scalar ∨ a = .vector) : .scalar ≤ a := by
  rcases h with rfl | rfl <;> decide

theorem Policy.scalar_dvd_sizeOf (policy : Policy) (type : Primitive) :
    Alignment.scalar.bytes ∣ policy.sizeOf type := by
  cases policy <;> cases type <;> decide

/-- Every size is a multiple of a scalar's alignment. -/
theorem FieldType.scalar_dvd_size (arith : Arithmetic) (policy : Policy) (type : FieldType) :
    Alignment.scalar.bytes ∣ (type.extent arith policy).size := by
  obtain ⟨inner, hi, -⟩ | ⟨p, -, he⟩ := type.element_eq
  · rw [FieldType.size_extent_of_nested arith policy hi]
    refine arith.bytes_dvd_mul _ (Nat.dvd_trans ?_ (inner.alignment_dvd_size arith policy))
    exact Alignment.bytes_dvd_bytes (Alignment.scalar_le (inner.alignment_cases arith policy))
  · obtain ⟨hself, -⟩ | hsize := type.size_extent_cases arith
    · rw [← hself, he]
      exact policy.scalar_dvd_sizeOf p
    · rw [hsize, he]
      refine arith.bytes_dvd_mul _ (Nat.dvd_trans ?_ (arith.bytes_dvd_roundUp ..))
      exact Alignment.bytes_dvd_bytes (Alignment.scalar_le (policy.alignmentOf_cases p))

end LayoutParity
