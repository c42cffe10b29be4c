import LayoutParity.Proofs.Placement

/-!
# Alignments come from vectors

The alignment of a struct is a running maximum that is carried up through fields, arrays and nested
structs. In the end it has come from one of the primitives that the declaration is made of
(`Schema.le_alignment_iff`): the leaves, which include those of empty arrays. Among primitives only
the register vectors are aligned more strictly than a scalar, and under the natural policy not even
these, so whether one of them occurs decides every alignment.

A size is a multiple of its alignment wherever it was rounded up, which happens to structs and to
the elements of arrays. A primitive's size is not rounded up, and there is one that is no multiple.
-/

namespace LayoutParity

mutual

/-- The primitives that occur in a type, each once for every place that it is declared at: the
lengths of arrays do not matter. -/
def FieldType.leaves : FieldType → List Primitive
  | .primitive type => [type]
  | .struct schema => schema.leaves
  | .array element _ => element.leaves

/-- The primitives that occur in a struct, at every depth. -/
def Schema.leaves : Schema → List Primitive
  | ⟨_, fields⟩ => Field.leavesOfAll fields

/-- The primitives that occur in some fields. -/
def Field.leavesOfAll : List Field → List Primitive
  | [] => []
  | field :: rest => field.leaves ++ Field.leavesOfAll rest

/-- The primitives that occur in a field, whatever its repeat count. -/
def Field.leaves : Field → List Primitive
  | ⟨_, type, _⟩ => type.leaves

end

/-- A register vector occurs in the type, at some depth. -/
def FieldType.HoldsVector (type : FieldType) : Prop :=
  .vector3 ∈ type.leaves ∨ .vector4 ∈ type.leaves

/-- A register vector occurs in the struct, at some depth. -/
def Schema.HoldsVector (schema : Schema) : Prop :=
  .vector3 ∈ schema.leaves ∨ .vector4 ∈ schema.leaves

instance (type : FieldType) : Decidable type.HoldsVector :=
  inferInstanceAs (Decidable (_ ∨ _))

instance (schema : Schema) : Decidable schema.HoldsVector :=
  inferInstanceAs (Decidable (_ ∨ _))

/-! ## Leaves -/

theorem FieldType.leaves_eq (type : FieldType) : type.leaves = type.element.leaves := by
  match type with
  | .primitive _ | .struct _ => rfl
  | .array inner _ => exact FieldType.leaves_eq inner

/-- A repeat count is an array around the type, so it does not matter either. -/
theorem Field.leaves_eq (field : Field) : field.leaves = field.fullType.leaves := by
  obtain ⟨name, type, count?⟩ := field
  cases count? <;> rfl

theorem Schema.leaves_eq (schema : Schema) :
    schema.leaves = schema.fields.flatMap (·.fullType.leaves) := by
  obtain ⟨name, fields⟩ := schema
  rw [Schema.leaves]
  induction fields with
  | nil => rfl
  | cons field rest ih => rw [Field.leavesOfAll, Field.leaves_eq, ih, List.flatMap_cons]

theorem Schema.mem_leaves_iff {schema : Schema} {p : Primitive} :
    p ∈ schema.leaves ↔ ∃ field ∈ schema.fields, p ∈ field.fullType.leaves := by
  rw [Schema.leaves_eq, List.mem_flatMap]

/-! ## Every strict alignment is a leaf's -/

/-- A type reaches an alignment exactly if one of its leaves does, if this is so of the struct it
holds. -/
theorem FieldType.le_alignment_iff_of_nested (arith : Arithmetic) (policy : Policy)
    {a : Alignment} (type : FieldType)
    (ih : ∀ inner, type.nested? = some inner →
      (a ≤ (inner.layout arith policy).alignment ↔
        ∃ p ∈ inner.leaves, a ≤ policy.alignmentOf p)) :
    a ≤ (type.extent arith policy).alignment ↔ ∃ p ∈ type.leaves, a ≤ policy.alignmentOf p := by
  rw [FieldType.alignment_extent, FieldType.leaves_eq]
  obtain ⟨inner, hi, he⟩ | ⟨p, -, he⟩ := type.element_eq
  · rw [he]
    exact ih inner hi
  · rw [he]
    simp [FieldType.extent, FieldType.leaves]

section
variable (arith : Arithmetic) (policy : Policy) {a : Alignment} (ha : ¬ a ≤ .scalar)
include ha

theorem FieldLayout.le_strictest_iff (fields : List FieldLayout) :
    a ≤ strictest fields ↔ ∃ field ∈ fields, a ≤ field.alignment := by
  constructor
  · intro h
    obtain hs | ⟨field, hf, hs⟩ := strictest_cases fields
    · rw [hs] at h
      exact absurd h ha
    · rw [← hs] at h
      exact ⟨field, hf, h⟩
  · rintro ⟨field, hf, h⟩
    exact Nat.le_trans h (alignment_le_strictest hf)

/-- A struct reaches an alignment stricter than a scalar's exactly if one of its fields does. -/
theorem Schema.le_alignment_iff_field (schema : Schema) :
    a ≤ (schema.layout arith policy).alignment ↔
      ∃ field ∈ schema.fields, a ≤ (field.fullType.extent arith policy).alignment := by
  constructor
  · intro h
    rw [Schema.layout_eq] at h
    obtain ⟨placed, hm, hp⟩ := (FieldLayout.le_strictest_iff ha _).1 h
    rw [← Schema.fields_layout] at hm
    obtain ⟨field, hf, hl⟩ := schema.exists_of_mem_layout arith policy hm
    exact ⟨field, hf, hl.alignment ▸ hp⟩
  · rintro ⟨field, hf, h⟩
    exact Nat.le_trans h (schema.alignment_extent_le arith policy hf)

/-- A struct reaches an alignment stricter than a scalar's exactly if one of its leaves does. -/
theorem Schema.le_alignment_iff (schema : Schema) :
    a ≤ (schema.layout arith policy).alignment ↔ ∃ p ∈ schema.leaves, a ≤ policy.alignmentOf p := by
  induction schema using Schema.nestedInduction with
  | step schema ih =>
    have hfield : ∀ field ∈ schema.fields, a ≤ (field.fullType.extent arith policy).alignment ↔
        ∃ p ∈ field.fullType.leaves, a ≤ policy.alignmentOf p := by
      intro field hf
      exact FieldType.le_alignment_iff_of_nested arith policy _ fun inner hi =>
        ih inner (Field.mem_nested hf hi)
    rw [Schema.le_alignment_iff_field arith policy ha]
    constructor
    · rintro ⟨field, hf, h⟩
      obtain ⟨p, hp, hle⟩ := (hfield field hf).1 h
      exact ⟨p, Schema.mem_leaves_iff.2 ⟨field, hf, hp⟩, hle⟩
    · rintro ⟨p, hp, hle⟩
      obtain ⟨field, hf, hp⟩ := Schema.mem_leaves_iff.1 hp
      exact ⟨field, hf, (hfield field hf).2 ⟨p, hp, hle⟩⟩

theorem FieldType.le_alignment_iff (type : FieldType) :
    a ≤ (type.extent arith policy).alignment ↔ ∃ p ∈ type.leaves, a ≤ policy.alignmentOf p :=
  FieldType.le_alignment_iff_of_nested arith policy type fun inner _ =>
    inner.le_alignment_iff arith policy ha

end

/-! ## Only register vectors are aligned more strictly than a scalar -/

theorem Alignment.not_vector_le_scalar : ¬ Alignment.vector ≤ .scalar := by
  decide

theorem Policy.vector_le_alignmentOf_iff (policy : Policy) (p : Primitive) :
    .vector ≤ policy.alignmentOf p ↔ policy ≠ .natural ∧ (p = .vector3 ∨ p = .vector4) := by
  cases policy <;> cases p <;> decide

theorem Policy.exists_vector_le_alignmentOf_iff (policy : Policy) (leaves : List Primitive) :
    (∃ p ∈ leaves, .vector ≤ policy.alignmentOf p) ↔
      policy ≠ .natural ∧ (.vector3 ∈ leaves ∨ .vector4 ∈ leaves) := by
  constructor
  · rintro ⟨p, hp, h⟩
    obtain ⟨hn, rfl | rfl⟩ := (policy.vector_le_alignmentOf_iff p).1 h
    · exact ⟨hn, .inl hp⟩
    · exact ⟨hn, .inr hp⟩
  · rintro ⟨hn, hp | hp⟩
    · exact ⟨_, hp, (policy.vector_le_alignmentOf_iff _).2 ⟨hn, .inl rfl⟩⟩
    · exact ⟨_, hp, (policy.vector_le_alignmentOf_iff _).2 ⟨hn, .inr rfl⟩⟩

/-- Every alignment is a scalar's or a register's, so a comparison with a register's gives its
bytes. -/
theorem Alignment.bytes_eq_ite {a : Alignment} (h : a = .scalar ∨ a = .vector) {p : Prop}
    [Decidable p] (hp : .vector ≤ a ↔ p) : a.bytes = if p then 16 else 4 := by
  rcases h with rfl | rfl
  · rw [if_neg fun h => Alignment.not_vector_le_scalar (hp.2 h), Alignment.bytes_scalar]
  · rw [if_pos (hp.1 (Nat.le_refl _)), Alignment.bytes_vector]

theorem FieldType.bytes_alignment_extent (arith : Arithmetic) (policy : Policy) (type : FieldType) :
    (type.extent arith policy).alignment.bytes =
      if policy ≠ .natural ∧ type.HoldsVector then 16 else 4 := by
  refine Alignment.bytes_eq_ite (type.alignment_cases arith policy) ?_
  rw [FieldType.le_alignment_iff arith policy Alignment.not_vector_le_scalar,
    Policy.exists_vector_le_alignmentOf_iff, FieldType.HoldsVector]

theorem Schema.bytes_alignment_layout (arith : Arithmetic) (policy : Policy) (schema : Schema) :
    (schema.layout arith policy).alignment.bytes =
      if policy ≠ .natural ∧ schema.HoldsVector then 16 else 4 := by
  refine Alignment.bytes_eq_ite (schema.alignment_cases arith policy) ?_
  rw [Schema.le_alignment_iff arith policy Alignment.not_vector_le_scalar,
    Policy.exists_vector_le_alignmentOf_iff, Schema.HoldsVector]

/-! ## Sizes are multiples of alignments -/

/-- A register vector of three lanes is the one primitive that a policy aligns to more bytes than it
gives it. -/
theorem Policy.alignmentOf_dvd_sizeOf_iff (policy : Policy) (p : Primitive) :
    (policy.alignmentOf p).bytes ∣ policy.sizeOf p ↔ ¬ (policy = .deviceVector ∧ p = .vector3) := by
  cases policy <;> cases p <;> decide

/-- The size of every other type is a multiple of its alignment. -/
theorem FieldType.alignment_dvd_size_iff (arith : Arithmetic) (policy : Policy) (type : FieldType) :
    (type.extent arith policy).alignment.bytes ∣ (type.extent arith policy).size ↔
      ¬ (policy = .deviceVector ∧ type = .primitive .vector3) := by
  match type with
  | .primitive p => simpa [FieldType.extent] using policy.alignmentOf_dvd_sizeOf_iff p
  | .struct schema =>
    have hsize : ((FieldType.struct schema).extent arith policy).alignment.bytes ∣
        ((FieldType.struct schema).extent arith policy).size :=
      schema.alignment_dvd_size arith policy
    simp [hsize]
  | .array inner count =>
    -- The element's stride is a multiple, even where the element's size is none.
    have hsize : ((FieldType.array inner count).extent arith policy).alignment.bytes ∣
        ((FieldType.array inner count).extent arith policy).size :=
      arith.bytes_dvd_mul_right (arith.bytes_dvd_roundUp ..) count
    simp [hsize]

theorem Schema.scalar_dvd_size (arith : Arithmetic) (policy : Policy) (schema : Schema) :
    Alignment.scalar.bytes ∣ (schema.layout arith policy).size :=
  (FieldType.struct schema).scalar_dvd_size arith policy

/-- The vectors in a declaration decide its alignment, in either arithmetic. Under `natural` every
type and struct is aligned to 4 bytes. Under the other policies it is aligned to 16 bytes if a
register vector occurs in it, at any depth and even in an empty array, and to 4 bytes if none does.
Every size is a multiple of 4, and every size is a multiple of its alignment, a struct's always and
a type's unless it is a three-lane vector under `deviceVector`, which has 12 bytes. -/
theorem Policy.vectors_decide_alignment (arith : Arithmetic) (policy : Policy) :
    (∀ type : FieldType,
      (type.extent arith policy).alignment.bytes =
          (if policy ≠ .natural ∧ type.HoldsVector then 16 else 4) ∧
        4 ∣ (type.extent arith policy).size ∧
        ((type.extent arith policy).alignment.bytes ∣ (type.extent arith policy).size ↔
          ¬ (policy = .deviceVector ∧ type = .primitive .vector3))) ∧
    ∀ schema : Schema,
      (schema.layout arith policy).alignment.bytes =
          (if policy ≠ .natural ∧ schema.HoldsVector then 16 else 4) ∧
        4 ∣ (schema.layout arith policy).size ∧
        (schema.layout arith policy).alignment.bytes ∣ (schema.layout arith policy).size := by
  refine ⟨fun type => ?_, fun schema => ?_⟩
  · exact ⟨type.bytes_alignment_extent arith policy, type.scalar_dvd_size arith policy,
      type.alignment_dvd_size_iff arith policy⟩
  · exact ⟨schema.bytes_alignment_layout arith policy, schema.scalar_dvd_size arith policy,
      schema.alignment_dvd_size arith policy⟩

end LayoutParity
