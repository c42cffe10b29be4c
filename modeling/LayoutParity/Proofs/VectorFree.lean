import LayoutParity.Catalogue
import LayoutParity.Proofs.CacheHistory

/-!
# Structs without register vectors

The policies differ on register vectors alone. A declaration that holds none, at any depth and even
in an empty array, is laid out alike under all of them: recording another policy in its layout, and
in every layout nested in it, gives the layout under that policy
(`Schema.VectorFree.withPolicy_layout`). Where a field stands does not depend on the recorded
policy, so a comparison of two policies finds nothing in such a struct. Packed vectors are arrays of
lanes, which is why structs that both sides share are written with them.
-/

namespace LayoutParity

/-- The primitive that the type holds in the end, if it holds no struct. -/
def FieldType.primitive? (type : FieldType) : Option Primitive :=
  match type.element with
  | primitive p => some p
  | _ => none

/-- No field in the declaration, at any depth, holds a register vector. -/
def Schema.VectorFree (schema : Schema) : Prop :=
  ∀ struct ∈ schema.structs, ∀ field ∈ struct.fields,
    field.type.primitive? ≠ some .vector3 ∧ field.type.primitive? ≠ some .vector4

instance (schema : Schema) : Decidable schema.VectorFree :=
  inferInstanceAs (Decidable (∀ struct ∈ schema.structs, ∀ field ∈ struct.fields,
    field.type.primitive? ≠ some .vector3 ∧ field.type.primitive? ≠ some .vector4))

mutual

/-- The layout with this policy recorded in it and in every layout nested in it. -/
def Layout.withPolicy (policy : Policy) : Layout → Layout
  | ⟨name, _, fields, dataSize, size, alignment⟩ =>
    ⟨name, policy, FieldLayout.allWithPolicy policy fields, dataSize, size, alignment⟩

/-- `Layout.withPolicy` on the layouts nested in some fields. -/
def FieldLayout.allWithPolicy (policy : Policy) : List FieldLayout → List FieldLayout
  | [] => []
  | field :: rest => field.withPolicy policy :: FieldLayout.allWithPolicy policy rest

/-- `Layout.withPolicy` on the layout nested in a field. -/
def FieldLayout.withPolicy (policy : Policy) : FieldLayout → FieldLayout
  | ⟨name, type, offset, size, alignment, nested?⟩ =>
    ⟨name, type, offset, size, alignment, Layout.withPolicy? policy nested?⟩

/-- `Layout.withPolicy` where there may be no layout. -/
def Layout.withPolicy? (policy : Policy) : Option Layout → Option Layout
  | none => none
  | some layout => some (layout.withPolicy policy)

end

/-- The extent with this policy recorded in the layout inside. -/
def Extent.withPolicy (policy : Policy) (extent : Extent) : Extent :=
  { extent with nested? := Layout.withPolicy? policy extent.nested? }

theorem FieldType.element_repeated (type : FieldType) (count? : Option Nat) :
    (type.repeated count?).element = type.element := by
  cases count? <;> rfl

/-! ## What does not depend on the recorded policy -/

section
variable (arith : Arithmetic) (policy : Policy)

theorem FieldLayout.allWithPolicy_eq (fields : List FieldLayout) :
    FieldLayout.allWithPolicy policy fields = fields.map (·.withPolicy policy) := by
  induction fields with
  | nil => rfl
  | cons field rest ih => rw [FieldLayout.allWithPolicy, ih, List.map_cons]

@[simp] theorem FieldLayout.alignment_withPolicy (field : FieldLayout) :
    (field.withPolicy policy).alignment = field.alignment := by
  cases field
  rfl

@[simp] theorem FieldLayout.finish_withPolicy (field : FieldLayout) :
    (field.withPolicy policy).finish arith = field.finish arith := by
  cases field
  rfl

@[simp] theorem Layout.size_withPolicy (layout : Layout) :
    (layout.withPolicy policy).size = layout.size := by
  cases layout
  rfl

/-- Recording another policy changes no offset, size or alignment, so it can be done on the fields
before they are put together. -/
theorem Layout.withPolicy_ofFields (name : String) (recorded : Policy)
    (fields : List FieldLayout) :
    (Layout.ofFields arith name recorded fields).withPolicy policy =
      .ofFields arith name policy (fields.map (·.withPolicy policy)) := by
  rw [ofFields, ofFields, withPolicy, FieldLayout.allWithPolicy_eq,
    FieldLayout.lastFinish_map (FieldLayout.finish_withPolicy arith policy),
    FieldLayout.strictest_map (FieldLayout.alignment_withPolicy policy)]

theorem Extent.withPolicy_ofLayout (layout : Layout) :
    (Extent.ofLayout layout).withPolicy policy = .ofLayout (layout.withPolicy policy) := by
  cases layout
  rfl

mutual

/-- Where the fields of a struct stand does not depend on the recorded policy. -/
theorem Layout.flat_withPolicy : ∀ layout : Layout,
    (layout.withPolicy policy).flat arith = layout.flat arith
  | ⟨_, _, fields, _, _, _⟩ => by
    rw [Layout.withPolicy, Layout.flat, Layout.flat]
    exact FieldLayout.flatAll_withPolicy fields

/-- `Layout.flat_withPolicy` for some fields of the struct. -/
theorem FieldLayout.flatAll_withPolicy : ∀ fields : List FieldLayout,
    FieldLayout.flatAll arith (FieldLayout.allWithPolicy policy fields) =
      FieldLayout.flatAll arith fields
  | [] => rfl
  | field :: rest => by
    rw [FieldLayout.allWithPolicy, FieldLayout.flatAll, FieldLayout.flatAll,
      FieldLayout.flat_withPolicy field, FieldLayout.flatAll_withPolicy rest]

/-- `Layout.flat_withPolicy` for a field. -/
theorem FieldLayout.flat_withPolicy : ∀ field : FieldLayout,
    (field.withPolicy policy).flat arith = field.flat arith
  | ⟨name, type, offset, _, _, nested?⟩ => by
    rw [FieldLayout.withPolicy, FieldLayout.flat, FieldLayout.flat,
      Layout.flatElements_withPolicy name type offset nested?]
    rfl

/-- `Layout.flat_withPolicy` for the structs in a field. -/
theorem Layout.flatElements_withPolicy (name : String) (type : FieldType) (offset : Nat) :
    ∀ nested? : Option Layout,
      Layout.flatElements arith name type offset (Layout.withPolicy? policy nested?) =
        Layout.flatElements arith name type offset nested?
  | none => rfl
  | some layout => by
    rw [Layout.withPolicy?, Layout.flatElements, Layout.flatElements,
      Layout.flat_withPolicy layout, Layout.size_withPolicy]

end

end

/-! ## Without register vectors the policy is not consulted -/

/-- Policies agree on what is no register vector. -/
theorem Policy.sizeOf_of_lanes {type : Primitive} (h : type.isRegister = false) (policy : Policy) :
    policy.sizeOf type = type.lanes * laneSize := by
  cases policy <;> simp [Policy.sizeOf, h]

theorem Policy.alignmentOf_of_lanes {type : Primitive} (h : type.isRegister = false)
    (policy : Policy) : policy.alignmentOf type = .scalar := by
  cases policy <;> simp [Policy.alignmentOf, h]

namespace Schema.VectorFree

variable {schema : Schema} (h : schema.VectorFree)
include h

/-- What a field of the struct holds in the end is no register vector. -/
theorem isRegister_eq_false {field : Field} (hf : field ∈ schema.fields) {type : Primitive}
    (he : field.fullType.element = .primitive type) : type.isRegister = false := by
  obtain ⟨h3, h4⟩ := h schema schema.self_mem_structs field hf
  -- A repeat count is an array around the type, so it does not hide a vector.
  rw [Field.fullType, FieldType.element_repeated] at he
  have hp : field.type.primitive? = some type := by rw [FieldType.primitive?, he]
  cases type with
  | vector3 => exact absurd hp h3
  | vector4 => exact absurd hp h4
  | float | uint | packedVector3 => rfl

theorem of_nested {inner : Schema} (hi : inner ∈ schema.nested) : inner.VectorFree :=
  fun struct hs => h struct (Schema.mem_structs_of_nested hi hs)

end Schema.VectorFree

section
variable (arith : Arithmetic) (policy other : Policy)

/-- A type whose element is no register vector takes the same under both policies, if the struct it
holds is laid out alike. -/
theorem FieldType.withPolicy_extent (type : FieldType)
    (hlanes : ∀ p, type.element = .primitive p → p.isRegister = false)
    (ih : ∀ inner, type.nested? = some inner →
      (inner.layout arith policy).withPolicy other = inner.layout arith other) :
    (type.extent arith policy).withPolicy other = type.extent arith other := by
  match type with
  | .primitive p =>
    have hp := hlanes p rfl
    rw [FieldType.extent, FieldType.extent, Policy.sizeOf_of_lanes hp, Policy.sizeOf_of_lanes hp,
      Policy.alignmentOf_of_lanes hp, Policy.alignmentOf_of_lanes hp]
    rfl
  | .struct schema =>
    rw [FieldType.extent, FieldType.extent, Extent.withPolicy_ofLayout, ih schema rfl]
  | .array inner count =>
    have hinner := FieldType.withPolicy_extent inner hlanes ih
    rw [FieldType.extent, FieldType.extent, ← hinner]
    rfl

/-- Blocks whose extents differ in the recorded policy only are placed alike. -/
theorem Field.withPolicy_placeFrom {fields : List Field}
    (h : ∀ field ∈ fields, (field.fullType.extent arith policy).withPolicy other =
      field.fullType.extent arith other) (cursor : Nat) :
    (FieldLayout.placeFrom arith cursor (fields.map (Field.block arith policy))).map
        (·.withPolicy other) =
      FieldLayout.placeFrom arith cursor (fields.map (Field.block arith other)) := by
  induction fields generalizing cursor with
  | nil => rfl
  | cons field rest ih =>
    have hrest := ih fun other ho => h other (.tail _ ho)
    rw [List.map_cons, List.map_cons, Field.block_eq, Field.block_eq, ← h field (.head _),
      FieldLayout.placeFrom, FieldLayout.placeFrom, List.map_cons, hrest]
    rfl

/-- A struct without register vectors is laid out alike under all policies, apart from the recorded
policy. -/
theorem Schema.VectorFree.withPolicy_layout {schema : Schema} (h : schema.VectorFree) :
    (schema.layout arith policy).withPolicy other = schema.layout arith other := by
  induction schema using Schema.nestedInduction with
  | step schema ih =>
    have hextents : ∀ field ∈ schema.fields,
        (field.fullType.extent arith policy).withPolicy other =
          field.fullType.extent arith other := by
      intro field hf
      refine FieldType.withPolicy_extent arith policy other _ (fun p => h.isRegister_eq_false hf) ?_
      intro inner hi
      have hn := Field.mem_nested hf hi
      exact ih inner hn (h.of_nested hn)
    rw [Schema.layout_eq, Schema.layout_eq arith other, Layout.withPolicy_ofFields,
      Field.withPolicy_placeFrom arith policy other hextents]

end

/-- A declaration that holds no register vector at any depth is laid out alike under any two
policies: with the other policy recorded at every level, the layout under the one is the layout
under the other. So where field names are told apart at every depth, a comparison finds nothing in
it, whether or not nested structs are entered and whatever the comparator was used for before. -/
theorem Comparator.vector_free_agrees {schema : Schema} (h : schema.VectorFree)
    (arith : Arithmetic) (host device : Policy) :
    (schema.layout arith host).withPolicy device = schema.layout arith device ∧
    (schema.DistinctNames → ∀ (nested : Bool) (calls : List Comparator.Call),
      (((Comparator.fresh arith host device nested).run calls).compare schema).1.divergences =
        []) := by
  have hlayout := h.withPolicy_layout arith host device
  refine ⟨hlayout, fun hd nested calls => ?_⟩
  have hflat : (schema.layout arith host).flat arith = (schema.layout arith device).flat arith := by
    rw [← hlayout, Layout.flat_withPolicy]
  have hsize : (schema.layout arith host).size = (schema.layout arith device).size := by
    rw [← hlayout, Layout.size_withPolicy]
  rw [Comparator.compare_run]
  exact hd.divergences_eq_nil hflat hsize nested

/-- Spheres, which hold packed vectors, in an array of arrays. -/
def sphereGrid : Schema :=
  ⟨"SphereGrid", [⟨"spheres", .array (.array (.struct Catalogue.sphere) 2) 3, some 2⟩,
    ⟨"count", .primitive .uint, none⟩]⟩

theorem Comparator.vector_free_agrees_sphereGrid :
    sphereGrid.VectorFree ∧ sphereGrid.DistinctNames ∧
    (sphereGrid.layout .word .natural).withPolicy .simdVector =
      sphereGrid.layout .word .simdVector ∧
    ((Comparator.fresh .word .natural .simdVector true).compare sphereGrid).1.divergences = [] := by
  have h : sphereGrid.VectorFree := by decide
  have hd : sphereGrid.DistinctNames := by decide
  have hagree := Comparator.vector_free_agrees h .word .natural .simdVector
  exact ⟨h, hd, hagree.1, hagree.2 hd true []⟩

/-- An empty array of vectors takes no bytes, but it aligns its struct: the condition asks for it
too. -/
example :
    let rim : Schema := ⟨"Rim", [⟨"width", .primitive .float, none⟩,
      ⟨"stops", .array (.primitive .vector3) 0, none⟩]⟩
    ¬ rim.VectorFree ∧ (rim.layout .word .natural).size = 4 ∧
      (rim.layout .word .deviceVector).size = 16 := by
  decide

end LayoutParity
