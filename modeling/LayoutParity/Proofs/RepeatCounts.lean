import LayoutParity.Proofs.CacheHistory
import LayoutParity.Record.Layout

/-!
# Repeat counts and arrays

A field is repeated by a count of its own or by an array type. `Schema.RespelledAs` relates a
declaration to one that has some of its counts, at any depth, written as arrays. Two declarations
so related agree once every count is written as an array (`Schema.withArrays`), and this changes
nothing in a layout but the types that it records (`Schema.withArrays_layout`).

A recorded type is shown by its text, and a comparison asks it only for the number of its elements
and whether it is an array. None of these depends on how the structs inside are spelled, so records
and comparisons are those of the declaration with arrays (`LayoutRecord.ofLayout_withArrays`,
`Layout.fieldDivergences_withArrays`).
-/

namespace LayoutParity

/-! ## Counts written as arrays -/

mutual

/-- The other type is this one with some repeat counts in its structs written as arrays. -/
inductive FieldType.RespelledAs : FieldType → FieldType → Prop
  | primitive {type : Primitive} : FieldType.RespelledAs (.primitive type) (.primitive type)
  | struct {schema other : Schema} : schema.RespelledAs other →
      FieldType.RespelledAs (.struct schema) (.struct other)
  | array {inner other : FieldType} {count : Nat} : inner.RespelledAs other →
      FieldType.RespelledAs (.array inner count) (.array other count)

/-- The other declaration is this one with some repeat counts written as arrays, its own or those of
structs in it. -/
inductive Schema.RespelledAs : Schema → Schema → Prop
  | fields {name : String} {fields others : List Field} : Field.AllRespelledAs fields others →
      Schema.RespelledAs ⟨name, fields⟩ ⟨name, others⟩

/-- The other fields are these with some repeat counts written as arrays. -/
inductive Field.AllRespelledAs : List Field → List Field → Prop
  | nil : Field.AllRespelledAs [] []
  | cons {field other : Field} {rest others : List Field} : field.RespelledAs other →
      Field.AllRespelledAs rest others → Field.AllRespelledAs (field :: rest) (other :: others)

/-- The other field is this one with some repeat counts written as arrays: its own count is kept, or
an array stands in its place. -/
inductive Field.RespelledAs : Field → Field → Prop
  | kept {name : String} {type other : FieldType} {count? : Option Nat} : type.RespelledAs other →
      Field.RespelledAs ⟨name, type, count?⟩ ⟨name, other, count?⟩
  | counted {name : String} {type other : FieldType} {count : Nat} : type.RespelledAs other →
      Field.RespelledAs ⟨name, type, some count⟩ ⟨name, .array other count, none⟩

end

mutual

/-- The type with every repeat count in it written as an array. -/
def FieldType.withArrays : FieldType → FieldType
  | .primitive type => .primitive type
  | .struct schema => .struct schema.withArrays
  | .array element count => .array element.withArrays count

/-- The declaration with every repeat count in it, at every depth, written as an array. -/
def Schema.withArrays : Schema → Schema
  | ⟨name, fields⟩ => ⟨name, Field.allWithArrays fields⟩

/-- The fields with every repeat count in them written as an array. -/
def Field.allWithArrays : List Field → List Field
  | [] => []
  | field :: rest => field.withArrays :: Field.allWithArrays rest

/-- The field with every repeat count in it written as an array, its own too. -/
def Field.withArrays : Field → Field
  | ⟨name, type, count?⟩ => ⟨name, type.withArrays.repeated count?, none⟩

end

mutual

/-- Which counts are written as arrays makes no difference once all are. -/
theorem FieldType.RespelledAs.withArrays_eq : ∀ {type other : FieldType}, type.RespelledAs other →
    type.withArrays = other.withArrays
  | _, _, .primitive => rfl
  | _, _, .struct h => by rw [FieldType.withArrays, FieldType.withArrays, h.withArrays_eq]
  | _, _, .array h => by rw [FieldType.withArrays, FieldType.withArrays, h.withArrays_eq]

/-- `FieldType.RespelledAs.withArrays_eq` for declarations. -/
theorem Schema.RespelledAs.withArrays_eq : ∀ {schema other : Schema}, schema.RespelledAs other →
    schema.withArrays = other.withArrays
  | _, _, .fields h => by rw [Schema.withArrays, Schema.withArrays, h.withArrays_eq]

/-- `FieldType.RespelledAs.withArrays_eq` for some fields. -/
theorem Field.AllRespelledAs.withArrays_eq : ∀ {fields others : List Field},
    Field.AllRespelledAs fields others → Field.allWithArrays fields = Field.allWithArrays others
  | _, _, .nil => rfl
  | _, _, .cons h hrest => by
    rw [Field.allWithArrays, Field.allWithArrays, h.withArrays_eq, hrest.withArrays_eq]

/-- `FieldType.RespelledAs.withArrays_eq` for a field. -/
theorem Field.RespelledAs.withArrays_eq : ∀ {field other : Field}, field.RespelledAs other →
    field.withArrays = other.withArrays
  | _, _, .kept h => by rw [Field.withArrays, Field.withArrays, h.withArrays_eq]
  | _, _, .counted h => by
    rw [Field.withArrays, Field.withArrays, h.withArrays_eq]
    rfl

end

theorem Schema.RespelledAs.name_eq {schema other : Schema} (h : schema.RespelledAs other) :
    schema.name = other.name := by
  cases h
  rfl

/-! ## What does not depend on the spelling -/

namespace FieldType

/-- The inside of a struct is not shown in the text of a type. -/
theorem text_withArrays (type : FieldType) : type.withArrays.text = type.text := by
  match type with
  | .primitive _ => rfl
  | .struct ⟨_, _⟩ => rfl
  | .array inner _ => rw [withArrays, text, text, text_withArrays inner]

theorem elementCount_withArrays (type : FieldType) :
    type.withArrays.elementCount arith = type.elementCount arith := by
  match type with
  | .primitive _ | .struct _ => rfl
  | .array inner _ => rw [withArrays, elementCount, elementCount, elementCount_withArrays inner]

theorem isArray_withArrays (type : FieldType) : type.withArrays.isArray = type.isArray := by
  cases type <;> rfl

theorem repeated_withArrays (type : FieldType) (count? : Option Nat) :
    (type.repeated count?).withArrays = type.withArrays.repeated count? := by
  cases count? <;> rfl

end FieldType

theorem Step.intoElement_withArrays (field : String) (type : FieldType) (index : Nat) :
    Step.intoElement field type.withArrays index = Step.intoElement field type index := by
  rw [Step.intoElement, Step.intoElement, FieldType.isArray_withArrays]

theorem Field.fullType_withArrays (field : Field) :
    field.withArrays.fullType = field.fullType.withArrays := by
  cases field
  exact (FieldType.repeated_withArrays ..).symm

theorem Field.name_withArrays (field : Field) : field.withArrays.name = field.name := by
  cases field
  rfl

theorem Schema.name_withArrays (schema : Schema) : schema.withArrays.name = schema.name := by
  cases schema
  rfl

theorem Schema.fields_withArrays (schema : Schema) :
    schema.withArrays.fields = schema.fields.map Field.withArrays := by
  obtain ⟨name, fields⟩ := schema
  rw [Schema.withArrays]
  dsimp only
  induction fields with
  | nil => rfl
  | cons field rest ih => rw [Field.allWithArrays, ih, List.map_cons]

/-! ## Layouts with respelled types -/

mutual

/-- The layout with the types that it records written with arrays, at every depth. -/
def Layout.withArrays : Layout → Layout
  | ⟨name, policy, fields, dataSize, size, alignment⟩ =>
    ⟨name, policy, FieldLayout.allWithArrays fields, dataSize, size, alignment⟩

/-- `Layout.withArrays` on some fields. -/
def FieldLayout.allWithArrays : List FieldLayout → List FieldLayout
  | [] => []
  | field :: rest => field.withArrays :: FieldLayout.allWithArrays rest

/-- `Layout.withArrays` on a field. -/
def FieldLayout.withArrays : FieldLayout → FieldLayout
  | ⟨name, type, offset, size, alignment, nested?⟩ =>
    ⟨name, type.withArrays, offset, size, alignment, Layout.withArrays? nested?⟩

/-- `Layout.withArrays` where there may be no layout. -/
def Layout.withArrays? : Option Layout → Option Layout
  | none => none
  | some layout => some layout.withArrays

end

/-- The extent with the types that the layout inside records written with arrays. -/
def Extent.withArrays (extent : Extent) : Extent :=
  { extent with nested? := Layout.withArrays? extent.nested? }

theorem FieldLayout.allWithArrays_eq (fields : List FieldLayout) :
    FieldLayout.allWithArrays fields = fields.map FieldLayout.withArrays := by
  induction fields with
  | nil => rfl
  | cons field rest ih => rw [FieldLayout.allWithArrays, ih, List.map_cons]

@[simp] theorem FieldLayout.name_withArrays (field : FieldLayout) :
    field.withArrays.name = field.name := by
  cases field
  rfl

@[simp] theorem FieldLayout.alignment_withArrays (field : FieldLayout) :
    field.withArrays.alignment = field.alignment := by
  cases field
  rfl

@[simp] theorem FieldLayout.finish_withArrays (arith : Arithmetic) (field : FieldLayout) :
    field.withArrays.finish arith = field.finish arith := by
  cases field
  rfl

@[simp] theorem Layout.size_withArrays (layout : Layout) :
    layout.withArrays.size = layout.size := by
  cases layout
  rfl

/-- Respelling changes no offset, size or alignment, so it can be done on the fields before they are
put together. -/
theorem Layout.withArrays_ofFields (arith : Arithmetic) (name : String) (policy : Policy)
    (fields : List FieldLayout) :
    (Layout.ofFields arith name policy fields).withArrays =
      .ofFields arith name policy (fields.map FieldLayout.withArrays) := by
  rw [ofFields, ofFields, withArrays, FieldLayout.allWithArrays_eq,
    FieldLayout.lastFinish_map (FieldLayout.finish_withArrays arith),
    FieldLayout.strictest_map FieldLayout.alignment_withArrays]

theorem Extent.withArrays_ofLayout (layout : Layout) :
    (Extent.ofLayout layout).withArrays = .ofLayout layout.withArrays := by
  cases layout
  rfl

theorem Layout.field?_withArrays (layout : Layout) (name : String) :
    layout.withArrays.field? name = (layout.field? name).map FieldLayout.withArrays := by
  cases layout
  rw [withArrays, field?, field?, FieldLayout.allWithArrays_eq, ← List.map_reverse, List.find?_map]
  simp only [Function.comp_def, FieldLayout.name_withArrays]

/-! ## Respelling commutes with laying out -/

section
variable (arith : Arithmetic) (policy : Policy)

/-- A type written with arrays takes what it takes, if this is so of the struct it holds. -/
theorem FieldType.withArrays_extent (type : FieldType)
    (ih : ∀ inner, type.nested? = some inner →
      (inner.layout arith policy).withArrays = inner.withArrays.layout arith policy) :
    (type.extent arith policy).withArrays = type.withArrays.extent arith policy := by
  match type with
  | .primitive _ => rfl
  | .struct schema =>
    rw [FieldType.extent, Extent.withArrays_ofLayout, ih schema rfl]
    rfl
  | .array inner count =>
    have hinner := FieldType.withArrays_extent inner ih
    rw [FieldType.withArrays, FieldType.extent, FieldType.extent, ← hinner]
    rfl

/-- Fields whose types take the same are placed alike. -/
theorem Field.withArrays_placeFrom {fields : List Field}
    (h : ∀ field ∈ fields, (field.fullType.extent arith policy).withArrays =
      field.fullType.withArrays.extent arith policy) (cursor : Nat) :
    (FieldLayout.placeFrom arith cursor (fields.map (Field.block arith policy))).map
        FieldLayout.withArrays =
      FieldLayout.placeFrom arith cursor
        ((fields.map Field.withArrays).map (Field.block arith policy)) := by
  induction fields generalizing cursor with
  | nil => rfl
  | cons field rest ih =>
    have hrest := ih fun other ho => h other (.tail _ ho)
    rw [List.map_cons, List.map_cons, List.map_cons, Field.block_eq, Field.block_eq,
      Field.fullType_withArrays, Field.name_withArrays, ← h field (.head _),
      FieldLayout.placeFrom, FieldLayout.placeFrom, List.map_cons, hrest]
    rfl

/-- The layout of a declaration with arrays is that of the declaration, but for the types that it
records. -/
theorem Schema.withArrays_layout (schema : Schema) :
    (schema.layout arith policy).withArrays = schema.withArrays.layout arith policy := by
  induction schema using Schema.nestedInduction with
  | step schema ih =>
    have hextents : ∀ field ∈ schema.fields, (field.fullType.extent arith policy).withArrays =
        field.fullType.withArrays.extent arith policy := by
      intro field hf
      exact FieldType.withArrays_extent arith policy _ fun inner hi =>
        ih inner (Field.mem_nested hf hi)
    rw [Schema.layout_eq, Schema.layout_eq, Layout.withArrays_ofFields,
      Field.withArrays_placeFrom arith policy hextents, Schema.name_withArrays,
      Schema.fields_withArrays]

end

/-! ## Records and comparisons -/

mutual

/-- A record shows a type by its text. -/
theorem LayoutRecord.ofLayout_withArrays : ∀ layout : Layout,
    LayoutRecord.ofLayout layout.withArrays = .ofLayout layout
  | ⟨_, _, fields, _, _, _⟩ => by
    rw [Layout.withArrays, LayoutRecord.ofLayout, LayoutRecord.ofLayout,
      FieldRecord.ofFields_withArrays fields]

/-- `LayoutRecord.ofLayout_withArrays` for some fields. -/
theorem FieldRecord.ofFields_withArrays : ∀ fields : List FieldLayout,
    FieldRecord.ofFields (FieldLayout.allWithArrays fields) = FieldRecord.ofFields fields
  | [] => rfl
  | field :: rest => by
    rw [FieldLayout.allWithArrays, FieldRecord.ofFields, FieldRecord.ofFields,
      FieldRecord.ofField_withArrays field, FieldRecord.ofFields_withArrays rest]

/-- `LayoutRecord.ofLayout_withArrays` for a field. -/
theorem FieldRecord.ofField_withArrays : ∀ field : FieldLayout,
    FieldRecord.ofField field.withArrays = .ofField field
  | ⟨_, type, _, _, _, nested?⟩ => by
    rw [FieldLayout.withArrays, FieldRecord.ofField, FieldRecord.ofField,
      type.text_withArrays, LayoutRecord.ofNested_withArrays nested?]

/-- `LayoutRecord.ofLayout_withArrays` where there may be no layout. -/
theorem LayoutRecord.ofNested_withArrays : ∀ nested? : Option Layout,
    LayoutRecord.ofNested (Layout.withArrays? nested?) = LayoutRecord.ofNested nested?
  | none => rfl
  | some layout => by
    rw [Layout.withArrays?, LayoutRecord.ofNested, LayoutRecord.ofNested,
      LayoutRecord.ofLayout_withArrays layout]

end

mutual

/-- A walk over two layouts asks a type for its elements only. -/
theorem Layout.fieldDivergences_withArrays : ∀ (host device : Layout) (walk : Walk),
    Layout.fieldDivergences walk host.withArrays device.withArrays =
      Layout.fieldDivergences walk host device
  | ⟨_, _, fields, _, _, _⟩, device, walk => by
    rw [Layout.withArrays, Layout.fieldDivergences, Layout.fieldDivergences]
    exact FieldLayout.allDivergences_withArrays fields device walk

/-- `Layout.fieldDivergences_withArrays` for some fields of the host. -/
theorem FieldLayout.allDivergences_withArrays :
    ∀ (hosts : List FieldLayout) (device : Layout) (walk : Walk),
      FieldLayout.allDivergences walk (FieldLayout.allWithArrays hosts) device.withArrays =
        FieldLayout.allDivergences walk hosts device
  | [], _, _ => rfl
  | host :: rest, device, walk => by
    rw [FieldLayout.allWithArrays, FieldLayout.allDivergences, FieldLayout.allDivergences,
      FieldLayout.name_withArrays, Layout.field?_withArrays,
      FieldLayout.allDivergences_withArrays rest device walk]
    congr 1
    cases device.field? host.name with
    | none => rfl
    | some other => exact FieldLayout.divergences_withArrays host other walk

/-- `Layout.fieldDivergences_withArrays` for a field and its partner. -/
theorem FieldLayout.divergences_withArrays : ∀ (host device : FieldLayout) (walk : Walk),
    host.withArrays.divergences walk device.withArrays = host.divergences walk device
  | ⟨name, type, _, _, _, nested?⟩, ⟨_, _, _, _, _, other?⟩, walk => by
    rw [FieldLayout.divergences_eq, FieldLayout.divergences_eq]
    exact congrArg _ (Layout.elementDivergences_withArrays nested? other? name type _)

/-- `Layout.fieldDivergences_withArrays` for the structs in a field and its partner. -/
theorem Layout.elementDivergences_withArrays :
    ∀ (host? device? : Option Layout) (name : String) (type : FieldType) (walk : Walk),
      Layout.elementDivergences walk name type.withArrays (Layout.withArrays? host?)
          (Layout.withArrays? device?) =
        Layout.elementDivergences walk name type host? device?
  | none, _, _, _, _ => rfl
  | some _, none, _, _, _ => rfl
  | some host, some device, name, type, walk => by
    rw [Layout.withArrays?, Layout.withArrays?, Layout.elementDivergences,
      Layout.elementDivergences, FieldType.elementCount_withArrays]
    simp only [Step.intoElement_withArrays, Layout.size_withArrays,
      Layout.fieldDivergences_withArrays host device]

end

theorem Layout.divergences_withArrays (arith : Arithmetic) (struct : String) (nested : Bool)
    (host device : Layout) :
    Layout.divergences arith struct nested host.withArrays device.withArrays =
      host.divergences arith struct nested device := by
  rw [divergences, divergences, fieldDivergences_withArrays, sizeDivergence?, sizeDivergence?,
    size_withArrays, size_withArrays]

/-! ## Respelling the struct's own fields only -/

/-- Respelled types that hold the same struct are the same. -/
theorem FieldType.RespelledAs.eq_of_nested : ∀ {type other : FieldType}, type.RespelledAs other →
    type.nested? = other.nested? → type = other
  | _, _, .primitive, _ => rfl
  | _, _, .struct _, hn => by
    cases hn
    rfl
  | _, _, .array h, hn => by rw [h.eq_of_nested hn]

/-- A respelled field that holds the same struct is measured alike: its count and the array in the
count's place make the same type. -/
theorem Field.RespelledAs.block_eq {field other : Field} (h : field.RespelledAs other)
    (hn : field.type.nested? = other.type.nested?) (arith : Arithmetic) (policy : Policy) :
    field.block arith policy = other.block arith policy := by
  cases h with
  | kept h => rw [h.eq_of_nested hn]
  | counted h =>
    obtain rfl := h.eq_of_nested hn
    rw [Field.block_eq, Field.block_eq]
    rfl

theorem Field.AllRespelledAs.blocks_eq {fields others : List Field}
    (h : Field.AllRespelledAs fields others)
    (hn : fields.map (·.type.nested?) = others.map (·.type.nested?)) (arith : Arithmetic)
    (policy : Policy) :
    fields.map (Field.block arith policy) = others.map (Field.block arith policy) := by
  match h with
  | .nil => rfl
  | .cons hfield hrest =>
    obtain ⟨hn, hns⟩ := List.cons.inj hn
    rw [List.map_cons, List.map_cons, hfield.block_eq hn, hrest.blocks_eq hns]

theorem Schema.RespelledAs.layout_eq {schema other : Schema} (h : schema.RespelledAs other)
    (hn : schema.fields.map (·.type.nested?) = other.fields.map (·.type.nested?))
    (arith : Arithmetic) (policy : Policy) :
    schema.layout arith policy = other.layout arith policy := by
  cases h with
  | fields h => rw [Schema.layout_eq, Schema.layout_eq, h.blocks_eq hn]

/-- A layout records which structs the fields hold. -/
theorem Schema.nested?_types_layout (arith : Arithmetic) (policy : Policy) (schema : Schema) :
    (schema.layout arith policy).fields.map (·.type.nested?) =
      schema.fields.map (·.type.nested?) := by
  have hfields := schema.forall₂_laidOut arith policy
  refine (map_eq_of_forall₂ (hfields.imp fun field placed hp => ?_)).symm
  rw [hp.type, Field.nested?_fullType]

/-- A repeat count and an array type are interchangeable, in a struct and in the structs in it. If
some of the counts in a declaration, at any depth, are written as arrays, its layouts are written
down as the same records. They differ in the spelling of recorded types only: with every count in
these written as an array the layouts are equal, in all numbers and at every depth. Comparisons find
the same divergences, whatever the comparators were used for before. The layouts themselves are the
same exactly if the fields still hold the same structs, that is, if only counts of the struct's own
fields were written as arrays. -/
theorem Schema.repeats_as_arrays {schema other : Schema} (h : schema.RespelledAs other)
    (arith : Arithmetic) :
    (∀ policy : Policy,
      LayoutRecord.ofLayout (schema.layout arith policy) = .ofLayout (other.layout arith policy)) ∧
    (∀ policy : Policy,
      (schema.layout arith policy).withArrays = (other.layout arith policy).withArrays) ∧
    (∀ (host device : Policy) (nested : Bool) (calls calls' : List Comparator.Call),
      (((Comparator.fresh arith host device nested).run calls).compare schema).1.divergences =
        (((Comparator.fresh arith host device nested).run calls').compare other).1.divergences) ∧
    ∀ policy : Policy, schema.layout arith policy = other.layout arith policy ↔
      schema.fields.map (·.type.nested?) = other.fields.map (·.type.nested?) := by
  have hlayout : ∀ policy : Policy,
      (schema.layout arith policy).withArrays = (other.layout arith policy).withArrays := by
    intro policy
    rw [Schema.withArrays_layout, Schema.withArrays_layout, h.withArrays_eq]
  refine ⟨fun policy => ?_, hlayout, fun host device nested calls calls' => ?_, fun policy => ?_⟩
  · rw [← LayoutRecord.ofLayout_withArrays, hlayout, LayoutRecord.ofLayout_withArrays]
  · rw [Comparator.compare_run, Comparator.compare_run, Comparator.compare_fresh,
      Comparator.compare_fresh, h.name_eq]
    dsimp only
    rw [← Layout.divergences_withArrays, hlayout, hlayout, Layout.divergences_withArrays]
  · refine ⟨fun he => ?_, fun hn => h.layout_eq hn arith policy⟩
    rw [← Schema.nested?_types_layout arith policy, he, Schema.nested?_types_layout]

/-- A repeated array of structs, with a repeated vector in the struct. -/
def lensGrid : Schema :=
  let lens : Schema := ⟨"Lens", [⟨"radius", .primitive .float, none⟩,
    ⟨"axes", .primitive .vector3, some 2⟩]⟩
  ⟨"LensGrid", [⟨"lenses", .array (.struct lens) 2, some 1⟩, ⟨"gains", .primitive .float, some 3⟩]⟩

/-- `lensGrid` with two of its three repeat counts, one of them in the struct, written as arrays. -/
def lensGridWithArrays : Schema :=
  let lens : Schema := ⟨"Lens", [⟨"radius", .primitive .float, none⟩,
    ⟨"axes", .array (.primitive .vector3) 2, none⟩]⟩
  ⟨"LensGrid", [⟨"lenses", .array (.array (.struct lens) 2) 1, none⟩,
    ⟨"gains", .primitive .float, some 3⟩]⟩

theorem Schema.repeats_as_arrays_lensGrid :
    lensGrid.RespelledAs lensGridWithArrays ∧
    LayoutRecord.ofLayout (lensGrid.layout .word .deviceVector) =
      .ofLayout (lensGridWithArrays.layout .word .deviceVector) ∧
    lensGrid.layout .word .deviceVector ≠ lensGridWithArrays.layout .word .deviceVector ∧
    ((Comparator.fresh .word .natural .deviceVector true).compare
      lensGridWithArrays).1.divergences.map
        (fun d => (d.hostOffset, d.deviceOffset, d.hostSize, d.deviceSize)) =
      [(0, 0, 56, 96), (4, 16, 24, 32), (28, 48, 4, 4), (32, 64, 24, 32), (56, 96, 12, 12),
        (0, 0, 68, 112)] := by
  have h : lensGrid.RespelledAs lensGridWithArrays :=
    .fields (.cons (.counted (.array (.struct (.fields
      (.cons (.kept .primitive) (.cons (.counted .primitive) .nil))))))
        (.cons (.kept .primitive) .nil))
  obtain ⟨hrecord, -, hdivergences, hsame⟩ := Schema.repeats_as_arrays h .word
  refine ⟨h, hrecord .deviceVector, ?_, ?_⟩
  · rw [ne_eq, hsame]
    simp [lensGrid, lensGridWithArrays, FieldType.nested?, FieldType.element]
  · have hfound := hdivergences .natural .deviceVector true [] []
    rw [Comparator.compare_run, Comparator.compare_run] at hfound
    rw [← hfound, Comparator.compare_fresh]
    decide

end LayoutParity
