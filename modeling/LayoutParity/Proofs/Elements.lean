import LayoutParity.Proofs.Extents

/-!
# The primitives of a struct in memory

`Layout.elements` lists every primitive in a struct at its offset from the outermost struct: it
enters nested structs and takes arrays apart, through any number of dimensions. In a computed
layout these elements are the primitives of the declaration in order (`Schema.primitives`), each is
aligned for its own type, none begins before the one before it ends, and all lie in the struct.

The invariant is `Element.Laid`: elements that follow each other between two offsets. A struct's
elements are laid wherever the struct begins at a multiple of its alignment
(`Schema.laid_elements`); this carries an inner struct through an outer offset and a stride, since
an inner alignment divides the outer one and every struct's alignment divides its size.
-/

namespace LayoutParity

/-- A primitive in a struct, at its offset from the outermost struct. -/
structure Element where
  type : Primitive
  offset : Nat
deriving DecidableEq, Repr

/-- Where the element ends. -/
def Element.finish (policy : Policy) (element : Element) : Nat :=
  element.offset + policy.sizeOf element.type

mutual

/-- The primitives in a struct that begins at `base`. -/
def Layout.elements (base : Nat) : Layout → List Element
  | ⟨_, policy, fields, _, _, _⟩ => FieldLayout.elementsOfAll policy base fields

/-- The primitives in some fields of a struct that begins at `base`. -/
def FieldLayout.elementsOfAll (policy : Policy) (base : Nat) : List FieldLayout → List Element
  | [] => []
  | field :: rest => field.elements policy base ++ FieldLayout.elementsOfAll policy base rest

/-- The primitives in a field of a struct that begins at `base`. -/
def FieldLayout.elements (policy : Policy) (base : Nat) : FieldLayout → List Element
  | ⟨_, type, offset, _, _, nested?⟩ => Layout.elementsAt policy (base + offset) type nested?

/-- The primitives in a type that begins at `start`: structs in a row stand a struct's size apart,
primitives their own size, rounded up to their alignment. -/
def Layout.elementsAt (policy : Policy) (start : Nat) (type : FieldType) :
    Option Layout → List Element
  | some layout =>
    (List.range (type.elementCount .exact)).flatMap fun index =>
      layout.elements (start + index * layout.size)
  | none =>
    match type.element with
    | .primitive p =>
      (List.range (type.elementCount .exact)).map fun index =>
        ⟨p, start + index * (policy.alignmentOf p).roundUp (policy.sizeOf p)⟩
    | _ => []

end

mutual

/-- The primitives that a type holds, in order. -/
def FieldType.primitives : FieldType → List Primitive
  | .primitive type => [type]
  | .struct schema => schema.primitives
  | .array element count => (List.replicate count element.primitives).flatten

/-- The primitives of a struct, in order and through nested structs. -/
def Schema.primitives : Schema → List Primitive
  | ⟨_, fields⟩ => Field.primitivesOfAll fields

/-- The primitives of some fields. -/
def Field.primitivesOfAll : List Field → List Primitive
  | [] => []
  | field :: rest => field.primitives ++ Field.primitivesOfAll rest

/-- The primitives of a field, as often as it is repeated. -/
def Field.primitives : Field → List Primitive
  | ⟨_, type, none⟩ => type.primitives
  | ⟨_, type, some count⟩ => (List.replicate count type.primitives).flatten

end

/-! ## Elements that follow each other -/

/-- The elements follow each other from `start` to `stop`, each aligned for its type. -/
inductive Element.Laid (policy : Policy) : Nat → Nat → List Element → Prop
  | nil : start ≤ stop → Laid policy start stop []
  | cons : start ≤ element.offset → (policy.alignmentOf element.type).bytes ∣ element.offset →
      Laid policy (element.finish policy) stop rest → Laid policy start stop (element :: rest)

namespace Element.Laid

variable {policy : Policy} {start stop : Nat} {elements others : List Element}

theorem weaken_start {earlier : Nat} (h : Laid policy start stop elements) (hs : earlier ≤ start) :
    Laid policy earlier stop elements := by
  cases h with
  | nil hle => exact .nil (Nat.le_trans hs hle)
  | cons hle ha h => exact .cons (Nat.le_trans hs hle) ha h

theorem weaken_stop {later : Nat} (h : Laid policy start stop elements) (hs : stop ≤ later) :
    Laid policy start later elements := by
  induction h with
  | nil hle => exact .nil (Nat.le_trans hle hs)
  | cons hle ha _ ih => exact .cons hle ha (ih hs)

theorem append {middle : Nat} (h : Laid policy start middle elements)
    (h' : Laid policy middle stop others) : Laid policy start stop (elements ++ others) := by
  induction h with
  | nil hle => exact h'.weaken_start hle
  | cons hle ha _ ih => exact .cons hle ha (ih h')

theorem singleton {element : Element} (hs : start ≤ element.offset)
    (ha : (policy.alignmentOf element.type).bytes ∣ element.offset)
    (hf : element.finish policy ≤ stop) : Laid policy start stop [element] :=
  .cons hs ha (.nil hf)

/-- Parts in a row, a stride apart. -/
theorem flatMap_range {stride count : Nat} {part : Nat → List Element}
    (h : ∀ index, Laid policy (start + index * stride) (start + index * stride + stride)
      (part index)) :
    Laid policy start (start + count * stride) ((List.range count).flatMap part) := by
  induction count with
  | zero => exact .nil (Nat.le_add_right ..)
  | succ count ih =>
    rw [List.range_succ, List.flatMap_append, List.flatMap_singleton, Nat.succ_mul, ← Nat.add_assoc]
    exact ih.append (h count)

theorem start_le_stop (h : Laid policy start stop elements) : start ≤ stop := by
  induction h with
  | nil hle => exact hle
  | cons hle _ _ ih =>
    have : Element.finish policy _ ≤ _ := ih
    unfold Element.finish at this
    omega

/-- Each element is aligned for its type and lies between the two offsets. -/
theorem of_mem (h : Laid policy start stop elements) {element : Element} (hm : element ∈ elements) :
    (policy.alignmentOf element.type).bytes ∣ element.offset ∧ start ≤ element.offset ∧
      element.finish policy ≤ stop := by
  induction h with
  | nil => cases hm
  | @cons start first stop rest hle ha h ih =>
    rcases List.mem_cons.1 hm with rfl | hm
    · exact ⟨ha, hle, h.start_le_stop⟩
    · obtain ⟨hb, hf, hs⟩ := ih hm
      refine ⟨hb, ?_, hs⟩
      unfold Element.finish at hf
      omega

/-- No element begins before one listed earlier ends. -/
theorem pairwise (h : Laid policy start stop elements) :
    elements.Pairwise fun a b => a.finish policy ≤ b.offset := by
  induction h with
  | nil => exact .nil
  | cons _ _ h ih => exact .cons (fun _ hm => (h.of_mem hm).2.1) ih

end Element.Laid

/-! ## The elements of a computed layout are laid -/

section
variable (policy : Policy)

theorem Policy.sizeOf_pos (type : Primitive) : 0 < policy.sizeOf type := by
  cases policy <;> cases type <;> decide

/-- Wherever the struct begins at a multiple of its alignment, its elements are in order within its
size. -/
def Layout.LaysElements (layout : Layout) : Prop :=
  ∀ base, layout.alignment.bytes ∣ base →
    Element.Laid policy base (base + layout.size) (layout.elements base)

/-- A type that begins at a multiple of its alignment has its elements in order within its
extent, if the struct it holds has. -/
theorem FieldType.laid_elementsAt (type : FieldType) {start : Nat}
    (hs : (type.extent .exact policy).alignment.bytes ∣ start)
    (ih : ∀ inner, type.nested? = some inner → (inner.layout .exact policy).LaysElements policy) :
    Element.Laid policy start (start + (type.extent .exact policy).size)
      (Layout.elementsAt policy start type (type.nested?.map (Schema.layout .exact policy))) := by
  obtain ⟨inner, hi, he⟩ | ⟨p, hi, he⟩ := type.element_eq
  · rw [FieldType.size_extent_of_nested .exact policy hi, hi]
    rw [FieldType.alignment_extent_of_nested .exact policy hi] at hs
    refine .flatMap_range fun index => ih inner hi _ ?_
    exact Nat.dvd_add hs (Nat.dvd_mul_left_of_dvd (inner.alignment_dvd_size .exact policy) _)
  · rw [FieldType.alignment_extent, he] at hs
    have hs : (policy.alignmentOf p).bytes ∣ start := hs
    rw [hi, Option.map_none, Layout.elementsAt, he]
    dsimp only
    obtain ⟨hself, hc⟩ | hsize := type.size_extent_cases .exact
    · rw [hc, ← hself, he]
      refine .singleton ?_ ?_ ?_ <;> simp [Element.finish, FieldType.extent, hs]
    · rw [hsize, he, List.map_eq_flatMap]
      refine .flatMap_range fun index => .singleton (Nat.le_refl _) ?_ ?_
      · exact Nat.dvd_add hs (Nat.dvd_mul_left_of_dvd (Alignment.bytes_dvd_roundUp ..) _)
      · exact Nat.add_le_add_left (Alignment.le_roundUp ..) _

/-- The fields of a struct that begins at `base`, placed after `cursor`, have their elements in
order up to where the last of them ends. -/
theorem Field.laid_elementsOfAll {base : Nat} {fields : List Field}
    (hb : ∀ field ∈ fields, (field.fullType.extent .exact policy).alignment.bytes ∣ base)
    (ih : ∀ field ∈ fields, ∀ inner, field.fullType.nested? = some inner →
      (inner.layout .exact policy).LaysElements policy) (cursor : Nat) :
    let placed := FieldLayout.placeFrom .exact cursor (fields.map (Field.block .exact policy))
    Element.Laid policy (base + cursor) (base + FieldLayout.lastFinish .exact cursor placed)
      (FieldLayout.elementsOfAll policy base placed) := by
  induction fields generalizing cursor with
  | nil => exact .nil (Nat.le_refl _)
  | cons field rest ihr =>
    rw [List.map_cons, Field.block_eq, FieldLayout.placeFrom]
    intro placed
    have hfield := FieldType.laid_elementsAt policy field.fullType
      (Nat.dvd_add (hb field (.head _)) (Alignment.bytes_dvd_roundUp _ cursor)) (ih field (.head _))
    rw [← FieldType.nested?_extent, Nat.add_assoc] at hfield
    have hrest := ihr (fun f hf => hb f (.tail _ hf)) (fun f hf => ih f (.tail _ hf))
      ((field.fullType.extent .exact policy).alignment.roundUp cursor
        + (field.fullType.extent .exact policy).size)
    exact (hfield.weaken_start (Nat.add_le_add_left (Alignment.le_roundUp ..) base)).append hrest

/-- A struct that begins at a multiple of its alignment has its elements in order within its
size. -/
theorem Schema.laid_elements (schema : Schema) :
    (schema.layout .exact policy).LaysElements policy := by
  induction schema using Schema.nestedInduction with
  | step schema ih =>
    intro base hb
    -- The alignment of a field divides the struct's, so `base` suits every field.
    have h := Field.laid_elementsOfAll policy
      (fun field hf => Nat.dvd_trans
        (Alignment.bytes_dvd_bytes (schema.alignment_extent_le .exact policy hf)) hb)
      (fun field hf inner hi => ih inner (Field.mem_nested hf hi)) 0
    rw [Schema.layout_eq]
    exact h.weaken_stop (Nat.add_le_add_left (Alignment.le_roundUp ..) base)

/-! ## No primitive is lost -/

/-- A type holds the primitives of its element as often as the element. -/
theorem FieldType.primitives_eq (type : FieldType) :
    type.primitives =
      (List.replicate (type.elementCount .exact) type.element.primitives).flatten := by
  match type with
  | .primitive _ | .struct _ => simp [element, elementCount]
  | .array inner count =>
    rw [FieldType.primitives, FieldType.primitives_eq inner, ← List.map_replicate,
      ← List.flatten_flatten, List.flatten_replicate_replicate]
    rfl

theorem Field.primitives_eq (field : Field) : field.primitives = field.fullType.primitives := by
  obtain ⟨name, type, count?⟩ := field
  cases count? <;> rfl

theorem Field.primitivesOfAll_eq (fields : List Field) :
    Field.primitivesOfAll fields = fields.flatMap (·.fullType.primitives) := by
  induction fields with
  | nil => rfl
  | cons field rest ih =>
    rw [Field.primitivesOfAll, ih, Field.primitives_eq, List.flatMap_cons]

/-- The elements of a type are its primitives, if this is so of the struct it holds. -/
theorem FieldType.types_elementsAt (type : FieldType) (start : Nat)
    (ih : ∀ inner, type.nested? = some inner →
      ∀ base, ((inner.layout .exact policy).elements base).map (·.type) = inner.primitives) :
    (Layout.elementsAt policy start type
        (type.nested?.map (Schema.layout .exact policy))).map (·.type) =
      type.primitives := by
  rw [FieldType.primitives_eq]
  obtain ⟨inner, hi, he⟩ | ⟨p, hi, he⟩ := type.element_eq
  · rw [hi, he, Option.map_some, Layout.elementsAt, List.map_flatMap]
    simp only [ih inner hi, FieldType.primitives, List.flatMap_def, List.map_const',
      List.length_range]
  · rw [hi, Option.map_none, Layout.elementsAt, he]
    simp [FieldType.primitives, Function.comp_def]

theorem Layout.elements_eq (layout : Layout) (base : Nat) :
    layout.elements base = layout.fields.flatMap (·.elements layout.policy base) := by
  obtain ⟨name, policy, fields, dataSize, size, alignment⟩ := layout
  show FieldLayout.elementsOfAll policy base fields = fields.flatMap (·.elements policy base)
  induction fields with
  | nil => rfl
  | cons field rest ih => rw [FieldLayout.elementsOfAll, ih, List.flatMap_cons]

variable {policy} in
theorem Field.LaidOut.elements_eq {field : Field} {placed : FieldLayout}
    (hp : field.LaidOut .exact policy placed) (base : Nat) :
    placed.elements policy base = Layout.elementsAt policy (base + placed.offset) field.fullType
      (field.fullType.nested?.map (Schema.layout .exact policy)) := by
  rw [← hp.nested, ← hp.type]
  cases placed
  rfl

/-- The elements of a computed layout are the primitives of its declaration, in order. -/
theorem Schema.types_elements (schema : Schema) (base : Nat) :
    ((schema.layout .exact policy).elements base).map (·.type) = schema.primitives := by
  induction schema using Schema.nestedInduction generalizing base with
  | step schema ih =>
    have hs : schema.primitives = schema.fields.flatMap (·.fullType.primitives) := by
      cases schema
      exact Field.primitivesOfAll_eq _
    have h := (List.forall₂_and_left _ _).2 ⟨fun _ hf => hf, schema.forall₂_laidOut .exact policy⟩
    rw [Layout.elements_eq, Schema.policy_layout, List.map_flatMap, hs]
    refine (flatMap_eq_of_forall₂ (h.imp ?_)).symm
    rintro field placed ⟨hf, hp⟩
    rw [hp.elements_eq]
    exact (FieldType.types_elementsAt policy _ _ fun inner hi =>
      ih inner (Field.mem_nested hf hi)).symm

/-- Under every policy the elements of a struct are the primitives of its declaration in order. Each
is aligned for its own type and lies within the struct; each begins after every one before it has
ended, so no two share a byte. -/
theorem Schema.elements_placed (schema : Schema) :
    let layout := schema.layout .exact policy
    let elements := layout.elements 0
    elements.map (·.type) = schema.primitives ∧
    (∀ element ∈ elements, (policy.alignmentOf element.type).bytes ∣ element.offset ∧
      element.offset + policy.sizeOf element.type ≤ layout.size) ∧
    elements.Pairwise fun a b => a.offset < b.offset ∧
      a.offset + policy.sizeOf a.type ≤ b.offset := by
  intro layout elements
  have h : Element.Laid policy 0 (0 + layout.size) elements :=
    schema.laid_elements policy 0 (Nat.dvd_zero _)
  rw [Nat.zero_add] at h
  refine ⟨schema.types_elements policy 0, fun element hm => ?_, h.pairwise.imp fun {a b} hab => ?_⟩
  · obtain ⟨ha, -, hf⟩ := h.of_mem hm
    exact ⟨ha, hf⟩
  · have hpos := policy.sizeOf_pos a.type
    unfold Element.finish at hab
    exact ⟨by omega, hab⟩

end

end LayoutParity
