import LayoutParity.Proofs.Comparator
import LayoutParity.Proofs.PaintedTexts

/-!
# Names without escapes

What is shown of a layout or a comparison are numbers, words of the program, and names. Names are
printed as they are, so it depends on them whether a text has escapes (`Layout.PlainNames`,
`Comparison.PlainNames`).

Whoever declares a struct decides on all of them (`Schema.PlainNames`): the names in a computed
layout are those of the declaration, and so are those on the path of a divergence, as the walk over
two layouts takes its steps from the host's.
-/

namespace LayoutParity

open Text (EscapeFree)

/-! ## What is shown -/

/-- The names that a field shows, its own and that of the struct it holds, are free of escapes. -/
structure FieldLayout.PlainNames (field : FieldLayout) : Prop where
  name : EscapeFree field.name
  type : ∀ struct, field.type.nested? = some struct → EscapeFree struct.name

/-- The names in the description of a layout are free of escapes. -/
structure Layout.PlainNames (layout : Layout) : Prop where
  name : EscapeFree layout.name
  fields : ∀ field ∈ layout.fields, field.PlainNames

/-- The names on a path are free of escapes. -/
structure Path.PlainNames (path : Path) : Prop where
  outer : ∀ step ∈ path.outer, EscapeFree step.field
  field : EscapeFree path.field

/-- The names that a divergence shows are free of escapes. -/
structure Divergence.PlainNames (divergence : Divergence) : Prop where
  struct : EscapeFree divergence.struct
  path : ∀ path, divergence.subject = .field path → path.PlainNames

/-- The names in a report on a comparison are free of escapes. -/
structure Comparison.PlainNames (comparison : Comparison) : Prop where
  name : EscapeFree comparison.name
  fields : ∀ field ∈ comparison.host.fields, field.PlainNames
  divergences : ∀ divergence ∈ comparison.divergences, divergence.PlainNames

/-- A type shows the name of its innermost element and the lengths of the arrays around it. -/
theorem FieldType.escapeFree_text (type : FieldType)
    (h : ∀ struct, type.nested? = some struct → EscapeFree struct.name) : EscapeFree type.text := by
  match type with
  | .primitive p => cases p <;> decide
  | .struct schema => exact h schema rfl
  | .array inner _ => simp +decide [FieldType.text, inner.escapeFree_text h]

theorem Path.PlainNames.text {path : Path} (h : path.PlainNames) : EscapeFree path.text := by
  have hsteps : ∀ step ∈ path.outer, EscapeFree (step.text ++ ".") := by
    intro step hs
    rw [Step.text]
    cases step.index? <;> simp +decide [h.outer step hs]
  rw [Path.text, Text.escapeFree_append, Text.escapeFree_join]
  exact ⟨List.forall_mem_map.2 hsteps, h.field⟩

theorem Divergence.PlainNames.text {divergence : Divergence} (h : divergence.PlainNames) :
    EscapeFree divergence.text := by
  rw [Divergence.text]
  cases hs : divergence.subject with
  | field path => simp +decide [h.struct, (h.path path hs).text]
  | whole => simp +decide [h.struct]

/-! ## Declarations -/

/-- The names in a declaration are free of escapes, at every depth. -/
def Schema.PlainNames (schema : Schema) : Prop :=
  ∀ struct ∈ schema.structs,
    EscapeFree struct.name ∧ ∀ field ∈ struct.fields, EscapeFree field.name

instance (schema : Schema) : Decidable schema.PlainNames :=
  inferInstanceAs (Decidable (∀ struct ∈ schema.structs,
    EscapeFree struct.name ∧ ∀ field ∈ struct.fields, EscapeFree field.name))

namespace Schema.PlainNames

variable {schema : Schema}

theorem name (h : schema.PlainNames) : EscapeFree schema.name :=
  (h schema schema.self_mem_structs).1

theorem of_nested (h : schema.PlainNames) {inner : Schema} (hi : inner ∈ schema.nested) :
    inner.PlainNames :=
  fun struct hs => h struct (Schema.mem_structs_of_nested hi hs)

/-- A field of a computed layout shows names of the declaration. -/
theorem laidOut (h : schema.PlainNames) {arith : Arithmetic} {policy : Policy} {field : Field}
    (hf : field ∈ schema.fields) {placed : FieldLayout} (hp : field.LaidOut arith policy placed) :
    placed.PlainNames where
  name := hp.name ▸ (h schema schema.self_mem_structs).2 field hf
  type := fun _ hs => (h.of_nested (Field.mem_nested hf (hp.type ▸ hs))).name

theorem fields_layout (h : schema.PlainNames) (arith : Arithmetic) (policy : Policy) :
    ∀ field ∈ (schema.layout arith policy).fields, field.PlainNames := by
  intro placed hm
  obtain ⟨field, hf, hp⟩ := Schema.exists_of_mem_layout arith policy hm
  exact h.laidOut hf hp

/-- A declaration as it is written has no escapes but those in its names. -/
theorem text (h : schema.PlainNames) : EscapeFree schema.text := by
  have hfield : ∀ field ∈ schema.fields, EscapeFree (s!"    {field.text};\n") := by
    intro field hf
    have hname := (h schema schema.self_mem_structs).2 field hf
    have htype := field.type.escapeFree_text fun inner hi =>
      (h.of_nested (List.mem_filterMap.2 ⟨field, hf, hi⟩)).name
    rw [Field.text]
    split <;> simp +decide [hname, htype]
  have hfields := Text.escapeFree_join.2 (List.forall_mem_map.2 hfield)
  rw [Schema.text, Text.escapeFree_append, Text.escapeFree_append]
  exact ⟨⟨by simp +decide [h.name], hfields⟩, by decide⟩

end Schema.PlainNames

/-! ## Walks -/

/-- The names that a walk has come across are free of escapes. -/
structure Walk.PlainNames (walk : Walk) : Prop where
  struct : EscapeFree walk.struct
  outer : ∀ step ∈ walk.outer, EscapeFree step.field

theorem Walk.PlainNames.enter {walk : Walk} (h : walk.PlainNames) {step : Step}
    (hs : EscapeFree step.field) (hostDistance deviceDistance : Nat) :
    (walk.enter step hostDistance deviceDistance).PlainNames where
  struct := h.struct
  outer := List.forall_mem_append.2 ⟨h.outer, List.forall_mem_singleton.2 hs⟩

/-- A divergence of a field is about the field itself or found behind a step into it. -/
theorem FieldLayout.plainNames_of_mem_divergences {walk : Walk} (hw : walk.PlainNames)
    {host other : FieldLayout} (hn : EscapeFree host.name)
    (hinside : ∀ inner, host.nested? = some inner → ∀ walk : Walk, walk.PlainNames →
      ∀ device, ∀ divergence ∈ Layout.fieldDivergences walk inner device, divergence.PlainNames) :
    ∀ divergence ∈ host.divergences walk other, divergence.PlainNames := by
  intro divergence hm
  rw [FieldLayout.divergences_eq] at hm
  rcases List.mem_append.1 hm with hm | hm
  · rw [Site.differences_singleton] at hm
    split at hm
    · cases hm
    · obtain rfl := List.mem_singleton.1 hm
      refine ⟨hw.struct, fun path hp => ?_⟩
      obtain rfl := Subject.field.inj hp
      exact ⟨by simpa [Site.inside, FieldLayout.site] using hw.outer, hn⟩
  · cases hi : host.nested? with
    | none => simp [hi, Layout.elementDivergences] at hm
    | some inner =>
      cases ho : other.nested? with
      | none => simp [hi, ho, Layout.elementDivergences] at hm
      | some device =>
        rw [hi, ho, Layout.elementDivergences] at hm
        split at hm
        · obtain ⟨index, -, hm⟩ := List.mem_flatMap.1 hm
          refine hinside inner hi _ (Walk.PlainNames.enter ?_ hn _ _) device divergence hm
          exact ⟨hw.struct, hw.outer⟩
        · cases hm

/-- A walk over a computed layout comes across names of the declaration only, whatever layout it is
compared with. -/
theorem Schema.PlainNames.fieldDivergences {schema : Schema} (h : schema.PlainNames)
    (arith : Arithmetic) (policy : Policy) {walk : Walk} (hw : walk.PlainNames) (device : Layout) :
    ∀ divergence ∈ Layout.fieldDivergences walk (schema.layout arith policy) device,
      divergence.PlainNames := by
  induction schema using Schema.nestedInduction generalizing walk device with
  | step schema ih =>
    intro divergence hm
    rw [Layout.fieldDivergences_eq] at hm
    obtain ⟨placed, hp, other, -, hm⟩ := FieldLayout.mem_allDivergences_iff.1 hm
    obtain ⟨field, hf, hp⟩ := Schema.exists_of_mem_layout arith policy hp
    refine FieldLayout.plainNames_of_mem_divergences hw (h.laidOut hf hp).name ?_ divergence hm
    intro layout hl walk hw device
    rw [hp.nested, Option.map_eq_some_iff] at hl
    obtain ⟨inner, hi, rfl⟩ := hl
    have hi := Field.mem_nested hf hi
    exact ih inner hi (h.of_nested hi) hw device

/-- A computed layout shows names of the declaration. -/
theorem Schema.PlainNames.layout {schema : Schema} (h : schema.PlainNames) (arith : Arithmetic)
    (policy : Policy) :
    (schema.layout arith policy).PlainNames :=
  ⟨Schema.name_layout arith policy schema ▸ h.name, h.fields_layout arith policy⟩

/-- A comparison shows names of the declaration, on every path into nested structs. -/
theorem Schema.PlainNames.compare {schema : Schema} (h : schema.PlainNames) (arith : Arithmetic)
    (host device : Policy) (nested : Bool) :
    ((Comparator.fresh arith host device nested).compare schema).1.PlainNames := by
  rw [Comparator.compare_fresh]
  refine ⟨h.name, h.fields_layout arith host, List.forall_mem_append.2 ⟨?_, ?_⟩⟩
  · exact h.fieldDivergences arith host ⟨h.name, List.forall_mem_nil _⟩ _
  · intro divergence hm
    obtain ⟨-, rfl⟩ := Layout.mem_sizeDivergence?_iff.1 hm
    exact ⟨h.name, fun _ hp => by cases hp⟩

end LayoutParity
