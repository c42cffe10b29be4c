import LayoutParity.Proofs.Extents

/-!
# The layouts in a layout

`Layout.layouts` lists a layout and the layouts nested in it at every depth, so that what is said
"at every depth" of a layout is said of a list. The layouts in a computed layout are the computed
layouts of the structs in the declaration (`Schema.layouts_layout`): what holds of every computed
layout on its own holds in it at every depth (`Schema.forall_mem_layouts`).
-/

namespace LayoutParity

mutual

/-- The layout itself and the layouts nested in it, at every depth. -/
def Layout.layouts : Layout → List Layout
  | ⟨name, policy, fields, dataSize, size, alignment⟩ =>
    ⟨name, policy, fields, dataSize, size, alignment⟩ :: FieldLayout.layoutsOfAll fields

/-- The layouts nested in some fields, at every depth. -/
def FieldLayout.layoutsOfAll : List FieldLayout → List Layout
  | [] => []
  | field :: rest => field.layouts ++ FieldLayout.layoutsOfAll rest

/-- The layouts nested in a field, at every depth. -/
def FieldLayout.layouts : FieldLayout → List Layout
  | ⟨_, _, _, _, _, nested?⟩ => Layout.layouts? nested?

/-- The layout, if there is one, and the layouts nested in it. -/
def Layout.layouts? : Option Layout → List Layout
  | none => []
  | some layout => layout.layouts

end

/-- The layouts that the fields hold directly, in field order. -/
def Layout.nested (layout : Layout) : List Layout :=
  layout.fields.filterMap (·.nested?)

theorem FieldLayout.layoutsOfAll_eq (fields : List FieldLayout) :
    FieldLayout.layoutsOfAll fields = (fields.filterMap (·.nested?)).flatMap Layout.layouts := by
  induction fields with
  | nil => rfl
  | cons field rest ih =>
    obtain ⟨name, type, offset, size, alignment, nested?⟩ := field
    rw [FieldLayout.layoutsOfAll, FieldLayout.layouts, ih]
    cases nested? <;> simp [Layout.layouts?]

/-- The layouts in a layout are itself and those that its fields hold, each followed by the layouts
in it. -/
theorem Layout.layouts_eq (layout : Layout) :
    layout.layouts = layout :: layout.nested.flatMap Layout.layouts := by
  cases layout
  rw [Layout.layouts, FieldLayout.layoutsOfAll_eq]
  rfl

/-- The fields of a computed layout hold the layouts of the structs that the fields of the
declaration hold. -/
theorem Schema.nested_layout (arith : Arithmetic) (policy : Policy) (schema : Schema) :
    (schema.layout arith policy).nested = schema.nested.map (Schema.layout arith policy) := by
  rw [Layout.nested, Schema.nested]
  have h := schema.forall₂_laidOut arith policy
  generalize (schema.layout arith policy).fields = placed, schema.fields = fields at h ⊢
  induction h with
  | nil => rfl
  | @cons field _ _ _ hp _ ih =>
    rw [List.filterMap_cons, List.filterMap_cons, hp.nested, field.nested?_fullType, ih]
    cases field.type.nested? <;> rfl

/-- The layouts in a computed layout are the computed layouts of the structs in the declaration,
under the same policy. -/
theorem Schema.layouts_layout (arith : Arithmetic) (policy : Policy) (schema : Schema) :
    (schema.layout arith policy).layouts = schema.structs.map (Schema.layout arith policy) := by
  induction schema using Schema.nestedInduction with
  | step schema ih =>
    have hinside : (schema.nested.map (Schema.layout arith policy)).flatMap Layout.layouts =
        (schema.nested.flatMap Schema.structs).map (Schema.layout arith policy) := by
      rw [List.flatMap_map, List.map_flatMap]
      exact List.flatMap_congr ih
    rw [Layout.layouts_eq, Schema.nested_layout, hinside, Schema.structs_eq, Schema.inside_eq,
      List.map_cons]

/-- What holds of every computed layout on its own holds of every layout in a computed one. -/
theorem Schema.forall_mem_layouts {motive : Layout → Prop} (arith : Arithmetic) (policy : Policy)
    (h : ∀ schema : Schema, motive (schema.layout arith policy)) (schema : Schema) :
    ∀ layout ∈ (schema.layout arith policy).layouts, motive layout := by
  intro layout hm
  rw [Schema.layouts_layout] at hm
  obtain ⟨struct, -, rfl⟩ := List.mem_map.1 hm
  exact h struct

end LayoutParity
