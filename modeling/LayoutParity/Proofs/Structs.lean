import LayoutParity.Schema.Equality

/-!
# The structs in a declaration

A declaration holds its nested structs whole, so what is said "at every depth" is said of a list of
declarations: `Schema.structs` has the declaration itself and every struct in it, through fields and
arrays. Induction on a declaration needs its direct structs only (`Schema.nestedInduction`), and the
list is built from theirs (`Schema.inside_eq`), so no later proof repeats the recursion over
types and fields.

A registered declaration names its fields apart in each of its structs; `Schema.DistinctNames` is
this condition at every depth.
-/

namespace LayoutParity

mutual

/-- The structs that a type holds, at every depth. -/
def FieldType.structs : FieldType → List Schema
  | .primitive _ => []
  | .struct schema => schema.structs
  | .array element _ => element.structs

/-- The struct itself and the structs in it, at every depth. -/
def Schema.structs : Schema → List Schema
  | ⟨name, fields⟩ => ⟨name, fields⟩ :: Field.structsOfAll fields

/-- The structs that some fields hold, at every depth. -/
def Field.structsOfAll : List Field → List Schema
  | [] => []
  | field :: rest => field.structs ++ Field.structsOfAll rest

/-- The structs that a field holds, at every depth. -/
def Field.structs : Field → List Schema
  | ⟨_, type, _⟩ => type.structs

end

/-- The structs in a struct, at every depth. -/
def Schema.inside (schema : Schema) : List Schema :=
  Field.structsOfAll schema.fields

/-! ## Induction over nested structs -/

mutual

/-- `Schema.nestedInduction` for the struct that a type holds in the end. -/
theorem FieldType.nestedInduction {motive : Schema → Prop}
    (step : ∀ schema : Schema, (∀ inner ∈ schema.nested, motive inner) → motive schema) :
    ∀ (type : FieldType) (inner : Schema), type.nested? = some inner → motive inner
  | .primitive _, _, h => by simp [FieldType.nested?, FieldType.element] at h
  | .struct schema, _, h => by
    cases h
    exact Schema.nestedInduction step schema
  | .array element _, inner, h => FieldType.nestedInduction step element inner h

/-- What holds of a struct whenever it holds of the structs its fields hold, holds of every
struct. -/
theorem Schema.nestedInduction {motive : Schema → Prop}
    (step : ∀ schema : Schema, (∀ inner ∈ schema.nested, motive inner) → motive schema) :
    ∀ schema : Schema, motive schema
  | ⟨name, fields⟩ => step ⟨name, fields⟩ (Field.nestedInduction step fields)

/-- `Schema.nestedInduction` for the structs that some fields hold. -/
theorem Field.nestedInduction {motive : Schema → Prop}
    (step : ∀ schema : Schema, (∀ inner ∈ schema.nested, motive inner) → motive schema) :
    ∀ (fields : List Field), ∀ inner ∈ fields.filterMap (·.type.nested?), motive inner
  | [], _, h => by simp at h
  | ⟨name, type, count?⟩ :: rest, inner, h => by
    obtain ⟨field, hf, hi⟩ := List.mem_filterMap.1 h
    rcases List.mem_cons.1 hf with rfl | hf
    · exact FieldType.nestedInduction step type inner hi
    · exact Field.nestedInduction step rest inner (List.mem_filterMap.2 ⟨field, hf, hi⟩)

end

/-! ## The list is built from the direct structs -/

/-- A type holds a struct in the end exactly if its innermost element is this struct. -/
theorem FieldType.nested?_eq_some_iff {type : FieldType} {schema : Schema} :
    type.nested? = some schema ↔ type.element = .struct schema := by
  rw [FieldType.nested?]
  split
  · next inner he => simp [he]
  · next hother => exact ⟨nofun, fun he => absurd he (hother schema)⟩

/-- The direct structs of a declaration are the innermost elements of its fields that are
structs. -/
theorem Schema.mem_nested_iff {schema inner : Schema} :
    inner ∈ schema.nested ↔ ∃ field ∈ schema.fields, field.type.element = .struct inner := by
  simp only [Schema.nested, List.mem_filterMap, FieldType.nested?_eq_some_iff]

theorem Schema.structs_eq (schema : Schema) : schema.structs = schema :: schema.inside := by
  cases schema
  rfl

/-- The structs of a type are those of the struct it holds in the end. -/
theorem FieldType.structs_eq (type : FieldType) :
    type.structs = type.nested?.elim [] Schema.structs := by
  match type with
  | .primitive _ | .struct _ => rfl
  | .array element _ => exact FieldType.structs_eq element

theorem Field.structsOfAll_eq (fields : List Field) :
    Field.structsOfAll fields = (fields.filterMap (·.type.nested?)).flatMap Schema.structs := by
  induction fields with
  | nil => rfl
  | cons field rest ih =>
    obtain ⟨name, type, count?⟩ := field
    rw [Field.structsOfAll, Field.structs, FieldType.structs_eq, ih]
    cases hi : type.nested? <;> simp [hi]

/-- The structs in a declaration are those that its fields hold, each followed by the structs in
it. -/
theorem Schema.inside_eq (schema : Schema) : schema.inside = schema.nested.flatMap Schema.structs :=
  Field.structsOfAll_eq schema.fields

/-- A struct in a declaration is one of the structs its fields hold, or in one of these. -/
theorem Schema.mem_inside_iff {schema struct : Schema} :
    struct ∈ schema.inside ↔ ∃ inner ∈ schema.nested, struct ∈ inner.structs := by
  rw [Schema.inside_eq, List.mem_flatMap]

theorem Schema.self_mem_structs (schema : Schema) : schema ∈ schema.structs := by
  rw [Schema.structs_eq]
  exact .head _

/-- The structs of a nested struct are structs of the whole. -/
theorem Schema.mem_structs_of_nested {schema inner struct : Schema} (hi : inner ∈ schema.nested)
    (hs : struct ∈ inner.structs) : struct ∈ schema.structs := by
  rw [Schema.structs_eq]
  exact .tail _ (Schema.mem_inside_iff.2 ⟨inner, hi, hs⟩)

/-! ## Names told apart -/

/-- No struct of the declaration, at any depth, has two fields of one name. -/
def Schema.DistinctNames (schema : Schema) : Prop :=
  ∀ struct ∈ schema.structs, (struct.fields.map (·.name)).Nodup

instance (schema : Schema) : Decidable schema.DistinctNames :=
  inferInstanceAs (Decidable (∀ struct ∈ schema.structs, (struct.fields.map (·.name)).Nodup))

theorem Schema.DistinctNames.nodup {schema : Schema} (h : schema.DistinctNames) :
    (schema.fields.map (·.name)).Nodup :=
  h schema schema.self_mem_structs

theorem Schema.DistinctNames.of_nested {schema inner : Schema} (h : schema.DistinctNames)
    (hi : inner ∈ schema.nested) : inner.DistinctNames :=
  fun struct hs => h struct (Schema.mem_structs_of_nested hi hs)

/-- Where keys are told apart, looking up the key of a member finds this member. -/
theorem find?_key_of_nodup {α : Type} {key : α → String} {members : List α} {member : α}
    (hn : (members.map key).Nodup) (hm : member ∈ members) :
    members.find? (key · == key member) = some member := by
  induction members with
  | nil => cases hm
  | cons first rest ih =>
    rw [List.map_cons, List.nodup_cons] at hn
    rcases List.mem_cons.1 hm with rfl | hm
    · simp
    · have hne : key first ≠ key member := fun he => hn.1 (he ▸ List.mem_map_of_mem hm)
      rw [List.find?_cons_of_neg (by simpa using hne)]
      exact ih hn.2 hm

end LayoutParity
