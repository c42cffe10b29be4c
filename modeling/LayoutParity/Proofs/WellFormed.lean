import LayoutParity.Schema.Validity

/-!
# Well-formed declarations

`Schema.WellFormed` says what a declaration has to be on its own, without looking into the structs
it holds: its names are not blank, it has a field, its field names are told apart, and no repeat
count or array length is zero. `Schema.validate` accepts exactly these declarations
(`Schema.validate_eq_ok_iff`).
-/

namespace LayoutParity

/-- The lengths of the arrays around the innermost element, outermost first. -/
def FieldType.lengths : FieldType → List Nat
  | .primitive _ | .struct _ => []
  | .array element count => count :: element.lengths

/-- A field that can stand in a declaration on its own. -/
structure Field.WellFormed (field : Field) : Prop where
  name : Text.trim field.name ≠ ""
  count : field.count? ≠ some 0
  lengths : 0 ∉ field.type.lengths

/-- A declaration that is well formed apart from the structs it holds. -/
structure Schema.WellFormed (schema : Schema) : Prop where
  name : Text.trim schema.name ≠ ""
  nonempty : schema.fields ≠ []
  fields : ∀ field ∈ schema.fields, field.WellFormed
  distinct : (schema.fields.map (·.name)).Nodup

theorem FieldType.hasZeroLength_eq_false_iff (type : FieldType) :
    type.hasZeroLength = false ↔ 0 ∉ type.lengths := by
  match type with
  | .primitive _ | .struct _ => simp [FieldType.hasZeroLength, FieldType.lengths]
  | .array element count =>
    have ih := FieldType.hasZeroLength_eq_false_iff element
    rw [FieldType.hasZeroLength, FieldType.lengths, Bool.or_eq_false_iff, ih,
      beq_eq_false_iff_ne, List.mem_cons, not_or, ne_comm]

theorem Text.isBlankText_eq_false_iff (text : String) :
    Text.isBlankText text = false ↔ Text.trim text ≠ "" := by
  rw [ne_eq, Text.trim_eq_empty_iff, Bool.not_eq_true]

/-- A check that comes before others finds nothing if it passes and they find nothing. -/
theorem ite_some_eq_none_iff {α : Type} {p : Prop} [Decidable p] {found : α} {rest : Option α} :
    (if p then some found else rest) = none ↔ ¬p ∧ rest = none := by
  by_cases h : p <;> simp [h]

/-- A field has no defect exactly if it is well formed and its name is not taken. -/
theorem Field.defect?_eq_none_iff (seen : List String) (field : Field) :
    field.defect? seen = none ↔ field.WellFormed ∧ field.name ∉ seen := by
  rw [Field.defect?, ite_some_eq_none_iff, ite_some_eq_none_iff, ite_some_eq_none_iff,
    ite_some_eq_none_iff, List.contains_iff_mem, Bool.not_eq_true, Bool.not_eq_true,
    Text.isBlankText_eq_false_iff, FieldType.hasZeroLength_eq_false_iff]
  constructor
  · rintro ⟨hname, hseen, hcount, hlengths, -⟩
    exact ⟨⟨hname, hcount, hlengths⟩, hseen⟩
  · rintro ⟨⟨hname, hcount, hlengths⟩, hseen⟩
    exact ⟨hname, hseen, hcount, hlengths, rfl⟩

/-- Fields have no defect exactly if each is well formed, and their names are told apart from each
other and from those seen before. -/
theorem Field.firstDefect?_eq_none_iff (seen : List String) (fields : List Field) :
    Field.firstDefect? seen fields = none ↔
      (∀ field ∈ fields, field.WellFormed ∧ field.name ∉ seen) ∧ (fields.map (·.name)).Nodup := by
  induction fields generalizing seen with
  | nil => simp [Field.firstDefect?]
  | cons field rest ih =>
    rw [Field.firstDefect?, Option.or_eq_none_iff, Field.defect?_eq_none_iff, ih, List.map_cons,
      List.nodup_cons, List.forall_mem_cons]
    constructor
    · rintro ⟨hfield, hrest, hn⟩
      refine ⟨⟨hfield, fun other ho => ⟨(hrest other ho).1, fun hs =>
        (hrest other ho).2 (.tail _ hs)⟩⟩, fun hm => ?_, hn⟩
      obtain ⟨other, ho, he⟩ := List.mem_map.1 hm
      exact (hrest other ho).2 (he ▸ .head _)
    · rintro ⟨⟨hfield, hrest⟩, hm, hn⟩
      refine ⟨hfield, fun other ho => ⟨(hrest other ho).1, fun hs => ?_⟩, hn⟩
      rcases List.mem_cons.1 hs with he | hs
      · exact hm (he ▸ List.mem_map_of_mem ho)
      · exact (hrest other ho).2 hs

theorem Schema.defect?_eq_none_iff (schema : Schema) :
    schema.defect? = none ↔ schema.WellFormed := by
  rw [Schema.defect?, ite_some_eq_none_iff, ite_some_eq_none_iff, Bool.not_eq_true,
    Text.isBlankText_eq_false_iff, List.isEmpty_iff, Field.firstDefect?_eq_none_iff]
  constructor
  · rintro ⟨hname, hfields, hall, hn⟩
    exact ⟨hname, hfields, fun field hf => (hall field hf).1, hn⟩
  · rintro ⟨hname, hfields, hall, hn⟩
    exact ⟨hname, hfields, fun field hf => ⟨hall field hf, List.not_mem_nil⟩, hn⟩

/-- Exactly the well-formed declarations are accepted. -/
theorem Schema.validate_eq_ok_iff (schema : Schema) :
    schema.validate = .ok () ↔ schema.WellFormed := by
  rw [← Schema.defect?_eq_none_iff, Schema.validate]
  cases schema.defect? <;> simp

/-- Any other declaration is refused under its own name, for its first defect. -/
theorem Schema.validate_eq_error_iff {schema : Schema} {problem : Problem} :
    schema.validate = .error problem ↔
      ∃ defect, schema.defect? = some defect ∧ problem = .invalidSchema schema.name defect := by
  rw [Schema.validate]
  cases schema.defect? <;> simp [eq_comm]

end LayoutParity
