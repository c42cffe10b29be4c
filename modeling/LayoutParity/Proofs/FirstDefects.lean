import LayoutParity.Proofs.WellFormed
import Mathlib.Order.Bounds.Basic

/-!
# The defect that is reported

`Schema.validate` goes through the fields of a declaration in order, carries the names that it has
seen, and stops at the first defect. What it accepts is said of all fields at once: each is well
formed, and no two have one name (`Field.Admissible`). A scan of `before ++ after` is a scan of
`before` and then one of `after` that has seen the names in `before` (`Field.firstDefect?_append`),
so the scan stops at the first field with which the fields up to it are not admissible any more, and
it reports what is wrong with this field behind those before it (`SchemaDefect.IsAbout`).
-/

namespace LayoutParity

/-- Fields that a declaration can have, in this order: each is well formed, and no two have one
name. -/
structure Field.Admissible (fields : List Field) : Prop where
  each : ∀ field ∈ fields, field.WellFormed
  distinct : (fields.map (·.name)).Nodup

/-- The defect is one that a field has behind these earlier fields. -/
inductive SchemaDefect.IsAbout (earlier : List Field) (field : Field) : SchemaDefect → Prop
  | blankName : Text.trim field.name = "" → IsAbout earlier field .blankFieldName
  | duplicate : field.name ∈ earlier.map (·.name) →
      IsAbout earlier field (.duplicateField field.name)
  | zeroCount : field.count? = some 0 → IsAbout earlier field (.zeroCount field.name)
  | zeroLength : 0 ∈ field.type.lengths → IsAbout earlier field (.zeroLength field.name)

/-! ## Admissible fields -/

theorem Field.Admissible.sublist {fields kept : List Field} (h : Field.Admissible fields)
    (hk : kept.Sublist fields) : Field.Admissible kept where
  each := fun field hf => h.each field (hk.subset hf)
  distinct := h.distinct.sublist (hk.map _)

/-- A scan of all fields finds nothing exactly if they are admissible. -/
theorem Field.firstDefect?_nil_eq_none_iff (fields : List Field) :
    Field.firstDefect? [] fields = none ↔ Field.Admissible fields := by
  rw [Field.firstDefect?_eq_none_iff]
  constructor
  · rintro ⟨hall, hn⟩
    exact ⟨fun field hf => (hall field hf).1, hn⟩
  · rintro ⟨hall, hn⟩
    exact ⟨fun field hf => ⟨hall field hf, List.not_mem_nil⟩, hn⟩

theorem Schema.wellFormed_iff_admissible (schema : Schema) :
    schema.WellFormed ↔
      Text.trim schema.name ≠ "" ∧ schema.fields ≠ [] ∧ Field.Admissible schema.fields := by
  constructor
  · rintro ⟨hname, hfields, hall, hn⟩
    exact ⟨hname, hfields, hall, hn⟩
  · rintro ⟨hname, hfields, hall, hn⟩
    exact ⟨hname, hfields, hall, hn⟩

/-! ## Where a scan stops -/

/-- A scan goes on behind fields without a defect, and has then seen their names. -/
theorem Field.firstDefect?_append (seen : List String) (before after : List Field) :
    Field.firstDefect? seen (before ++ after) =
      (Field.firstDefect? seen before).or
        (Field.firstDefect? ((before.map (·.name)).reverse ++ seen) after) := by
  induction before generalizing seen with
  | nil => rfl
  | cons field rest ih =>
    rw [List.cons_append, Field.firstDefect?, Field.firstDefect?, ih, Option.or_assoc]
    simp

/-- The defect that a scan finds is that of a field behind fields without one. -/
theorem Field.exists_of_firstDefect? {seen : List String} {fields : List Field}
    {defect : SchemaDefect} (h : Field.firstDefect? seen fields = some defect) :
    ∃ before field after, fields = before ++ field :: after ∧
      Field.firstDefect? seen before = none ∧
      field.defect? ((before.map (·.name)).reverse ++ seen) = some defect := by
  induction fields generalizing seen with
  | nil => cases h
  | cons field rest ih =>
    rw [Field.firstDefect?] at h
    cases hd : field.defect? seen with
    | some found =>
      rw [hd, Option.some_or] at h
      exact ⟨[], field, rest, rfl, rfl, hd.trans h⟩
    | none =>
      rw [hd, Option.none_or] at h
      obtain ⟨before, other, after, rfl, hnone, hsome⟩ := ih h
      refine ⟨field :: before, other, after, rfl, ?_, ?_⟩
      · rw [Field.firstDefect?, hd, hnone]
        rfl
      · simpa using hsome

/-- What a scan says of a field is about this field and those whose names it has seen. -/
theorem Field.isAbout_of_defect? {seen : List String} {earlier : List Field}
    (hseen : ∀ name ∈ seen, name ∈ earlier.map (·.name)) {field : Field} {defect : SchemaDefect}
    (h : field.defect? seen = some defect) : defect.IsAbout earlier field := by
  rw [Field.defect?] at h
  split at h
  · next hblank =>
    cases h
    exact .blankName ((Text.trim_eq_empty_iff _).2 hblank)
  · split at h
    · next htaken =>
      cases h
      exact .duplicate (hseen _ (List.contains_iff_mem.1 htaken))
    · split at h
      · next hcount =>
        cases h
        exact .zeroCount hcount
      · split at h
        · next hlength =>
          cases h
          refine .zeroLength (Decidable.not_not.1 fun hn => ?_)
          rw [(FieldType.hasZeroLength_eq_false_iff _).2 hn] at hlength
          cases hlength
        · cases h

/-- A scan from the start reports a defect of the first field with which the fields up to it are not
admissible. -/
theorem Field.exists_isLeast_of_firstDefect? {fields : List Field} {defect : SchemaDefect}
    (h : Field.firstDefect? [] fields = some defect) :
    ∃ position field, fields[position]? = some field ∧
      IsLeast {place | ¬Field.Admissible (fields.take (place + 1))} position ∧
      defect.IsAbout (fields.take position) field := by
  obtain ⟨before, field, after, rfl, hnone, hsome⟩ := Field.exists_of_firstDefect? h
  have hbefore : Field.Admissible before := (Field.firstDefect?_nil_eq_none_iff before).1 hnone
  have hupTo : ¬Field.Admissible (before ++ [field]) := by
    intro hadmissible
    rw [← Field.firstDefect?_nil_eq_none_iff, Field.firstDefect?_append, hnone, Option.none_or,
      Field.firstDefect?, hsome] at hadmissible
    cases hadmissible
  refine ⟨before.length, field, by simp, ⟨?_, ?_⟩, ?_⟩
  · show ¬Field.Admissible ((before ++ field :: after).take (before.length + 1))
    rwa [List.take_length_add_append]
  · -- Up to an earlier field there are only fields without a defect.
    intro place hplace
    by_contra hlt
    have htake : (before ++ field :: after).take (place + 1) = before.take (place + 1) :=
      List.take_append_of_le_length (by omega)
    exact hplace (htake ▸ hbefore.sublist (List.take_sublist _ _))
  · rw [List.take_left]
    exact Field.isAbout_of_defect? (by simp) hsome

/-! ## Declarations that are refused -/

/-- Exactly those declarations are accepted whose name is not blank, which have a field, and whose
fields are admissible: their names are not blank and told apart, none has a count of zero, and no
array around their innermost elements has the length zero. A declaration with a name and a field
that is refused is reported by its name and for a defect of one field: the first with which the
fields up to it are not admissible. -/
theorem Schema.refused_for_first_field (schema : Schema) :
    (schema.validate = .ok () ↔
      Text.trim schema.name ≠ "" ∧ schema.fields ≠ [] ∧ Field.Admissible schema.fields) ∧
    ∀ problem, schema.validate = .error problem →
      Text.trim schema.name ≠ "" → schema.fields ≠ [] →
      ∃ position field defect, schema.fields[position]? = some field ∧
        IsLeast {place | ¬Field.Admissible (schema.fields.take (place + 1))} position ∧
        problem = .invalidSchema schema.name defect ∧
        defect.IsAbout (schema.fields.take position) field := by
  refine ⟨?_, fun problem hproblem hname hfields => ?_⟩
  · rw [Schema.validate_eq_ok_iff, Schema.wellFormed_iff_admissible]
  · obtain ⟨defect, hdefect, rfl⟩ := Schema.validate_eq_error_iff.1 hproblem
    have hprinted : ¬Text.isBlankText schema.name = true := by
      rwa [Bool.not_eq_true, Text.isBlankText_eq_false_iff]
    have hsome : ¬schema.fields.isEmpty = true := by simpa using hfields
    rw [Schema.defect?, if_neg hprinted, if_neg hsome] at hdefect
    obtain ⟨position, field, hfield, hleast, habout⟩ :=
      Field.exists_isLeast_of_firstDefect? hdefect
    exact ⟨position, field, defect, hfield, hleast, rfl, habout⟩

end LayoutParity
