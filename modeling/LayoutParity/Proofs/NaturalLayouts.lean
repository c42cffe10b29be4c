import LayoutParity.Proofs.Holes
import LayoutParity.Proofs.NaturalHost

/-!
# Natural packing

Under the natural policy every block is tight: it is aligned like a scalar and a whole number of
scalars long. Such blocks are placed side by side: none is moved, so they leave no hole
(`FieldLayout.holesFrom_placeFrom`), and each begins where the bytes before it end
(`FieldLayout.offset_placeFrom`). A struct without holes has the bytes of its fields, and these are
counted in lanes (`Schema.laneCount`), through nested structs, arrays and repeat counts. Words keep
the remainders of these numbers, since rounding never comes into it.

A type also has a size and an alignment of its own, found without a policy
(`FieldType.naturalSize`, `FieldType.naturalAlignment`). They are what the natural policy gives it.
-/

namespace LayoutParity

mutual

/-- The lanes that a type holds, in all the elements of its arrays. -/
def FieldType.laneCount : FieldType → Nat
  | .primitive type => type.lanes
  | .struct schema => schema.laneCount
  | .array element count => count * element.laneCount

/-- The lanes of a struct, through nested structs. -/
def Schema.laneCount : Schema → Nat
  | ⟨_, fields⟩ => Field.laneCountOfAll fields

/-- The lanes of some fields. -/
def Field.laneCountOfAll : List Field → Nat
  | [] => 0
  | field :: rest => field.laneCount + Field.laneCountOfAll rest

/-- The lanes of a field, as often as it is repeated. -/
def Field.laneCount : Field → Nat
  | ⟨_, type, none⟩ => type.laneCount
  | ⟨_, type, some count⟩ => count * type.laneCount

end

section
variable {arith : Arithmetic}

end

section
variable (arith : Arithmetic)

end

theorem FieldLayout.totalBytes_append (fields others : List FieldLayout) :
    totalBytes (fields ++ others) = totalBytes fields + totalBytes others := by
  induction fields with
  | nil => rw [List.nil_append, totalBytes, Nat.zero_add]
  | cons field rest ih => rw [List.cons_append, totalBytes, totalBytes, ih, Nat.add_assoc]

section
variable (arith : Arithmetic)

/-- The natural policy gives a type the size and the alignment that it has on its own. -/
theorem FieldType.extent_natural (type : FieldType) :
    (type.extent arith .natural).size = type.naturalSize arith ∧
      (type.extent arith .natural).alignment = type.naturalAlignment arith := by
  match type with
  | .primitive _ | .struct _ => exact ⟨rfl, rfl⟩
  | .array inner count =>
    obtain ⟨hsize, halign⟩ := FieldType.extent_natural inner
    refine ⟨?_, halign⟩
    rw [FieldType.naturalSize, ← hsize, ← halign]
    rfl

/-- The type model and the natural policy agree: the policy gives every type, of any dimensions and
depth, the type's own size and alignment, in either arithmetic. So in a naturally packed struct, at
every depth, each field has the size and the alignment of the type that is recorded for it, which
has the repeat count as an array. -/
theorem FieldType.natural_policy_agrees :
    (∀ type : FieldType, (type.extent arith .natural).size = type.naturalSize arith ∧
      (type.extent arith .natural).alignment = type.naturalAlignment arith) ∧
    ∀ schema : Schema,
      (schema.layout arith .natural).layouts = schema.structs.map (Schema.layout arith .natural) ∧
      ∀ struct ∈ schema.structs,
        List.Forall₂ (fun field placed => placed.type = field.fullType ∧
            placed.size = placed.type.naturalSize arith ∧
            placed.alignment = placed.type.naturalAlignment arith)
          struct.fields (struct.layout arith .natural).fields := by
  refine ⟨FieldType.extent_natural arith, fun schema =>
    ⟨schema.layouts_layout arith .natural, ?_⟩⟩
  intro struct _
  refine (struct.forall₂_laidOut arith .natural).imp fun field placed hp => ?_
  obtain ⟨hsize, halign⟩ := field.fullType.extent_natural arith
  rw [hp.type, hp.size, hp.alignment]
  exact ⟨rfl, hsize, halign⟩

end

end LayoutParity
