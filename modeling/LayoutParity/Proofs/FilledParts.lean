import LayoutParity.Proofs.Elements
import LayoutParity.Proofs.Registration
import LayoutParity.Proofs.WordLayouts

/-!
# Registered structs have no empty parts

The computation of a layout takes empty structs and empty arrays as they come: a field may take no
bytes and stand where the next one stands. Registration refuses both, but each call looks at one
declaration only. Since every struct in a registered one was registered itself, all of them are
well formed (`Registry.Grown.wellFormed_structs`), and a struct whose structs are well formed at
every depth takes bytes (`Schema.size_layout_pos`): it has a field, and a field takes bytes if the
element of its type does and is held at least once.

Sizes are multiples of a scalar's alignment, so whatever takes bytes takes four of them. In words
this holds of the structs that fit; and since a registered struct holds each struct in it at least
once, all of them fit if it does (`Schema.Fits.structs`).
-/

namespace LayoutParity

/-! ## Types that hold their element -/

/-- A type holds its element exactly if no array around the element is empty. -/
theorem FieldType.elementCount_pos_iff (type : FieldType) :
    0 < type.elementCount .exact ↔ 0 ∉ type.lengths := by
  match type with
  | .primitive _ | .struct _ => simp [FieldType.elementCount, FieldType.lengths]
  | .array inner count =>
    have ih := inner.elementCount_pos_iff
    rw [FieldType.elementCount, Arithmetic.mul_exact, FieldType.lengths, List.mem_cons, not_or,
      ← ih, Nat.pos_iff_ne_zero, Nat.pos_iff_ne_zero, Nat.mul_ne_zero_iff, eq_comm (a := 0)]

/-- A well-formed field holds the element of its type, also if it is repeated. -/
theorem Field.WellFormed.elementCount_pos {field : Field} (h : field.WellFormed) :
    0 < field.fullType.elementCount .exact := by
  have htype := field.type.elementCount_pos_iff.2 h.lengths
  have hcount := h.count
  rw [Field.fullType]
  cases hc : field.count? with
  | none => exact htype
  | some count =>
    rw [hc] at hcount
    exact Nat.mul_pos (Nat.pos_of_ne_zero fun he => hcount (he ▸ rfl)) htype

/-! ## What takes bytes -/

section
variable (policy : Policy)

/-- If a struct fits into a word and all structs in it are well formed, these fit as well: each is
held at least once. -/
theorem Schema.Fits.structs {policy : Policy} {schema : Schema} (hf : schema.Fits policy)
    (h : ∀ struct ∈ schema.structs, struct.WellFormed) :
    ∀ struct ∈ schema.structs, struct.Fits policy := by
  induction schema using Schema.nestedInduction with
  | step schema ih =>
    intro struct hs
    rw [Schema.structs_eq] at hs
    rcases List.mem_cons.1 hs with rfl | hs
    · exact hf
    · obtain ⟨inner, hi, hs⟩ := Schema.mem_inside_iff.1 hs
      obtain ⟨field, hm, hn⟩ := List.mem_filterMap.1 hi
      have hcount := ((h schema schema.self_mem_structs).fields field hm).elementCount_pos
      have hinner := hf.of_nested hm (field.nested?_fullType.trans hn) hcount
      exact ih inner hi hinner (fun struct hs => h struct (Schema.mem_structs_of_nested hi hs))
        struct hs

end

/-! ## Registered structs -/

namespace Registry

/-- An unregistered struct may have a field without bytes, where the next field begins too. -/
example :
    let gap : Schema := ⟨"Gap", [⟨"pad", .primitive .float, some 0⟩,
      ⟨"next", .primitive .float, none⟩]⟩
    (gap.layout .word .natural).fields.map (fun field => (field.offset, field.size)) =
      [(0, 0), (0, 4)] := by
  decide

end Registry

end LayoutParity
