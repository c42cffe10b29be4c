/-!
# Alignments

An alignment is a power of two, given by its exponent, so that every value of the type is one.
`Alignment.roundUp` moves an offset to the next multiple. It is stated on exact naturals, where it
is the least multiple that is not before the offset (`le_roundUp`, `bytes_dvd_roundUp`,
`roundUp_le`); `Alignment.roundUpWord` is the same movement on a 64-bit word by masking.
-/

namespace LayoutParity

/-- A power of two that offsets have to be multiples of. -/
structure Alignment where
  /-- The exponent of two. -/
  log : Nat
deriving DecidableEq, Repr

namespace Alignment

/-- The alignment as a number of bytes. -/
def bytes (a : Alignment) : Nat :=
  Nat.pow 2 a.log

/-- The alignment of one 32-bit lane: 4 bytes. -/
def scalar : Alignment := ⟨2⟩

/-- The alignment of a vector register: 16 bytes. -/
def vector : Alignment := ⟨4⟩

instance : LE Alignment := ⟨fun a b => a.log ≤ b.log⟩

instance (a b : Alignment) : Decidable (a ≤ b) :=
  inferInstanceAs (Decidable (a.log ≤ b.log))

/-- The stricter of two alignments. -/
instance : Max Alignment := ⟨fun a b => ⟨max a.log b.log⟩⟩

/-- Whether an offset is a multiple of the alignment. -/
def isAligned (a : Alignment) (offset : Nat) : Bool :=
  offset % a.bytes == 0

/-- The first multiple of the alignment that is not before the offset. -/
def roundUp (a : Alignment) (offset : Nat) : Nat :=
  (offset + (a.bytes - 1)) / a.bytes * a.bytes

/-! ## Rounding on machine words -/

/-- The alignment as a 64-bit word. -/
def word (a : Alignment) : UInt64 :=
  UInt64.ofNat a.bytes

/-- Rounding up by masking: the low bits are carried over and then cleared. -/
def roundUpWord (a : Alignment) (offset : UInt64) : UInt64 :=
  (offset + a.word - 1) &&& ~~~(a.word - 1)

/-- Whether the low bits of a word are clear. -/
def isAlignedWord (a : Alignment) (offset : UInt64) : Bool :=
  offset &&& (a.word - 1) == 0

/-! ## Rounding is to the least multiple -/

theorem bytes_pos (a : Alignment) : 0 < a.bytes :=
  Nat.two_pow_pos a.log

@[simp] theorem bytes_scalar : scalar.bytes = 4 := rfl

@[simp] theorem bytes_vector : vector.bytes = 16 := rfl

theorem isAligned_iff {a : Alignment} {offset : Nat} :
    a.isAligned offset = true ↔ a.bytes ∣ offset := by
  simp [isAligned, Nat.dvd_iff_mod_eq_zero]

theorem bytes_dvd_roundUp (a : Alignment) (offset : Nat) : a.bytes ∣ a.roundUp offset :=
  Nat.dvd_mul_left _ _

theorem le_roundUp (a : Alignment) (offset : Nat) : offset ≤ a.roundUp offset := by
  have h := Nat.div_add_mod (offset + (a.bytes - 1)) a.bytes
  have := Nat.mod_lt (offset + (a.bytes - 1)) a.bytes_pos
  have := Nat.mul_comm a.bytes ((offset + (a.bytes - 1)) / a.bytes)
  have := a.bytes_pos
  unfold roundUp
  omega

/-- No multiple between the offset and the rounded offset is skipped. -/
theorem roundUp_le {a : Alignment} {offset multiple : Nat} (hm : a.bytes ∣ multiple)
    (hle : offset ≤ multiple) : a.roundUp offset ≤ multiple := by
  obtain ⟨k, rfl⟩ := hm
  rw [roundUp, Nat.mul_comm a.bytes k]
  refine Nat.mul_le_mul_right _ (Nat.lt_succ_iff.1 ((Nat.div_lt_iff_lt_mul a.bytes_pos).2 ?_))
  have := a.bytes_pos
  rw [Nat.succ_mul, Nat.mul_comm k]
  omega

theorem roundUp_of_dvd {a : Alignment} {offset : Nat} (h : a.bytes ∣ offset) :
    a.roundUp offset = offset :=
  Nat.le_antisymm (roundUp_le h (Nat.le_refl _)) (a.le_roundUp offset)

end Alignment

end LayoutParity
