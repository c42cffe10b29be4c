import LayoutParity.Proofs.Placement

/-!
# Rounding by masks

On a machine word an offset is rounded up by a carry into the bits above the alignment, after which
the low bits are cleared, and it is aligned if its low bits are clear. Clearing the low bits of a
word rounds it down to a multiple (`Alignment.toNat_and_not_mask`), and the low bits alone are the
remainder (`Alignment.toNat_and_mask`). So as long as the carry fits into a word the masks do what
`Alignment.roundUp` and `Alignment.isAligned` do with exact numbers
(`Alignment.toNat_roundUpWord`, `Alignment.isAlignedWord_eq`).

The sum in between may be one past the last word, which is where a word is rounded to the last
multiple for the second time: the sum wraps to zero and subtracting one brings it back.
-/

namespace LayoutParity

namespace Alignment

variable {a : Alignment}

/-! ## Masks and exact numbers -/

theorem isAlignedWord_eq (h : a.bytes < UInt64.size) (x : UInt64) :
    a.isAlignedWord x = a.isAligned x.toNat := by
  rw [isAlignedWord, isAligned, Bool.eq_iff_iff, beq_iff_eq, beq_iff_eq, ← UInt64.toNat_inj,
    toNat_and_mask h]
  rfl

theorem isAlignedWord_iff (h : a.bytes < UInt64.size) (x : UInt64) :
    a.isAlignedWord x = true ↔ a.bytes ∣ x.toNat := by
  rw [isAlignedWord_eq h, isAligned_iff]

theorem toNat_roundUpWord (h : a.bytes < UInt64.size) {x : UInt64}
    (hx : x.toNat + a.bytes ≤ UInt64.size) : (a.roundUpWord x).toNat = a.roundUp x.toNat := by
  have hlt : a.roundUp x.toNat < UInt64.size := Nat.lt_of_lt_of_le (a.roundUp_lt x.toNat) hx
  rw [toNat_roundUpWord_eq h, Nat.mod_eq_of_lt hlt]

/-- The words end at a multiple of every alignment, so there is room for the carry at a multiple. -/
theorem add_bytes_le_size (h : a.bytes < UInt64.size) {multiple : Nat} (hm : a.bytes ∣ multiple)
    (hlt : multiple < UInt64.size) : multiple + a.bytes ≤ UInt64.size := by
  obtain ⟨k, hk⟩ := hm
  obtain ⟨n, hn⟩ := bytes_dvd_size h
  rw [hk, hn] at hlt
  have hkn : k < n := Nat.lt_of_mul_lt_mul_left hlt
  rw [hk, hn, ← Nat.mul_succ]
  exact Nat.mul_le_mul_left _ hkn

/-- Rounding a word by masks is rounding to the least multiple. Let an alignment fit into a word
behind an offset. The offset is moved to the least multiple that is not before it, by less than the
alignment; it is found to be aligned exactly if it is a multiple, and exactly if it is not moved.
Rounding a second time changes nothing, and no offset before this one is moved behind its place. An
offset that is aligned strictly is aligned less strictly too. -/
theorem masks_round_to_least (a : Alignment) (x : UInt64) (hx : x.toNat + a.bytes < UInt64.size) :
    IsLeast {multiple | a.bytes ∣ multiple ∧ x.toNat ≤ multiple} (a.roundUpWord x).toNat ∧
    (a.isAlignedWord x = true ↔ a.bytes ∣ x.toNat) ∧
    (a.isAlignedWord x = true ↔ a.roundUpWord x = x) ∧
    a.roundUpWord (a.roundUpWord x) = a.roundUpWord x ∧
    (∀ y ≤ x, a.roundUpWord y ≤ a.roundUpWord x) ∧
    (a.roundUpWord x).toNat - x.toNat < a.bytes ∧
    ∀ b : Alignment, a.bytes ≤ b.bytes → b.bytes < UInt64.size → ∀ y : UInt64,
      b.isAlignedWord y = true → a.isAlignedWord y = true := by
  have ha : a.bytes < UInt64.size := by omega
  have hword := toNat_roundUpWord ha (Nat.le_of_lt hx)
  have hle := a.le_roundUp x.toNat
  have hlt := a.roundUp_lt x.toNat
  have hdvd := a.bytes_dvd_roundUp x.toNat
  have hleast := a.isLeast_roundUp x.toNat
  rw [← hword] at hle hlt hdvd hleast
  refine ⟨hleast, isAlignedWord_iff ha x, ?_, ?_, ?_, ?_, ?_⟩
  · rw [isAlignedWord_iff ha, ← UInt64.toNat_inj]
    constructor
    · intro haligned
      rw [hword, roundUp_of_dvd haligned]
    · intro hsame
      rw [← hsame]
      exact hdvd
  · have hroom := add_bytes_le_size ha hdvd (a.roundUpWord x).toNat_lt
    rw [← UInt64.toNat_inj, toNat_roundUpWord ha hroom, roundUp_of_dvd hdvd]
  · intro y hyx
    have hy : y.toNat ≤ x.toNat := UInt64.le_iff_toNat_le.1 hyx
    have hroom : y.toNat + a.bytes ≤ UInt64.size := by omega
    rw [UInt64.le_iff_toNat_le, hword, toNat_roundUpWord ha hroom]
    exact roundUp_mono (Nat.le_refl a.log) hy
  · omega
  · intro b hab hb y hy
    rw [isAlignedWord_iff hb] at hy
    rw [isAlignedWord_iff ha]
    exact Nat.dvd_trans (bytes_dvd_bytes (bytes_le_bytes_iff.1 hab)) hy

/-- One byte behind a multiple of 16, with the carry just fitting into a word: the offset goes to
the last multiple that a word can hold, where the second rounding wraps and comes back. -/
theorem masks_round_to_least_last :
    let x : UInt64 := 18446744073709551585
    x.toNat + vector.bytes < UInt64.size ∧
    IsLeast {multiple | 16 ∣ multiple ∧ x.toNat ≤ multiple} 18446744073709551600 ∧
    vector.isAlignedWord x = false ∧
    vector.roundUpWord 18446744073709551600 = 18446744073709551600 ∧
    18446744073709551600 - x.toNat < 16 ∧ scalar.isAlignedWord 18446744073709551600 = true := by
  intro x
  have hx : x.toNat + vector.bytes < UInt64.size := by decide
  have hmoved : vector.roundUpWord x = 18446744073709551600 := by decide
  obtain ⟨hleast, hdvd, hfixed, htwice, -, hnear, -⟩ := masks_round_to_least vector x hx
  rw [hmoved] at hleast htwice hnear
  refine ⟨hx, hleast, ?_, htwice, hnear, ?_⟩
  · rw [← Bool.not_eq_true, hdvd]
    decide
  · have hstrict := (masks_round_to_least scalar x (by decide)).2.2.2.2.2.2
    exact hstrict vector (by decide) (by decide) _ (by decide)

end Alignment

end LayoutParity
