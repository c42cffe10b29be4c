import LayoutParity.Arithmetic
import Mathlib.Data.Nat.Basic

/-!
# Wrapping around

What a 64-bit word keeps of a number is its remainder (`Arithmetic.wrap`), and a result in `word`
arithmetic is what is kept of the exact one: of a sum (`Arithmetic.add_eq`), of a product
(`Arithmetic.mul_eq`) and of a rounded offset (`Arithmetic.roundUp_eq`). The last is so because an
alignment divides the number of words, or has no bit in a word: clearing the low bits of what is
kept of an offset is clearing those of the offset.

It makes no difference whether operands are wrapped before, so chains of operations are compared by
their exact results. And a multiple of an alignment stays one (`Arithmetic.bytes_dvd_wrap`), so
layouts stay aligned however large they are.
-/

namespace LayoutParity

/-- Rounding down what is left of a number is what is left of the number rounded down. -/
theorem mod_div_mul {bytes size : Nat} (h : bytes ∣ size) (x : Nat) :
    x % size / bytes * bytes = x / bytes * bytes % size := by
  obtain ⟨n, rfl⟩ := h
  rw [Nat.mod_mul_right_div_self, Nat.mul_comm bytes n, Nat.mul_mod_mul_right]

namespace Alignment

variable {a : Alignment}

/-! ## The bits below an alignment -/

theorem toNat_word (h : a.bytes < UInt64.size) : a.word.toNat = a.bytes :=
  UInt64.toNat_ofNat_of_lt' h

/-- The word before an alignment has exactly the bits below it. -/
theorem toNat_mask (h : a.bytes < UInt64.size) : (a.word - 1).toNat = a.bytes - 1 := by
  have hpos := a.bytes_pos
  have hone : (1 : UInt64) ≤ a.word := by
    rw [UInt64.le_iff_toNat_le, toNat_word h]
    exact hpos
  rw [UInt64.toNat_sub_of_le _ _ hone, toNat_word h]
  rfl

/-- The low bits of a word are its remainder. -/
theorem toNat_and_mask (h : a.bytes < UInt64.size) (x : UInt64) :
    (x &&& (a.word - 1)).toNat = x.toNat % a.bytes := by
  rw [UInt64.toNat_and, toNat_mask h]
  exact Nat.and_two_pow_sub_one_eq_mod x.toNat a.log

/-- Clearing the low bits of a word rounds it down to a multiple. -/
theorem toNat_and_not_mask (h : a.bytes < UInt64.size) (x : UInt64) :
    (x &&& ~~~(a.word - 1)).toNat = x.toNat / a.bytes * a.bytes := by
  have hnot : (~~~(a.word - 1)).toNat = 2 ^ 64 - (a.bytes - 1 + 1) := by
    rw [UInt64.toNat_not, toNat_mask h]
    unfold UInt64.size
    omega
  have hmask : 2 ^ a.log - 1 < 2 ^ 64 := by
    have hlt : 2 ^ a.log < 2 ^ 64 := h
    omega
  rw [UInt64.toNat_and, hnot]
  show x.toNat &&& (2 ^ 64 - (2 ^ a.log - 1 + 1)) = x.toNat / 2 ^ a.log * 2 ^ a.log
  apply Nat.eq_of_testBit_eq
  intro i
  rw [Nat.testBit_and, Nat.testBit_two_pow_sub_succ hmask, Nat.testBit_two_pow_sub_one,
    Nat.testBit_mul_two_pow, Nat.testBit_div_two_pow]
  by_cases hlow : i < a.log
  · have hnle : ¬ a.log ≤ i := Nat.not_le.2 hlow
    simp [hlow, hnle]
  · have hle : a.log ≤ i := Nat.not_lt.1 hlow
    rw [Nat.sub_add_cancel hle]
    by_cases hi : i < 64
    · simp [hlow, hle, hi]
    · have hzero : x.toNat.testBit i = false := by
        refine Nat.testBit_lt_two_pow (Nat.lt_of_lt_of_le x.toNat_lt ?_)
        exact Nat.pow_le_pow_right (by omega) (Nat.not_lt.1 hi)
      simp [hzero]

theorem bytes_dvd_size (h : a.bytes < UInt64.size) : a.bytes ∣ UInt64.size := by
  have hpow : 2 ^ a.log < 2 ^ 64 := h
  exact Nat.pow_dvd_pow 2 (Nat.le_of_lt ((Nat.pow_lt_pow_iff_right (by omega)).1 hpow))

/-- An alignment divides the number of words, unless it is beyond them and they all are low bits of
it. -/
theorem bytes_dvd_size_or (a : Alignment) :
    (a.bytes < UInt64.size ∧ a.bytes ∣ UInt64.size) ∨ UInt64.size ∣ a.bytes := by
  by_cases h : a.log < 64
  · have hlt : a.bytes < UInt64.size := Nat.pow_lt_pow_right (by omega) h
    exact .inl ⟨hlt, bytes_dvd_size hlt⟩
  · exact .inr (Nat.pow_dvd_pow 2 (Nat.not_lt.1 h))

/-! ## Rounding a word up -/

/-- The masks keep of a rounded offset what fits into a word: the carry may wrap around, and
clearing the low bits before or after that is the same. -/
theorem toNat_roundUpWord_eq (h : a.bytes < UInt64.size) (x : UInt64) :
    (a.roundUpWord x).toNat = a.roundUp x.toNat % UInt64.size := by
  have hcarry : (x + a.word - 1).toNat = (x.toNat + (a.bytes - 1)) % UInt64.size := by
    have hpos := a.bytes_pos
    have hone : (1 : UInt64).toNat = 1 := rfl
    rw [UInt64.toNat_sub, UInt64.toNat_add, toNat_word h, hone]
    unfold UInt64.size at h ⊢
    omega
  rw [roundUpWord, toNat_and_not_mask h, hcarry, mod_div_mul (bytes_dvd_size h), roundUp]

/-- Wrapping an offset first makes no difference to what is left of it when it is rounded. -/
theorem roundUp_mod_size (h : a.bytes < UInt64.size) (x : Nat) :
    a.roundUp (x % UInt64.size) % UInt64.size = a.roundUp x % UInt64.size := by
  have hsize := bytes_dvd_size h
  rw [roundUp, roundUp, ← mod_div_mul hsize, ← mod_div_mul hsize, Nat.mod_add_mod]

end Alignment

namespace Arithmetic

/-- What an arithmetic keeps of a number. -/
def wrap : Arithmetic → Nat → Nat
  | exact, n => n
  | word, n => n % UInt64.size

@[simp] theorem wrap_exact (n : Nat) : exact.wrap n = n := rfl

@[simp] theorem add_exact (x y : Nat) : exact.add x y = x + y := rfl

@[simp] theorem mul_exact (x y : Nat) : exact.mul x y = x * y := rfl

@[simp] theorem roundUp_exact (a : Alignment) (x : Nat) : exact.roundUp a x = a.roundUp x := rfl

section
variable (arith : Arithmetic)

/-- A number that fits into a word is kept. -/
theorem wrap_of_lt {n : Nat} (h : n < UInt64.size) : arith.wrap n = n := by
  cases arith with
  | exact => rfl
  | word => exact Nat.mod_eq_of_lt h

@[simp] theorem wrap_zero : arith.wrap 0 = 0 := by
  cases arith <;> rfl

@[simp] theorem wrap_wrap (n : Nat) : arith.wrap (arith.wrap n) = arith.wrap n := by
  cases arith with
  | exact => rfl
  | word => exact Nat.mod_mod n UInt64.size

theorem wrap_le (n : Nat) : arith.wrap n ≤ n := by
  cases arith with
  | exact => exact Nat.le_refl n
  | word => exact Nat.mod_le n UInt64.size

@[simp] theorem wrap_wrap_add (x y : Nat) : arith.wrap (arith.wrap x + y) = arith.wrap (x + y) := by
  cases arith with
  | exact => rfl
  | word => exact Nat.mod_add_mod x UInt64.size y

@[simp] theorem wrap_add_wrap (x y : Nat) : arith.wrap (x + arith.wrap y) = arith.wrap (x + y) := by
  rw [Nat.add_comm, wrap_wrap_add, Nat.add_comm]

@[simp] theorem wrap_wrap_mul (x y : Nat) : arith.wrap (arith.wrap x * y) = arith.wrap (x * y) := by
  cases arith with
  | exact => rfl
  | word => exact Nat.mod_mul_mod x y UInt64.size

@[simp] theorem wrap_mul_wrap (x y : Nat) : arith.wrap (x * arith.wrap y) = arith.wrap (x * y) := by
  rw [Nat.mul_comm, wrap_wrap_mul, Nat.mul_comm]

/-- A multiple of an alignment stays one. -/
theorem bytes_dvd_wrap {a : Alignment} {x : Nat} (h : a.bytes ∣ x) : a.bytes ∣ arith.wrap x := by
  cases arith with
  | exact => exact h
  | word =>
    obtain ⟨-, hsize⟩ | hbeyond := a.bytes_dvd_size_or
    · exact (Nat.dvd_mod_iff hsize).2 h
    · rw [wrap, Nat.mod_eq_zero_of_dvd (Nat.dvd_trans hbeyond h)]
      exact Nat.dvd_zero _

/-! ## The operations -/

theorem add_eq (x y : Nat) : arith.add x y = arith.wrap (x + y) := by
  cases arith with
  | exact => rfl
  | word => simp [add, wrap, UInt64.size]

theorem mul_eq (x y : Nat) : arith.mul x y = arith.wrap (x * y) := by
  cases arith with
  | exact => rfl
  | word => simp [mul, wrap, UInt64.size, Nat.mul_mod]

end

theorem roundUp_eq (arith : Arithmetic) (a : Alignment) (x : Nat) :
    arith.roundUp a x = arith.wrap (a.roundUp x) := by
  cases arith with
  | exact => rfl
  | word =>
    rw [roundUp, wrap]
    obtain ⟨hword, -⟩ | hbeyond := a.bytes_dvd_size_or
    · rw [Alignment.toNat_roundUpWord_eq hword, Nat.toUInt64_eq, UInt64.toNat_ofNat']
      exact Alignment.roundUp_mod_size hword x
    · -- No bit of the alignment is in a word, so there all bits are low and are cleared.
      have hzero : a.word = 0 := by
        rw [← UInt64.toNat_inj, Alignment.word, UInt64.toNat_ofNat']
        exact Nat.mod_eq_zero_of_dvd hbeyond
      have hmultiple := Nat.dvd_trans hbeyond (a.bytes_dvd_roundUp x)
      rw [Alignment.roundUpWord, hzero, Nat.mod_eq_zero_of_dvd hmultiple]
      simp

section
variable (arith : Arithmetic)

@[simp] theorem wrap_add (x y : Nat) : arith.wrap (arith.add x y) = arith.add x y := by
  rw [add_eq, wrap_wrap]

@[simp] theorem wrap_mul (x y : Nat) : arith.wrap (arith.mul x y) = arith.mul x y := by
  rw [mul_eq, wrap_wrap]

@[simp] theorem wrap_roundUp (a : Alignment) (x : Nat) :
    arith.wrap (arith.roundUp a x) = arith.roundUp a x := by
  rw [roundUp_eq, wrap_wrap]

/-- Wrapping an offset first makes no difference to rounding it. -/
theorem roundUp_wrap (a : Alignment) (x : Nat) :
    arith.roundUp a (arith.wrap x) = arith.roundUp a x := by
  cases arith with
  | exact => rfl
  | word =>
    have h : (x % UInt64.size).toUInt64 = x.toUInt64 := by
      rw [← UInt64.toNat_inj]
      exact Nat.mod_mod x UInt64.size
    rw [wrap, roundUp, roundUp, h]

theorem mul_comm (x y : Nat) : arith.mul x y = arith.mul y x := by
  rw [mul_eq, mul_eq, Nat.mul_comm]

theorem mul_assoc (x y z : Nat) : arith.mul (arith.mul x y) z = arith.mul x (arith.mul y z) := by
  simp only [mul_eq, wrap_wrap_mul, wrap_mul_wrap, Nat.mul_assoc]

theorem one_mul (x : Nat) : arith.mul 1 x = arith.wrap x := by
  rw [mul_eq, Nat.one_mul]

theorem add_assoc (x y z : Nat) : arith.add (arith.add x y) z = arith.add x (arith.add y z) := by
  simp only [add_eq, wrap_wrap_add, wrap_add_wrap, Nat.add_assoc]

theorem bytes_dvd_roundUp (a : Alignment) (x : Nat) : a.bytes ∣ arith.roundUp a x := by
  rw [roundUp_eq]
  exact arith.bytes_dvd_wrap (a.bytes_dvd_roundUp x)

theorem roundUp_of_dvd {a : Alignment} {x : Nat} (h : a.bytes ∣ x) :
    arith.roundUp a x = arith.wrap x := by
  rw [roundUp_eq, Alignment.roundUp_of_dvd h]

theorem bytes_dvd_add {a : Alignment} {x y : Nat} (hx : a.bytes ∣ x) (hy : a.bytes ∣ y) :
    a.bytes ∣ arith.add x y := by
  rw [add_eq]
  exact arith.bytes_dvd_wrap (Nat.dvd_add hx hy)

theorem bytes_dvd_mul {a : Alignment} {y : Nat} (x : Nat) (hy : a.bytes ∣ y) :
    a.bytes ∣ arith.mul x y := by
  rw [mul_eq]
  exact arith.bytes_dvd_wrap (Nat.dvd_mul_left_of_dvd hy x)

theorem bytes_dvd_mul_right {a : Alignment} {x : Nat} (hx : a.bytes ∣ x) (y : Nat) :
    a.bytes ∣ arith.mul x y := by
  rw [mul_comm]
  exact arith.bytes_dvd_mul y hx

end

end Arithmetic

end LayoutParity
