import LayoutParity.Alignment

/-!
# Arithmetic of sizes and offsets

The program counts bytes in 64-bit words, and a sum, a product or a rounded offset that does not fit
into a word wraps around without a sign of it. The rules of a layout are the same with exact
numbers, so they are given once, for either arithmetic. The numbers are naturals both times: in
`word` arithmetic every operation goes through machine words, and its result is below
`UInt64.size`.

The program is the one with `word`. What it computes agrees with `exact` as long as nothing
overflows.
-/

namespace LayoutParity

/-- How sizes and offsets are calculated with. -/
inductive Arithmetic where
  /-- Without a bound. -/
  | exact
  /-- As 64-bit words, wrapping around. -/
  | word
deriving DecidableEq, Repr

namespace Arithmetic

/-- The sum of two numbers. -/
def add : Arithmetic → Nat → Nat → Nat
  | exact, x, y => x + y
  | word, x, y => (x.toUInt64 + y.toUInt64).toNat

/-- The product of two numbers. -/
def mul : Arithmetic → Nat → Nat → Nat
  | exact, x, y => x * y
  | word, x, y => (x.toUInt64 * y.toUInt64).toNat

/-- An offset rounded up to a multiple of an alignment. -/
def roundUp : Arithmetic → Alignment → Nat → Nat
  | exact, alignment, offset => alignment.roundUp offset
  | word, alignment, offset => (alignment.roundUpWord offset.toUInt64).toNat

end Arithmetic

end LayoutParity
