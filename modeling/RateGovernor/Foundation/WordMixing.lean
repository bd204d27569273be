import Mathlib.Algebra.Group.Units.Equiv
import Mathlib.Data.BitVec

namespace RateGovernor.Foundation.WordMixing

variable {w k : ℕ} {c inverse : BitVec w}

/-- Two shifts of a word by the same distance, one after the other. -/
theorem shift_twice (x : BitVec w) (k : ℕ) : x >>> k >>> k = x >>> (2 * k) := by
  rw [← BitVec.shiftRight_add, Nat.two_mul]

theorem shift_thrice (x : BitVec w) (h : w ≤ 3 * k) : x >>> (2 * k) >>> k = 0#w := by
  rw [← BitVec.shiftRight_add]
  exact BitVec.ushiftRight_eq_zero (by omega)

/-- Adding a word to its own right shift, when three shifts leave nothing of it. The inverse adds
two shifts. -/
def xorShift (k : ℕ) (h : w ≤ 3 * k) : BitVec w ≃ BitVec w where
  toFun x := x ^^^ (x >>> k)
  invFun z := z ^^^ (z >>> k) ^^^ (z >>> (2 * k))
  left_inv x := by
    have hfar : x >>> k >>> (2 * k) = 0#w := by
      rw [← BitVec.shiftRight_add, Nat.add_comm, BitVec.shiftRight_add, shift_thrice x h]
    simp only [BitVec.ushiftRight_xor_distrib, shift_twice, hfar, BitVec.xor_zero]
    grind
  right_inv z := by
    simp only [BitVec.ushiftRight_xor_distrib, shift_twice, shift_thrice z h, BitVec.xor_zero]
    grind

/-- Multiplying by a word that has an inverse. -/
def scale (h : c * inverse = 1) : BitVec w ≃ BitVec w :=
  Units.mulRight ⟨c, inverse, h, (mul_comm inverse c).trans h⟩

@[simp]
theorem xorShift_apply (h : w ≤ 3 * k) (x : BitVec w) : xorShift k h x = x ^^^ (x >>> k) := rfl

@[simp]
theorem scale_apply (h : c * inverse = 1) (x : BitVec w) : scale h x = x * c := rfl

end RateGovernor.Foundation.WordMixing
