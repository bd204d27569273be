import Mathlib.Data.Nat.Bitwise
import Mathlib.Tactic.Ring

namespace RateGovernor.Foundation.WideWords

section Halves

variable (a : UInt64)

theorem toNat_low : (a &&& 0xFFFFFFFF).toNat = a.toNat % 2 ^ 32 := by
  rw [UInt64.toNat_and]
  exact Nat.and_two_pow_sub_one_eq_mod a.toNat 32

theorem toNat_high : (a >>> 32).toNat = a.toNat / 2 ^ 32 := by
  rw [UInt64.toNat_shiftRight]
  exact Nat.shiftRight_eq_div_pow a.toNat 32

theorem toNat_raised : (a <<< 32).toNat = a.toNat % 2 ^ 32 * 2 ^ 32 := by
  rw [UInt64.toNat_shiftLeft]
  show a.toNat <<< 32 % 2 ^ 64 = _
  rw [Nat.shiftLeft_eq]
  omega

/-- The low half of one word put below the low half of another. -/
theorem toNat_joined (b : UInt64) : ((a <<< 32) ||| (b &&& 0xFFFFFFFF)).toNat =
    a.toNat % 2 ^ 32 * 2 ^ 32 + b.toNat % 2 ^ 32 := by
  rw [UInt64.toNat_or, toNat_raised, toNat_low, ← Nat.shiftLeft_eq,
    Nat.shiftLeft_add_eq_or_of_lt (Nat.mod_lt _ (by decide))]

theorem halves (n : ℕ) : n = n / 2 ^ 32 * 2 ^ 32 + n % 2 ^ 32 := by omega

/-- A product of two numbers, from the products of their halves. -/
theorem mul_halves (m n : ℕ) : m * n =
    m / 2 ^ 32 * (n / 2 ^ 32) * 2 ^ 64 +
      (m % 2 ^ 32 * (n / 2 ^ 32) + m / 2 ^ 32 * (n % 2 ^ 32)) * 2 ^ 32 +
      m % 2 ^ 32 * (n % 2 ^ 32) := by
  conv_lhs => rw [halves m, halves n]
  generalize m / 2 ^ 32 = mh, m % 2 ^ 32 = ml, n / 2 ^ 32 = nh, n % 2 ^ 32 = nl
  have hpow : (2 : ℕ) ^ 64 = 2 ^ 32 * 2 ^ 32 := rfl
  rw [hpow]
  ring

end Halves

section LongDivision

variable {value divisor n quotient remainder : ℕ}

/-- How far a binary long division has come when so many bits are left. -/
structure Divided (value divisor n quotient remainder : ℕ) : Prop where
  front : ∃ high, quotient = high * 2 ^ n ∧ value / 2 ^ n = high * divisor + remainder
  small : remainder < divisor

theorem divided_start (h : value / 2 ^ n < divisor) : Divided value divisor n 0 (value / 2 ^ n) :=
  ⟨⟨0, (Nat.zero_mul _).symm, by rw [Nat.zero_mul, Nat.zero_add]⟩, h⟩

/-- The next bit of the value. -/
def nextBit (value n : ℕ) : ℕ := value / 2 ^ n % 2

theorem div_pow_succ (value n : ℕ) :
    value / 2 ^ n = 2 * (value / 2 ^ (n + 1)) + nextBit value n := by
  have hhalf : value / 2 ^ (n + 1) = value / 2 ^ n / 2 := by
    rw [Nat.div_div_eq_div_mul, pow_succ]
  rw [hhalf, nextBit]
  omega

theorem Divided.keep (h : Divided value divisor (n + 1) quotient remainder)
    (hsmall : 2 * remainder + nextBit value n < divisor) :
    Divided value divisor n quotient (2 * remainder + nextBit value n) := by
  obtain ⟨high, rfl, hfront⟩ := h.front
  refine ⟨⟨2 * high, by rw [pow_succ]; ring, ?_⟩, hsmall⟩
  rw [div_pow_succ, hfront]
  ring

theorem Divided.subtract (h : Divided value divisor (n + 1) quotient remainder)
    (hlarge : divisor ≤ 2 * remainder + nextBit value n) :
    Divided value divisor n (quotient + 2 ^ n) (2 * remainder + nextBit value n - divisor) := by
  have hbit : nextBit value n < 2 := Nat.mod_lt _ (by decide)
  have hsmall := h.small
  obtain ⟨high, rfl, hfront⟩ := h.front
  refine ⟨⟨2 * high + 1, by rw [pow_succ]; ring, ?_⟩, by omega⟩
  have hmul : (2 * high + 1) * divisor = 2 * (high * divisor) + divisor := by ring
  rw [div_pow_succ, hfront, hmul]
  omega

theorem Divided.done (h : Divided value divisor 0 quotient remainder) :
    value = quotient * divisor + remainder ∧ remainder < divisor := by
  obtain ⟨high, rfl, hfront⟩ := h.front
  rw [pow_zero, Nat.div_one] at hfront
  rw [pow_zero, Nat.mul_one]
  exact ⟨hfront, h.small⟩

/-- Setting a bit below all that are set adds it. -/
theorem or_pow_eq_add (high n : ℕ) : high * 2 ^ (n + 1) ||| 2 ^ n = high * 2 ^ (n + 1) + 2 ^ n := by
  rw [← Nat.shiftLeft_eq, Nat.shiftLeft_add_eq_or_of_lt]
  exact Nat.pow_lt_pow_right (by decide) (Nat.lt_succ_self n)

end LongDivision

end RateGovernor.Foundation.WideWords
