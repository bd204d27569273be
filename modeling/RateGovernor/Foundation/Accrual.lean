import Mathlib.Data.Nat.Basic
import Mathlib.Order.Basic

namespace RateGovernor.Foundation.Accrual

/-- Whole units, and the part of another one that has been earned. -/
@[ext]
structure Balance where
  whole : ℕ
  part : ℕ

/-- What a balance has become after a while, when `rate` parts are earned at every instant and no
more than `cap` units are kept. -/
def accrue (cap unit rate elapsed : ℕ) (balance : Balance) : Balance where
  whole := min cap (balance.whole + (balance.part + rate * elapsed) / unit)
  part := (balance.part + rate * elapsed) % unit

variable {cap unit rate elapsed elapsed' : ℕ} {balance : Balance}

theorem add_div_carry (hunit : 0 < unit) (x y : ℕ) :
    (x + y) / unit = x / unit + (x % unit + y) / unit := by
  have hsplit : x + y = unit * (x / unit) + (x % unit + y) := by
    rw [← Nat.add_assoc, Nat.div_add_mod]
  rw [hsplit, Nat.mul_add_div hunit]

theorem accrue_zero (hwhole : balance.whole ≤ cap) (hpart : balance.part < unit) :
    accrue cap unit rate 0 balance = balance := by
  ext
  · simp only [accrue, Nat.mul_zero, Nat.add_zero, Nat.div_eq_of_lt hpart]
    exact Nat.min_eq_right hwhole
  · exact Nat.mod_eq_of_lt hpart

/-- Splitting an interval changes nothing. -/
theorem accrue_accrue (hunit : 0 < unit) :
    accrue cap unit rate elapsed' (accrue cap unit rate elapsed balance) =
      accrue cap unit rate (elapsed + elapsed') balance := by
  have hsum : balance.part + rate * (elapsed + elapsed') =
      balance.part + rate * elapsed + rate * elapsed' := by
    rw [Nat.mul_add, Nat.add_assoc]
  ext
  · simp only [accrue]
    rw [hsum, add_div_carry hunit (balance.part + rate * elapsed)]
    generalize (balance.part + rate * elapsed) / unit = first
    generalize ((balance.part + rate * elapsed) % unit + rate * elapsed') / unit = second
    omega
  · simp only [accrue]
    rw [hsum, Nat.mod_add_mod]

/-- A balance that has earned as much as it can keep is full. -/
theorem whole_accrue_of_le (hunit : 0 < unit)
    (h : cap * unit ≤ balance.part + rate * elapsed) :
    (accrue cap unit rate elapsed balance).whole = cap := by
  have hearned := (Nat.le_div_iff_mul_le hunit).2 h
  simp only [accrue]
  omega

end RateGovernor.Foundation.Accrual
