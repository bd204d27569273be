import RateGovernor.Foundation.WideWords
import RateGovernor.Model.CheckedMath

namespace RateGovernor.Dynamics.Scaling

open Model.CheckedMath Foundation.WideWords

variable {a b d : U64}

section Products

/-- The number the two halves of a wide value stand for. -/
def valueOf (wide : U128) : ℕ := wide.hi.toNat * 2 ^ 64 + wide.lo.toNat

theorem toNat_mul_halves {m n : ℕ} {x y : U64} (hx : x.toNat = m) (hy : y.toNat = n)
    (hm : m < 2 ^ 32) (hn : n < 2 ^ 32) : (x * y).toNat = m * n := by
  have hproduct := Nat.mul_le_mul (Nat.le_sub_one_of_lt hm) (Nat.le_sub_one_of_lt hn)
  rw [UInt64.toNat_mul, hx, hy, Nat.mod_eq_of_lt]
  omega

theorem value_partials {p0 p1 p2 p3 mid : U64} {product : ℕ} (hlt : product < 2 ^ 128)
    (hproduct : product =
      p3.toNat * 2 ^ 64 + (p1.toNat + p2.toNat) * 2 ^ 32 + p0.toNat)
    (hmid : mid = (p0 >>> 32) + (p1 &&& 0xFFFFFFFF) + (p2 &&& 0xFFFFFFFF)) :
    (p3 + (p1 >>> 32) + (p2 >>> 32) + (mid >>> 32)).toNat * 2 ^ 64 +
      ((mid <<< 32) ||| (p0 &&& 0xFFFFFFFF)).toNat = product := by
  have h0 := p0.toNat_lt
  have hmid : mid.toNat = p0.toNat / 2 ^ 32 + p1.toNat % 2 ^ 32 + p2.toNat % 2 ^ 32 := by
    rw [hmid, UInt64.toNat_add, UInt64.toNat_add, toNat_high, toNat_low, toNat_low]
    omega
  rw [toNat_joined, hmid, UInt64.toNat_add, UInt64.toNat_add, UInt64.toNat_add, toNat_high,
    toNat_high, toNat_high, hmid]
  omega

theorem value_mulWide (a b : U64) : valueOf (mulWide a b) = a.toNat * b.toNat := by
  have ha := a.toNat_lt
  have hb := b.toNat_lt
  have halow : a.toNat % 2 ^ 32 < 2 ^ 32 := Nat.mod_lt _ (by decide)
  have hblow : b.toNat % 2 ^ 32 < 2 ^ 32 := Nat.mod_lt _ (by decide)
  have hahigh : a.toNat / 2 ^ 32 < 2 ^ 32 := by omega
  have hbhigh : b.toNat / 2 ^ 32 < 2 ^ 32 := by omega
  have hlt : a.toNat * b.toNat < 2 ^ 128 := by
    have hproduct := Nat.mul_le_mul (Nat.le_sub_one_of_lt ha) (Nat.le_sub_one_of_lt hb)
    omega
  refine value_partials hlt ?_ rfl
  rw [toNat_mul_halves (toNat_low a) (toNat_low b) halow hblow,
    toNat_mul_halves (toNat_low a) (toNat_high b) halow hbhigh,
    toNat_mul_halves (toNat_high a) (toNat_low b) hahigh hblow,
    toNat_mul_halves (toNat_high a) (toNat_high b) hahigh hbhigh]
  exact mul_halves a.toNat b.toNat

end Products

section Quotients

variable {lo remainder quotient : U64} {n high : ℕ}

theorem toNat_bit (lo : U64) (hn : n < 64) :
    ((lo >>> UInt64.ofNat n) &&& 1).toNat = nextBit lo.toNat n := by
  have hmod : (UInt64.ofNat n).toNat % 64 = n := by
    rw [UInt64.toNat_ofNat_of_lt' (by rw [UInt64.size]; omega)]
    omega
  rw [UInt64.toNat_and, UInt64.toNat_shiftRight, hmod, Nat.shiftRight_eq_div_pow]
  exact Nat.and_one_is_mod _

theorem nextBit_value (hi lo : ℕ) (hn : n < 64) :
    nextBit (hi * 2 ^ 64 + lo) n = nextBit lo n := by
  have hsplit : hi * 2 ^ 64 = 2 ^ n * (2 * (hi * 2 ^ (63 - n))) := by
    have hpow : (2 : ℕ) ^ 64 = 2 ^ n * (2 * 2 ^ (63 - n)) := by
      rw [← Nat.pow_succ', ← Nat.pow_add]
      congr 1
      omega
    rw [hpow]
    ring
  rw [nextBit, nextBit, hsplit, Nat.mul_add_div (Nat.two_pow_pos n)]
  omega

theorem toNat_shifted (remainder bit : U64) (hbit : bit.toNat < 2) :
    ((remainder <<< 1) ||| bit).toNat = (2 * remainder.toNat + bit.toNat) % 2 ^ 64 := by
  have hraised : (remainder <<< 1).toNat = (remainder.toNat % 2 ^ 63) <<< 1 := by
    rw [UInt64.toNat_shiftLeft]
    show remainder.toNat <<< 1 % 2 ^ 64 = _
    rw [Nat.shiftLeft_eq, Nat.shiftLeft_eq]
    omega
  rw [UInt64.toNat_or, hraised, ← Nat.shiftLeft_add_eq_or_of_lt (by omega), Nat.shiftLeft_eq]
  omega

theorem carry_iff (remainder : U64) : remainder >>> 63 ≠ 0 ↔ 2 ^ 63 ≤ remainder.toNat := by
  have hlt := remainder.toNat_lt
  have hcarry : (remainder >>> 63).toNat = remainder.toNat / 2 ^ 63 := by
    rw [UInt64.toNat_shiftRight]
    exact Nat.shiftRight_eq_div_pow _ _
  rw [ne_eq, ← UInt64.toNat_inj, hcarry]
  show ¬ _ = 0 ↔ _
  omega

theorem toNat_set (hn : n < 64) (h : quotient.toNat = high * 2 ^ (n + 1)) :
    (quotient ||| (1 <<< UInt64.ofNat n)).toNat = quotient.toNat + 2 ^ n := by
  have hmod : (UInt64.ofNat n).toNat % 64 = n := by
    rw [UInt64.toNat_ofNat_of_lt' (by rw [UInt64.size]; omega)]
    omega
  have hpow : (2 : ℕ) ^ n < 2 ^ 64 := Nat.pow_lt_pow_right (by decide) hn
  have hone : ((1 : U64) <<< UInt64.ofNat n).toNat = 2 ^ n := by
    rw [UInt64.toNat_shiftLeft, hmod]
    show 1 <<< n % 2 ^ 64 = _
    rw [Nat.shiftLeft_eq, Nat.one_mul, Nat.mod_eq_of_lt hpow]
  rw [UInt64.toNat_or, hone, h, or_pow_eq_add]

theorem divided_divmodLoop {hi : ℕ} (hn : n ≤ 64)
    (h : Divided (hi * 2 ^ 64 + lo.toNat) d.toNat n quotient.toNat remainder.toNat) :
    Divided (hi * 2 ^ 64 + lo.toNat) d.toNat 0 (divmodLoop lo d n remainder quotient).quotient.toNat
      (divmodLoop lo d n remainder quotient).remainder.toNat := by
  induction n generalizing remainder quotient with
  | zero => exact h
  | succ n ih =>
    have hd := d.toNat_lt
    have hsmall := h.small
    have hbit : ((lo >>> UInt64.ofNat n) &&& 1).toNat = nextBit (hi * 2 ^ 64 + lo.toNat) n := by
      rw [toNat_bit lo hn, nextBit_value hi lo.toNat hn]
    have hlt : nextBit (hi * 2 ^ 64 + lo.toNat) n < 2 := Nat.mod_lt _ (by decide)
    have hshifted := toNat_shifted remainder _ (hbit.symm ▸ hlt)
    rw [hbit] at hshifted
    unfold divmodLoop
    simp only
    generalize (remainder <<< 1) ||| ((lo >>> UInt64.ofNat n) &&& 1) = shifted at hshifted
    split
    · next hlarge =>
      have hlarge : d.toNat ≤ 2 * remainder.toNat + nextBit (hi * 2 ^ 64 + lo.toNat) n := by
        obtain hcarry | hle := hlarge
        · have hcarry := (carry_iff remainder).1 hcarry
          omega
        · have hle := UInt64.le_iff_toNat_le.1 hle
          omega
      have hdivided := h.subtract hlarge
      obtain ⟨high, hhigh, -⟩ := h.front
      refine ih (Nat.le_of_succ_le hn) ?_
      rw [toNat_set hn hhigh]
      have hrest : (shifted - d).toNat =
          2 * remainder.toNat + nextBit (hi * 2 ^ 64 + lo.toNat) n - d.toNat := by
        rw [UInt64.toNat_sub, hshifted]
        omega
      rw [hrest]
      exact hdivided
    · next hkept =>
      obtain ⟨hcarry, hkept⟩ := not_or.1 hkept
      have hcarry := mt (carry_iff remainder).2 hcarry
      have hkept := mt UInt64.le_iff_toNat_le.2 hkept
      refine ih (Nat.le_of_succ_le hn) ?_
      have hshifted : shifted.toNat =
          2 * remainder.toNat + nextBit (hi * 2 ^ 64 + lo.toNat) n := by omega
      rw [hshifted]
      exact h.keep (by omega)

theorem modLoop_eq (lo d : U64) (n : ℕ) (remainder quotient : U64) :
    modLoop lo d n remainder = (divmodLoop lo d n remainder quotient).remainder := by
  induction n generalizing remainder quotient with
  | zero => rfl
  | succ n ih =>
    simp only [modLoop, divmodLoop]
    split
    · exact ih _ _
    · exact ih _ _

/-- From a high half below the divisor, the loop divides the value the two halves stand for. -/
theorem divmodLoop_spec {hi : U64} (lo : U64) (hhi : hi < d) :
    hi.toNat * 2 ^ 64 + lo.toNat =
        (divmodLoop lo d 64 hi 0).quotient.toNat * d.toNat +
          (divmodLoop lo d 64 hi 0).remainder.toNat ∧
      (divmodLoop lo d 64 hi 0).remainder.toNat < d.toNat := by
  have hlt := UInt64.lt_iff_toNat_lt.1 hhi
  have hlo := lo.toNat_lt
  have hfront : (hi.toNat * 2 ^ 64 + lo.toNat) / 2 ^ 64 = hi.toNat := by omega
  have hstart : Divided (hi.toNat * 2 ^ 64 + lo.toNat) d.toNat 64 (0 : U64).toNat hi.toNat := by
    have hbegun := @divided_start (hi.toNat * 2 ^ 64 + lo.toNat) d.toNat 64
      (by rw [hfront]; exact hlt)
    rwa [hfront] at hbegun
  exact (divided_divmodLoop (Nat.le_refl 64) hstart).done

end Quotients

theorem mulDivMod_spec (hd : d ≠ 0) :
    (mulDivMod a b d = none ∧ 2 ^ 64 * d.toNat ≤ a.toNat * b.toNat) ∨
    ∃ result, mulDivMod a b d = some result ∧
      a.toNat * b.toNat = result.quotient.toNat * d.toNat + result.remainder.toNat ∧
      result.remainder < d := by
  have hvalue := value_mulWide a b
  unfold mulDivMod divmodWide
  rw [if_neg hd, if_neg hd]
  generalize mulWide a b = wide at hvalue
  unfold valueOf at hvalue
  split
  · next hle =>
    have hle := UInt64.le_iff_toNat_le.1 hle
    refine .inl ⟨rfl, ?_⟩
    rw [← hvalue, Nat.mul_comm]
    exact Nat.le_add_right_of_le (Nat.mul_le_mul_right _ hle)
  · next hlt =>
    obtain ⟨hexact, hsmall⟩ := divmodLoop_spec wide.lo (UInt64.not_le.1 hlt)
    exact .inr ⟨_, rfl, hvalue ▸ hexact, UInt64.lt_iff_toNat_lt.2 hsmall⟩

theorem mulDivMod_zero (a b : U64) : mulDivMod a b 0 = none := rfl

theorem div_of_mulDivMod (hd : d ≠ 0) :
    (mulDivMod a b d = none ∧ 2 ^ 64 ≤ a.toNat * b.toNat / d.toNat) ∨
    ∃ result, mulDivMod a b d = some result ∧
      result.quotient.toNat = a.toNat * b.toNat / d.toNat := by
  have hpos : 0 < d.toNat := by
    have hne := mt UInt64.toNat_inj.1 hd
    rw [UInt64.toNat_zero] at hne
    omega
  obtain ⟨hnone, hlarge⟩ | ⟨result, hsome, hexact, hsmall⟩ := mulDivMod_spec (a := a) (b := b) hd
  · exact .inl ⟨hnone, (Nat.le_div_iff_mul_le hpos).2 hlarge⟩
  · refine .inr ⟨result, hsome, ?_⟩
    have hsmall := UInt64.lt_iff_toNat_lt.1 hsmall
    rw [hexact, Nat.mul_comm, Nat.mul_add_div hpos, Nat.div_eq_of_lt hsmall, Nat.add_zero]

theorem saturatingMulDiv_spec (a b : U64) (hd : d ≠ 0) :
    (saturatingMulDiv a b d).toNat = min (a.toNat * b.toNat / d.toNat) (2 ^ 64 - 1) := by
  have hunfold : saturatingMulDiv a b d = (mulDivMod a b d).elim kU64Max DivMod.quotient := by
    rw [saturatingMulDiv, mulDivMod, if_neg hd]
  rw [hunfold]
  obtain ⟨hnone, hlarge⟩ | ⟨result, hsome, hdiv⟩ := div_of_mulDivMod (a := a) (b := b) hd
  · have hmax : kU64Max.toNat = 2 ^ 64 - 1 := rfl
    rw [hnone, Option.elim_none, hmax]
    omega
  · have hlt := result.quotient.toNat_lt
    rw [hsome, Option.elim_some, hdiv]
    omega

/-- The high half can be reduced before the loop. -/
theorem mod_high (hi lo m : ℕ) :
    (hi % m * 2 ^ 64 + lo) % m = (hi * 2 ^ 64 + lo) % m := by
  rw [Nat.add_mod, Nat.mul_mod, Nat.mod_mod, ← Nat.mul_mod, ← Nat.add_mod]

theorem mulMod_spec (a b : U64) (hd : d ≠ 0) :
    ∃ result, mulMod a b d = some result ∧ result.toNat = a.toNat * b.toNat % d.toNat := by
  have hvalue := value_mulWide a b
  have hpos : 0 < d := UInt64.pos_iff_ne_zero.2 hd
  rw [mulMod, if_neg hd]
  refine ⟨_, rfl, ?_⟩
  generalize mulWide a b = wide at hvalue
  obtain ⟨hexact, hsmall⟩ := divmodLoop_spec wide.lo (UInt64.mod_lt wide.hi hpos)
  rw [modLoop_eq wide.lo d 64 (wide.hi % d) 0, ← hvalue, valueOf, ← mod_high,
    ← UInt64.toNat_mod, hexact, Nat.mul_comm, Nat.mul_add_mod, Nat.mod_eq_of_lt hsmall]

/-- The 128-bit helpers compute with the exact product: none of them wraps, and each fails exactly
when its result is not defined or does not fit in a word. -/
theorem exact_helpers (a b d : U64) :
    valueOf (mulWide a b) = a.toNat * b.toNat ∧
    ((mulDivMod a b d).isSome ↔ d ≠ 0 ∧ a.toNat * b.toNat / d.toNat < 2 ^ 64) ∧
    (∀ result, mulDivMod a b d = some result →
      a.toNat * b.toNat = result.quotient.toNat * d.toNat + result.remainder.toNat ∧
      result.remainder < d) ∧
    ((mulMod a b d).isSome ↔ d ≠ 0) ∧
    (∀ result, mulMod a b d = some result → result.toNat = a.toNat * b.toNat % d.toNat) ∧
    (d ≠ 0 → (saturatingMulDiv a b d).toNat = min (a.toNat * b.toNat / d.toNat) (2 ^ 64 - 1)) := by
  refine ⟨value_mulWide a b, ?_⟩
  by_cases hd : d = 0
  · subst hd
    have hmod : mulMod a b 0 = none := rfl
    rw [mulDivMod_zero, hmod]
    exact ⟨by simp, by simp, by simp, by simp, fun hne ↦ absurd rfl hne⟩
  · obtain ⟨reduced, hmod, hreduced⟩ := mulMod_spec a b hd
    refine ⟨⟨fun hsome ↦ ⟨hd, ?_⟩, fun hfits ↦ ?_⟩, ?_, ?_, ?_, fun _ ↦ saturatingMulDiv_spec a b hd⟩
    · obtain ⟨hnone, -⟩ | ⟨result, -, hdiv⟩ := div_of_mulDivMod (a := a) (b := b) hd
      · rw [hnone] at hsome
        exact absurd hsome Bool.false_ne_true
      · exact hdiv ▸ result.quotient.toNat_lt
    · obtain ⟨-, hlarge⟩ | ⟨result, hsome, -⟩ := div_of_mulDivMod (a := a) (b := b) hd
      · exact absurd hlarge (Nat.not_le.2 hfits.2)
      · rw [hsome]
        rfl
    · intro result hsome
      obtain ⟨hnone, -⟩ | ⟨found, hfound, hexact⟩ := mulDivMod_spec (a := a) (b := b) hd
      · exact absurd (hnone.symm.trans hsome) (Option.some_ne_none _).symm
      · cases hfound.symm.trans hsome
        exact hexact
    · rw [hmod]
      exact ⟨fun _ ↦ hd, fun _ ↦ rfl⟩
    · intro result hsome
      cases hmod.symm.trans hsome
      exact hreduced

end RateGovernor.Dynamics.Scaling
