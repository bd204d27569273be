import RateGovernor.Dynamics.Balances
import RateGovernor.Foundation.Accrual

namespace RateGovernor.Dynamics.Accruing

open Model.CheckedMath Model.Bucket Foundation.Accrual Buckets Balances Scaling

variable {bucket first last : TokenBucket} {now : U64}

section Refills

def balanceOf (bucket : TokenBucket) : Balance :=
  ⟨bucket.tokens.toNat, bucket.fractionalNumerator.toNat⟩

def earns (bucket : TokenBucket) (elapsed : ℕ) (balance : Balance) : Balance :=
  accrue bucket.capacity.toNat second bucket.rateUps.toNat elapsed balance

theorem toNat_capped (capacity filled : U64) :
    (capped capacity filled).toNat = min capacity.toNat filled.toNat := by
  unfold capped
  split
  · next h =>
    have h := UInt64.lt_iff_toNat_lt.1 h
    omega
  · next h =>
    have h := UInt64.le_iff_toNat_le.1 (UInt64.not_lt.1 h)
    omega

/-- What the refill of a bucket that is not ahead of the clock leaves: the balance it has earned,
unless the bucket keeps nothing, or has earned more than a word can count. -/
inductive Refreshed (bucket : TokenBucket) (now : U64) : TokenBucket → Prop
  | closed (capacity : bucket.capacity = 0) :
      Refreshed bucket now { bucket with lastRefillNs := now }
  | flooded (open_ : bucket.capacity ≠ 0)
      (earned : 2 ^ 64 * second ≤ bucket.rateUps.toNat * (now.toNat - bucket.lastRefillNs.toNat)) :
      Refreshed bucket now { bucket with
        lastRefillNs := now, tokens := bucket.capacity, fractionalNumerator := 0 }
  | accrued {tokens fraction : U64} (open_ : bucket.capacity ≠ 0)
      (balance : (⟨tokens.toNat, fraction.toNat⟩ : Balance) =
        earns bucket (now.toNat - bucket.lastRefillNs.toNat) (balanceOf bucket)) :
      Refreshed bucket now { bucket with
        lastRefillNs := now, tokens := tokens, fractionalNumerator := fraction }

theorem balance_earned {scaled : DivMod} (hwithin : Within bucket)
    (hdue : bucket.lastRefillNs ≤ now)
    (hproduct : mulDivMod (now - bucket.lastRefillNs) bucket.rateUps kNanosecondsPerSecond =
      some scaled) :
    (⟨(capped bucket.capacity (saturatingAdd bucket.tokens (saturatingAdd scaled.quotient
        ((bucket.fractionalNumerator + scaled.remainder) / kNanosecondsPerSecond)))).toNat,
      ((bucket.fractionalNumerator + scaled.remainder) % kNanosecondsPerSecond).toNat⟩ :
        Balance) =
      earns bucket (now.toNat - bucket.lastRefillNs.toNat) (balanceOf bucket) := by
  have hspec := @mulDivMod_spec (now - bucket.lastRefillNs) bucket.rateUps kNanosecondsPerSecond
    (by decide)
  rw [hproduct] at hspec
  obtain ⟨hnone, -⟩ | ⟨result, hsome, hexact, hrest⟩ := hspec
  · cases hnone
  cases hsome
  rw [UInt64.toNat_sub_of_le _ _ hdue, toNat_second, Nat.mul_comm (now.toNat - _)] at hexact
  have hfraction := UInt64.lt_iff_toNat_lt.1 hwithin.fraction
  have hrest := UInt64.lt_iff_toNat_lt.1 hrest
  rw [toNat_second] at hfraction hrest
  have hcarry : (bucket.fractionalNumerator + scaled.remainder).toNat =
      bucket.fractionalNumerator.toNat + scaled.remainder.toNat := by
    rw [UInt64.toNat_add, Nat.mod_eq_of_lt]
    simp only [second] at hfraction hrest
    omega
  have htotal : bucket.fractionalNumerator.toNat +
      bucket.rateUps.toNat * (now.toNat - bucket.lastRefillNs.toNat) =
      second * scaled.quotient.toNat +
        (bucket.fractionalNumerator.toNat + scaled.remainder.toNat) := by
    rw [hexact, Nat.mul_comm second]
    omega
  have hcapacity := bucket.capacity.toNat_lt
  ext
  · simp only [earns, accrue, balanceOf]
    rw [htotal, Nat.mul_add_div (by decide), toNat_capped, toNat_saturatingAdd,
      toNat_saturatingAdd, UInt64.toNat_div, hcarry, toNat_second]
    omega
  · simp only [earns, accrue, balanceOf]
    rw [htotal, Nat.mul_add_mod, UInt64.toNat_mod, hcarry, toNat_second]

theorem balance_idle (hwithin : Within bucket) {elapsed : ℕ}
    (hidle : elapsed = 0 ∨ bucket.rateUps = 0) :
    balanceOf bucket = earns bucket elapsed (balanceOf bucket) := by
  have hnothing : bucket.rateUps.toNat * elapsed = 0 := by
    obtain rfl | hrate := hidle
    · exact Nat.mul_zero _
    · rw [hrate]
      exact Nat.zero_mul _
  have hzero := @accrue_zero bucket.capacity.toNat second bucket.rateUps.toNat (balanceOf bucket)
    (UInt64.le_iff_toNat_le.1 hwithin.tokens) (UInt64.lt_iff_toNat_lt.1 hwithin.fraction)
  have hsame : earns bucket elapsed (balanceOf bucket) = earns bucket 0 (balanceOf bucket) := by
    unfold earns accrue
    rw [hnothing, Nat.mul_zero]
  exact (hsame.trans hzero).symm

theorem refreshed_refillBucket (hwithin : Within bucket) (hknown : bucket.initialized = true)
    (hdue : bucket.lastRefillNs ≤ now) : Refreshed bucket now (refillBucket bucket now).1 := by
  unfold refillBucket
  rw [if_neg (by rw [hknown]; exact nofun), if_neg (UInt64.not_lt.2 hdue)]
  have helapsed := UInt64.toNat_sub_of_le _ _ hdue
  simp only
  split
  · next hidle =>
    rw [if_neg (UInt64.not_lt.2 hwithin.tokens)]
    by_cases hclosed : bucket.capacity = 0
    · exact .closed hclosed
    · refine .accrued hclosed (balance_idle hwithin ?_)
      simp only [Bool.or_eq_true, decide_eq_true_eq, hclosed, or_false] at hidle
      refine hidle.imp_left fun hzero ↦ ?_
      rw [← helapsed, hzero]
      rfl
  · next hmoves =>
    have hopen : bucket.capacity ≠ 0 := by
      simp only [Bool.or_eq_true, decide_eq_true_eq, not_or] at hmoves
      exact hmoves.2
    split
    · next hnone =>
      refine .flooded hopen ?_
      have hspec := @mulDivMod_spec (now - bucket.lastRefillNs) bucket.rateUps
        kNanosecondsPerSecond (by decide)
      rw [hnone, helapsed, toNat_second, Nat.mul_comm (now.toNat - _)] at hspec
      obtain ⟨-, hflood⟩ | ⟨_, hsome, -⟩ := hspec
      · exact hflood
      · cases hsome
    · next scaled hproduct => exact .accrued hopen (balance_earned hwithin hdue hproduct)

end Refills

section Intervals

/-- What refills since `first` have made of the bucket, by any way of splitting the interval. -/
inductive Tracks (first : TokenBucket) : TokenBucket → Prop
  | closed {now : U64} (capacity : first.capacity = 0) (later : first.lastRefillNs ≤ now) :
      Tracks first { first with lastRefillNs := now }
  | flooded {now fraction : U64} (open_ : first.capacity ≠ 0) (later : first.lastRefillNs ≤ now)
      (small : fraction < kNanosecondsPerSecond)
      (earned : 2 ^ 64 * second ≤ first.rateUps.toNat * (now.toNat - first.lastRefillNs.toNat)) :
      Tracks first { first with
        lastRefillNs := now, tokens := first.capacity, fractionalNumerator := fraction }
  | accrued {now tokens fraction : U64} (open_ : first.capacity ≠ 0)
      (later : first.lastRefillNs ≤ now)
      (balance : (⟨tokens.toNat, fraction.toNat⟩ : Balance) =
        earns first (now.toNat - first.lastRefillNs.toNat) (balanceOf first)) :
      Tracks first { first with
        lastRefillNs := now, tokens := tokens, fractionalNumerator := fraction }

theorem tracks_rfl (hwithin : Within first) : Tracks first first := by
  by_cases hclosed : first.capacity = 0
  · exact .closed hclosed (UInt64.le_refl _)
  · refine .accrued hclosed (UInt64.le_refl _) ?_
    rw [Nat.sub_self]
    exact balance_idle hwithin (.inl rfl)

theorem Tracks.limits (h : Tracks first last) : last.capacity = first.capacity ∧
    last.rateUps = first.rateUps ∧ last.initialized = first.initialized ∧
      first.lastRefillNs ≤ last.lastRefillNs := by
  cases h with
  | closed _ later => exact ⟨rfl, rfl, rfl, later⟩
  | flooded _ later => exact ⟨rfl, rfl, rfl, later⟩
  | accrued _ later => exact ⟨rfl, rfl, rfl, later⟩

theorem full_of_flooded {elapsed : ℕ} (bucket : TokenBucket) (balance : Balance)
    (h : 2 ^ 64 * second ≤ bucket.rateUps.toNat * elapsed) :
    (earns bucket elapsed balance).whole = bucket.capacity.toNat := by
  have hcapacity := Nat.mul_le_mul_right second (Nat.le_of_lt bucket.capacity.toNat_lt)
  exact whole_accrue_of_le (by decide)
    (Nat.le_trans hcapacity (Nat.le_trans h (Nat.le_add_left _ _)))

theorem tracks_refresh (h : Tracks first last) (hwithin : Within last)
    (hknown : last.initialized = true) (hdue : last.lastRefillNs ≤ now) :
    Tracks first (refillBucket last now).1 := by
  obtain ⟨hcapacity, hrate, -, hsince⟩ := h.limits
  have hlater := UInt64.le_trans hsince hdue
  have hsplit : last.lastRefillNs.toNat - first.lastRefillNs.toNat +
      (now.toNat - last.lastRefillNs.toNat) = now.toNat - first.lastRefillNs.toNat := by
    have h1 := UInt64.le_iff_toNat_le.1 hsince
    have h2 := UInt64.le_iff_toNat_le.1 hdue
    omega
  have hrefreshed := refreshed_refillBucket hwithin hknown hdue
  generalize (refillBucket last now).1 = refilled at hrefreshed
  cases hrefreshed with
  | closed hclosed =>
    cases h with
    | closed hclosed => exact .closed hclosed hlater
    | flooded hopen => exact absurd hclosed hopen
    | accrued hopen => exact absurd hclosed hopen
  | flooded hopen hflood =>
    have hearned : 2 ^ 64 * second ≤
        first.rateUps.toNat * (now.toNat - first.lastRefillNs.toNat) := by
      rw [hrate] at hflood
      refine Nat.le_trans hflood (Nat.mul_le_mul_left _ ?_)
      omega
    have hzero : (0 : U64) < kNanosecondsPerSecond := by decide
    cases h with
    | closed hclosed => exact absurd hclosed hopen
    | flooded hopen => exact .flooded hopen hlater hzero hearned
    | accrued hopen => exact .flooded hopen hlater hzero hearned
  | @accrued tokens fraction hopen hbalance =>
    have hfraction : fraction < kNanosecondsPerSecond := by
      have hpart : fraction.toNat = _ % second := congrArg Balance.part hbalance
      rw [UInt64.lt_iff_toNat_lt, hpart]
      exact Nat.mod_lt _ (by decide)
    cases h with
    | closed hclosed => exact absurd hclosed hopen
    | @flooded before held hopen hsince hsmall hearned =>
      have hwhole : tokens = first.capacity := by
        have hwhole := congrArg Balance.whole hbalance
        have hcap : tokens.toNat = min first.capacity.toNat (first.capacity.toNat + _) := hwhole
        rw [Nat.min_eq_left (Nat.le_add_right _ _)] at hcap
        exact UInt64.toNat_inj.1 hcap
      rw [hwhole]
      refine .flooded hopen hlater hfraction (Nat.le_trans hearned (Nat.mul_le_mul_left _ ?_))
      exact Nat.sub_le_sub_right (UInt64.le_iff_toNat_le.1 hdue) _
    | @accrued before held kept hopen hsince hheld =>
      refine .accrued hopen hlater (hbalance.trans ?_)
      have hjoined := @accrue_accrue first.capacity.toNat second first.rateUps.toNat
        (before.toNat - first.lastRefillNs.toNat) (now.toNat - before.toNat) (balanceOf first)
        (by decide)
      rw [← hsplit]
      refine Eq.trans ?_ hjoined
      exact congrArg (accrue _ _ _ _) hheld

end Intervals

end RateGovernor.Dynamics.Accruing
