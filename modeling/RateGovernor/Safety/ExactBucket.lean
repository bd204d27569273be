import Mathlib.Data.List.Induction
import RateGovernor.Dynamics.Accruing

namespace RateGovernor.Safety.ExactBucket

open Model.CheckedMath Model.Bucket Foundation.Accrual Dynamics.Buckets Dynamics.Balances
open Dynamics.Accruing

variable {bucket first last last' : TokenBucket} {now : U64} {instants : List U64}

section Splitting

def refillAll (bucket : TokenBucket) (instants : List U64) : TokenBucket :=
  instants.foldl (fun bucket now ↦ (refillBucket bucket now).1) bucket

/-- A bucket that refills in order have brought forward to one of their instants. -/
structure Forwarded (first : TokenBucket) (instants : List U64) (last : TokenBucket) : Prop where
  tracks : Tracks first last
  within : Within last
  known : last.initialized = true
  anchor : last.lastRefillNs ∈ first.lastRefillNs :: instants

theorem forwarded_refillBucket (h : Forwarded first instants last)
    (hdue : last.lastRefillNs ≤ now) :
    Forwarded first (instants ++ [now]) (refillBucket last now).1 := by
  have hrefills := refills_refillBucket last now
  have hanchor := Refills.anchored hrefills hdue
  refine ⟨tracks_refresh h.tracks h.within h.known hdue, hrefills.within h.within,
    hrefills.limits.2.2, ?_⟩
  rw [hanchor]
  exact List.mem_cons_of_mem _ (List.mem_append_right _ List.mem_cons_self)

theorem refillAll_append (bucket : TokenBucket) (instants : List U64) (now : U64) :
    refillAll bucket (instants ++ [now]) = (refillBucket (refillAll bucket instants) now).1 := by
  unfold refillAll
  rw [List.foldl_append, List.foldl_cons, List.foldl_nil]

theorem forwarded_refillAll (hwithin : Within first) (hknown : first.initialized = true)
    (hsorted : (first.lastRefillNs :: instants).Pairwise (· ≤ ·)) :
    Forwarded first instants (refillAll first instants) := by
  induction instants using List.reverseRecOn with
  | nil => exact ⟨tracks_rfl hwithin, hwithin, hknown, List.mem_cons_self⟩
  | append_singleton instants now ih =>
    rw [← List.cons_append] at hsorted
    obtain ⟨hsorted, -, hdue⟩ := List.pairwise_append.1 hsorted
    have hforwarded := ih hsorted
    rw [refillAll_append]
    exact forwarded_refillBucket hforwarded
      (hdue _ hforwarded.anchor now List.mem_cons_self)

/-- Two ways of splitting an interval leave the same tokens, and the same bucket as long as what
the interval earns is counted by a word. -/
theorem tracks_agree (h : Tracks first last) (h' : Tracks first last')
    (hanchor : last.lastRefillNs = last'.lastRefillNs) : last.tokens = last'.tokens ∧
      (first.rateUps.toNat * (last.lastRefillNs.toNat - first.lastRefillNs.toNat) <
        2 ^ 64 * second → last = last') := by
  cases h with
  | closed hclosed =>
    cases h' with
    | closed =>
      cases hanchor
      exact ⟨rfl, fun _ ↦ rfl⟩
    | flooded hopen => exact absurd hclosed hopen
    | accrued hopen => exact absurd hclosed hopen
  | @flooded now fraction hopen _ _ hearned =>
    cases h' with
    | closed hclosed => exact absurd hclosed hopen
    | flooded => exact ⟨rfl, fun hlt ↦ absurd hearned (Nat.not_le.2 hlt)⟩
    | @accrued now' tokens' _ _ _ hbalance =>
      cases hanchor
      refine ⟨UInt64.toNat_inj.1 ?_, fun hlt ↦ absurd hearned (Nat.not_le.2 hlt)⟩
      have hwhole : tokens'.toNat = _ := congrArg Balance.whole hbalance
      exact (hwhole.trans (full_of_flooded first _ hearned)).symm
  | @accrued now tokens fraction hopen _ hbalance =>
    cases h' with
    | closed hclosed => exact absurd hclosed hopen
    | flooded _ _ _ hearned =>
      cases hanchor
      refine ⟨UInt64.toNat_inj.1 ?_, fun hlt ↦ absurd hearned (Nat.not_le.2 hlt)⟩
      have hwhole : tokens.toNat = _ := congrArg Balance.whole hbalance
      exact hwhole.trans (full_of_flooded first _ hearned)
    | @accrued now' tokens' fraction' _ _ hbalance' =>
      cases hanchor
      have hsame := hbalance.trans hbalance'.symm
      have htokens : tokens = tokens' := UInt64.toNat_inj.1 (congrArg Balance.whole hsame)
      have hfraction : fraction = fraction' := UInt64.toNat_inj.1 (congrArg Balance.part hsame)
      subst htokens hfraction
      exact ⟨rfl, fun _ ↦ rfl⟩

end Splitting

section Sequences

/-- What is done to a bucket between two configurations. -/
inductive Operation
  | refill (now : U64)
  | consume (amount : U64)

/-- A bucket, and the tokens taken from it so far. -/
structure Ledger where
  bucket : TokenBucket
  consumed : ℕ := 0

def operate (ledger : Ledger) : Operation → Ledger
  | .refill now => { ledger with bucket := (refillBucket ledger.bucket now).1 }
  | .consume amount => match tryConsume ledger.bucket amount with
    | none => ledger
    | some bucket => { bucket, consumed := ledger.consumed + amount.toNat }

/-- What every operation keeps: the bounds, and what has been taken and what is left against what
there was and what time has earned. -/
structure Balanced (first : TokenBucket) (ledger : Ledger) : Prop where
  within : Within ledger.bucket
  rate : ledger.bucket.rateUps = first.rateUps
  known : ledger.bucket.initialized = true
  later : first.lastRefillNs ≤ ledger.bucket.lastRefillNs
  covered : ledger.consumed * second + wealth ledger.bucket ≤ wealth first +
    first.rateUps.toNat * (ledger.bucket.lastRefillNs.toNat - first.lastRefillNs.toNat)

theorem balanced_rfl (hwithin : Within first) (hknown : first.initialized = true) :
    Balanced first { bucket := first } where
  within := hwithin
  rate := rfl
  known := hknown
  later := UInt64.le_refl _
  covered := by
    rw [Nat.zero_mul, Nat.zero_add]
    exact Nat.le_add_right _ _

theorem balanced_refill {ledger : Ledger} (h : Balanced first ledger) (now : U64) :
    Balanced first (operate ledger (.refill now)) := by
  have hrefills := refills_refillBucket ledger.bucket now
  obtain ⟨-, hrate, hknown⟩ := hrefills.limits
  refine ⟨hrefills.within h.within, hrate.trans h.rate, hknown, ?_, ?_⟩
  · by_cases hdue : ledger.bucket.lastRefillNs ≤ now
    · show first.lastRefillNs ≤ (refillBucket ledger.bucket now).1.lastRefillNs
      rw [Refills.anchored hrefills hdue]
      exact UInt64.le_trans h.later hdue
    · rw [operate, refillBucket_early h.known (UInt64.not_le.1 hdue)]
      exact h.later
  · by_cases hdue : ledger.bucket.lastRefillNs ≤ now
    · have hanchor := Refills.anchored hrefills hdue
      have hdue := UInt64.le_iff_toNat_le.1 hdue
      have hwealth := Refills.wealth_le hrefills h.within.fraction
      have hlater := UInt64.le_iff_toNat_le.1 h.later
      have hcovered := h.covered
      show ledger.consumed * second + wealth (refillBucket ledger.bucket now).1 ≤ wealth first +
        first.rateUps.toNat *
          ((refillBucket ledger.bucket now).1.lastRefillNs.toNat - first.lastRefillNs.toNat)
      rw [hanchor]
      rw [h.rate] at hwealth
      have hjoined : first.rateUps.toNat *
            (ledger.bucket.lastRefillNs.toNat - first.lastRefillNs.toNat) +
          first.rateUps.toNat * (now.toNat - ledger.bucket.lastRefillNs.toNat) =
            first.rateUps.toNat * (now.toNat - first.lastRefillNs.toNat) := by
        rw [← Nat.mul_add]
        congr 1
        omega
      omega
    · rw [operate, refillBucket_early h.known (UInt64.not_le.1 hdue)]
      exact h.covered

theorem balanced_consume {ledger : Ledger} (h : Balanced first ledger) (amount : U64) :
    Balanced first (operate ledger (.consume amount)) := by
  unfold operate tryConsume
  simp only
  split
  · exact h
  · next bucket hcovered =>
    split at hcovered
    · cases hcovered
    · next henough =>
      cases hcovered
      have henough := UInt64.not_lt.1 henough
      have hspent := wealth_spent henough
      have hcovered := h.covered
      refine ⟨⟨?_, h.within.fraction⟩, h.rate, h.known, h.later, ?_⟩
      · have htokens := UInt64.le_iff_toNat_le.1 h.within.tokens
        rw [UInt64.le_iff_toNat_le, UInt64.toNat_sub_of_le _ _ henough]
        exact Nat.le_trans (Nat.sub_le _ _) htokens
      · show (ledger.consumed + amount.toNat) * second + wealth _ ≤ _
        rw [Nat.add_mul]
        simp only at hcovered ⊢
        omega

theorem balanced_operations {ledger : Ledger} (h : Balanced first ledger)
    (operations : List Operation) : Balanced first (operations.foldl operate ledger) := by
  induction operations generalizing ledger with
  | nil => exact h
  | cons operation operations ih =>
    cases operation with
    | refill now => exact ih (balanced_refill h now)
    | consume amount => exact ih (balanced_consume h amount)

theorem Balanced.total_le {ledger : Ledger} (h : Balanced first ledger) :
    ledger.consumed + ledger.bucket.tokens.toNat ≤ first.tokens.toNat +
      (first.fractionalNumerator.toNat + first.rateUps.toNat *
        (ledger.bucket.lastRefillNs.toNat - first.lastRefillNs.toNat)) / second := by
  have hcovered := h.covered
  unfold wealth at hcovered
  rw [← Nat.mul_add_div (by decide : 0 < second), Nat.le_div_iff_mul_le (by decide), Nat.add_mul,
    Nat.mul_comm second]
  omega

end Sequences

section Exactness

/-- The bucket is exact: refills at each of a sequence of instants leave the tokens that one refill
at the last leaves, and the same bucket while what is earned fits a word; and however it is
refilled and consumed, it stays within its bounds, a refill reports what it grants, and no more
is given than there was and than time has earned. -/
theorem bucket_exact (hknown : bucket.initialized = true)
    (htokens : bucket.tokens ≤ bucket.capacity)
    (hfraction : bucket.fractionalNumerator < kNanosecondsPerSecond) :
    (∀ instants now, (bucket.lastRefillNs :: (instants ++ [now])).Pairwise (· ≤ ·) →
      (refillAll bucket (instants ++ [now])).tokens = (refillBucket bucket now).1.tokens ∧
      ((now.toNat - bucket.lastRefillNs.toNat) * bucket.rateUps.toNat / 1000000000 < 2 ^ 64 →
        refillAll bucket (instants ++ [now]) = (refillBucket bucket now).1)) ∧
    ∀ operations : List Operation, let ledger : Ledger := operations.foldl operate { bucket }
      ledger.bucket.tokens ≤ ledger.bucket.capacity ∧
      ledger.bucket.fractionalNumerator < kNanosecondsPerSecond ∧
      (∀ now, ledger.bucket.tokens.toNat +
          (refillBucket ledger.bucket now).2.tokensGranted.toNat =
        (refillBucket ledger.bucket now).1.tokens.toNat) ∧
      bucket.lastRefillNs ≤ ledger.bucket.lastRefillNs ∧
      ledger.consumed + ledger.bucket.tokens.toNat ≤ bucket.tokens.toNat +
        (bucket.fractionalNumerator.toNat + bucket.rateUps.toNat *
          (ledger.bucket.lastRefillNs.toNat - bucket.lastRefillNs.toNat)) / 1000000000 := by
  have hwithin : Within bucket := ⟨htokens, hfraction⟩
  refine ⟨fun instants now hsorted ↦ ?_, fun operations ↦ ?_⟩
  · have hforwarded := forwarded_refillAll hwithin hknown hsorted
    have hdue := (List.pairwise_cons.1 hsorted).1 now
      (List.mem_append_right _ List.mem_cons_self)
    have honce := tracks_refresh (tracks_rfl hwithin) hwithin hknown hdue
    have hsplit : (refillAll bucket (instants ++ [now])).lastRefillNs = now := by
      rw [← List.cons_append] at hsorted
      obtain ⟨hsorted, -, hlast⟩ := List.pairwise_append.1 hsorted
      have hbefore := forwarded_refillAll hwithin hknown hsorted
      rw [refillAll_append]
      exact Refills.anchored (refills_refillBucket _ now)
        (hlast _ hbefore.anchor now List.mem_cons_self)
    have hsame := Refills.anchored (refills_refillBucket bucket now) hdue
    obtain ⟨htokens, hwhole⟩ := tracks_agree hforwarded.tracks honce (hsplit.trans hsame.symm)
    refine ⟨htokens, fun hfits ↦ hwhole ?_⟩
    rw [hsplit, Nat.mul_comm]
    exact (Nat.div_lt_iff_lt_mul (by decide)).1 hfits
  · have hbalanced := balanced_operations (balanced_rfl hwithin hknown) operations
    exact ⟨hbalanced.within.tokens, hbalanced.within.fraction,
      fun now ↦ (refills_refillBucket _ now).gains hbalanced.within, hbalanced.later,
      hbalanced.total_le⟩

/-- Three tokens and a half in a bucket of ten, earning a third of a token in a millisecond. -/
def sampleBucket : TokenBucket :=
  { tokens := 3, capacity := 10, rateUps := 333, lastRefillNs := 5
    fractionalNumerator := 500000000, initialized := true }

theorem bucket_exact_sample :
    refillAll sampleBucket ([1000005, 2000005] ++ [3000005]) =
      (refillBucket sampleBucket 3000005).1 ∧
    ∀ operations : List Operation,
      let ledger : Ledger := operations.foldl operate { bucket := sampleBucket }
      ledger.consumed + ledger.bucket.tokens.toNat ≤ sampleBucket.tokens.toNat +
        (sampleBucket.fractionalNumerator.toNat + sampleBucket.rateUps.toNat *
          (ledger.bucket.lastRefillNs.toNat - sampleBucket.lastRefillNs.toNat)) / 1000000000 := by
  have hexact := @bucket_exact sampleBucket rfl (by decide) (by decide)
  exact ⟨(hexact.1 [1000005, 2000005] 3000005 (by decide)).2 (by decide),
    fun operations ↦ (hexact.2 operations).2.2.2.2⟩

end Exactness

end RateGovernor.Safety.ExactBucket
