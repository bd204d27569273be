import RateGovernor.Dynamics.Balances
import RateGovernor.Dynamics.Start

namespace RateGovernor.Safety.BurstConformance

open Model.CheckedMath Model.Bucket Model.Identity Model.Reason Model.Entities Model.Envelope
open Model.EngineState Model.Calls Model.Lifecycle Model.Execution Foundation.KeyedTable
open Foundation.GuardedRun Dynamics.Plans Dynamics.Bindings Dynamics.Evolution Dynamics.Issue
open Dynamics.Buckets Dynamics.Balances Dynamics.Start

variable {start : System} {id : RateEnvelopeId} {burst ceiling s t now : U64} {action : Action}
  {old new : RateEnvelope} {bucket refilled : TokenBucket} {granted : U64}

section Metering

def pricedAt : Event → Option U64
  | .authorize _ _ now => some now
  | .apply _ _ now _ => some now
  | .consumeBurst _ _ now => some now
  | .tick now _ => some now
  | _ => none

/-- A system, the latest reading of its clock, and what one envelope has spent in an interval. -/
structure Meter where
  system : System
  clock : U64 := 0
  spent : ℕ := 0

def counted (id : RateEnvelopeId) (s t : U64) (system : System) (action : Action) : ℕ :=
  match pricedAt action.event with
  | none => 0
  | some now => if s ≤ now ∧ now ≤ t then spentBy id system action else 0

def meterStep (id : RateEnvelopeId) (s t : U64) (meter : Meter) (action : Action) :
    Option Meter :=
  (step meter.system action).map fun system ↦
    { system
      clock := (pricedAt action.event).getD meter.clock
      spent := meter.spent + counted id s t meter.system action }

/-- The plan of the envelope, once it has one, sets this burst and this ceiling. -/
def Planned (id : RateEnvelopeId) (burst ceiling : U64) (system : System) : Prop :=
  ∀ envelope, system.engine.tables.envelopes.find id.value = some envelope →
    envelope.hasPlan = true →
      envelope.plan.burstTokens = burst ∧ envelope.plan.ceilingUps = ceiling

/-- The clock does not run backwards. -/
def Timely (meter : Meter) (action : Action) : Prop :=
  ∀ now, pricedAt action.event = some now → meter.clock ≤ now

def Topped (id : RateEnvelopeId) (system : System) (action : Action) : Prop :=
  dispatchesApply id system action = true → ∀ envelope now,
    system.engine.tables.envelopes.find id.value = some envelope → envelope.hasPlan = true →
      pricedAt action.event = some now →
        (refillBucket envelope.bucket now).1.tokens = envelope.bucket.capacity

/-- The steps of a run whose clock does not run backwards and whose plan does not change, and in
which no apply fills a bucket. -/
structure Conforms (id : RateEnvelopeId) (burst ceiling : U64) (meter : Meter) (action : Action) :
    Prop where
  timely : Timely meter action
  planned : Planned id burst ceiling meter.system
  topped : Topped id meter.system action

instance (meter : Meter) (action : Action) : Decidable (Timely meter action) :=
  show Decidable (∀ now ∈ pricedAt action.event, meter.clock ≤ now) from
    (pricedAt action.event).decidableForallMem

instance (system : System) : Decidable (Planned id burst ceiling system) :=
  inferInstanceAs (Decidable (∀ envelope ∈ system.engine.tables.envelopes.find id.value,
    envelope.hasPlan = true → envelope.plan.burstTokens = burst ∧
      envelope.plan.ceilingUps = ceiling))

theorem topped_iff (id : RateEnvelopeId) (system : System) (action : Action) :
    Topped id system action ↔ (dispatchesApply id system action = true →
      ∀ envelope ∈ system.engine.tables.envelopes.find id.value, envelope.hasPlan = true →
        ((pricedAt action.event).all fun now ↦
          (refillBucket envelope.bucket now).1.tokens = envelope.bucket.capacity) = true) := by
  simp only [Option.all_eq_true, decide_eq_true_eq]
  exact ⟨fun h hdispatches envelope hfind hrecorded now ↦ h hdispatches envelope now hfind hrecorded,
    fun h hdispatches envelope now hfind hrecorded ↦ h hdispatches envelope hfind hrecorded now⟩

instance (system : System) (action : Action) : Decidable (Topped id system action) :=
  decidable_of_iff' _ (topped_iff id system action)

theorem conforms_iff (meter : Meter) (action : Action) :
    Conforms id burst ceiling meter action ↔ Timely meter action ∧
      Planned id burst ceiling meter.system ∧ Topped id meter.system action :=
  ⟨fun h ↦ ⟨h.timely, h.planned, h.topped⟩, fun h ↦ ⟨h.1, h.2.1, h.2.2⟩⟩

instance (meter : Meter) (action : Action) : Decidable (Conforms id burst ceiling meter action) :=
  decidable_of_iff' _ (conforms_iff meter action)

end Metering

section Allowance

/-- What an envelope may spend in an interval, in parts of a token, short of one more token. -/
def allowance (burst ceiling : U64) (elapsed : ℕ) : ℕ :=
  burst.toNat * second + (second - 1) + ceiling.toNat * elapsed

theorem allowance_mono {elapsed elapsed' : ℕ} (h : elapsed ≤ elapsed') :
    allowance burst ceiling elapsed ≤ allowance burst ceiling elapsed' :=
  Nat.add_le_add_left (Nat.mul_le_mul_left _ h) _

theorem le_of_allowance {spent elapsed : ℕ}
    (h : spent * second ≤ allowance burst ceiling elapsed) :
    spent ≤ burst.toNat + ceiling.toNat * elapsed / second + 1 := by
  have hsplit := Nat.div_add_mod' (ceiling.toNat * elapsed) second
  have hrest := Nat.mod_lt (ceiling.toNat * elapsed) (by decide : 0 < second)
  have hlt : spent * second < (burst.toNat + ceiling.toNat * elapsed / second + 1 + 1) * second := by
    rw [Nat.add_mul, Nat.add_mul, Nat.add_mul]
    unfold allowance at h
    omega
  exact Nat.le_of_lt_succ (Nat.lt_of_mul_lt_mul_right hlt)

theorem wealth_le_full (h : Within bucket) :
    wealth bucket ≤ bucket.capacity.toNat * second + (second - 1) := by
  have htokens := Nat.mul_le_mul_right second (UInt64.le_iff_toNat_le.1 h.tokens)
  have hfraction := UInt64.lt_iff_toNat_lt.1 h.fraction
  rw [toNat_second] at hfraction
  unfold wealth
  omega

/-- One balance has become another in no less than the time it takes to earn it. -/
structure Earned (ceiling : U64) (old new : TokenBucket) : Prop where
  later : old.lastRefillNs ≤ new.lastRefillNs
  minted : wealth new ≤ wealth old +
    ceiling.toNat * (new.lastRefillNs.toNat - old.lastRefillNs.toNat)

theorem earned_rfl (ceiling : U64) (bucket : TokenBucket) : Earned ceiling bucket bucket :=
  ⟨UInt64.le_refl _, Nat.le_add_right _ _⟩

theorem Earned.spend {old new left : TokenBucket} (h : Earned ceiling old new)
    (hanchor : left.lastRefillNs = new.lastRefillNs) (hspent : wealth left ≤ wealth new) :
    Earned ceiling old left := by
  refine ⟨hanchor ▸ h.later, ?_⟩
  rw [hanchor]
  exact Nat.le_trans hspent h.minted

theorem earned_refills (h : Refills bucket now refilled granted) (hwithin : Within bucket)
    (hrate : bucket.rateUps = ceiling) (hdue : bucket.lastRefillNs ≤ now) :
    Earned ceiling bucket refilled := by
  have hanchor := Refills.anchored h hdue
  have hwealth := Refills.wealth_le h hwithin.fraction
  rw [hrate] at hwealth
  refine ⟨?_, ?_⟩
  · rw [hanchor]
    exact hdue
  · rw [hanchor]
    exact hwealth

theorem earned_refillBucket (hwithin : Within bucket) (hrate : bucket.rateUps = ceiling)
    (hdue : bucket.lastRefillNs ≤ now) : Earned ceiling bucket (refillBucket bucket now).1 :=
  earned_refills (refills_refillBucket bucket now) hwithin hrate hdue

theorem allowance_add {since later : ℕ} (burst ceiling : U64) (h : since ≤ later) :
    allowance burst ceiling since + ceiling.toNat * (later - since) =
      allowance burst ceiling later := by
  have hmul : ceiling.toNat * since + ceiling.toNat * (later - since) = ceiling.toNat * later := by
    rw [← Nat.mul_add, Nat.add_sub_cancel' h]
  unfold allowance
  omega

theorem refills_lastRefillNs_le {clock : U64} (h : Refills bucket now refilled granted)
    (hold : bucket.lastRefillNs ≤ clock) (hclock : clock ≤ now) :
    refilled.lastRefillNs ≤ now := by
  rw [Refills.anchored h (UInt64.le_trans hold hclock)]
  exact UInt64.le_refl _

end Allowance

section Conformance

/-- What the spending of an envelope has left of its allowance is in its bucket. -/
structure Backed (id : RateEnvelopeId) (burst ceiling s : U64) (meter : Meter)
    (envelope : RateEnvelope) : Prop where
  stored : meter.system.engine.tables.envelopes.find id.value = some envelope
  recorded : envelope.hasPlan = true
  since : s ≤ envelope.bucket.lastRefillNs
  covered : meter.spent * second + wealth envelope.bucket ≤
    allowance burst ceiling (envelope.bucket.lastRefillNs.toNat - s.toNat)

structure Conformed (id : RateEnvelopeId) (burst ceiling s t : U64) (meter : Meter) : Prop where
  ids : IdsAhead meter.system
  accounted : AllAccounted meter.system.engine.tables.envelopes
  unplanned : ∀ envelope, meter.system.engine.tables.envelopes.find id.value = some envelope →
    envelope.hasPlan = false → envelope.bucket.capacity = 0
  anchored : ∀ envelope, meter.system.engine.tables.envelopes.find id.value = some envelope →
    envelope.bucket.lastRefillNs ≤ meter.clock
  bounded : meter.spent * second ≤ allowance burst ceiling (t.toNat - s.toNat)
  backed : meter.spent = 0 ∨ (Planned id burst ceiling meter.system →
    ∃ envelope, Backed id burst ceiling s meter envelope)

theorem hasPlan_plannedEnvelope (envelope : RateEnvelope) (plan : EffectivePlan) :
    (plannedEnvelope envelope plan).hasPlan = true := by
  unfold plannedEnvelope
  split
  · next hsame =>
    unfold bindingUnchanged at hsame
    simp only [Bool.and_eq_true] at hsame
    exact hsame.1.1.1
  · rfl

variable {meter : Meter}

theorem capacity_revised (h : Revised meter.system action id old new)
    (hunplanned : old.hasPlan = false → old.bucket.capacity = 0) (hnew : new.hasPlan = false) :
    new.bucket.capacity = 0 := by
  have limits (now : U64) := (refills_refillBucket old.bucket now).limits.1
  cases h with
  | kept same =>
    rw [same.bucket]
    exact hunplanned (same.plan.2 ▸ hnew)
  | emptied hbucket hplan =>
    rw [hbucket]
    exact hunplanned (hplan.2 ▸ hnew)
  | refilled _ hbucket hplan =>
    rw [hbucket, limits]
    exact hunplanned (hplan.2 ▸ hnew)
  | spent _ _ hbucket hplan =>
    rw [hbucket]
    exact (limits _).trans (hunplanned (hplan.2 ▸ hnew))
  | authorized plan =>
    rw [(plan_authorizedEnvelope _ _ _).2] at hnew
    cases hnew
  | dispatched plan =>
    have hplanned : (plannedEnvelope old plan).hasPlan = false := hnew
    rw [hasPlan_plannedEnvelope] at hplanned
    cases hplanned

theorem recorded_revised (h : Revised meter.system action id old new) (hold : old.hasPlan = true) :
    new.hasPlan = true := by
  cases h with
  | kept same => exact same.plan.2.trans hold
  | emptied _ hplan => exact hplan.2.trans hold
  | refilled _ _ hplan => exact hplan.2.trans hold
  | spent _ _ _ hplan => exact hplan.2.trans hold
  | authorized plan => exact (plan_authorizedEnvelope _ _ _).2
  | dispatched plan => exact hasPlan_plannedEnvelope old plan

theorem anchored_revised (h : Revised meter.system action id old new)
    (htimely : Timely meter action) (hold : old.bucket.lastRefillNs ≤ meter.clock) :
    new.bucket.lastRefillNs ≤ (pricedAt action.event).getD meter.clock := by
  have priced {now : U64} (hpriced : pricedAt action.event = some now) :
      meter.clock ≤ now ∧ (pricedAt action.event).getD meter.clock = now := by
    rw [hpriced]
    exact ⟨htimely now hpriced, rfl⟩
  have later : meter.clock ≤ (pricedAt action.event).getD meter.clock := by
    cases hpriced : pricedAt action.event with
    | none => exact UInt64.le_refl _
    | some now => exact htimely now hpriced
  have refilled {now : U64} (hpriced : pricedAt action.event = some now) :
      (refillBucket old.bucket now).1.lastRefillNs ≤ (pricedAt action.event).getD meter.clock := by
    obtain ⟨hclock, hnow⟩ := priced hpriced
    rw [hnow]
    exact refills_lastRefillNs_le (refills_refillBucket old.bucket now) hold hclock
  cases h with
  | kept same =>
    rw [same.bucket]
    exact UInt64.le_trans hold later
  | emptied hbucket =>
    rw [hbucket]
    exact UInt64.le_trans hold later
  | refilled hevent hbucket =>
    rw [hbucket]
    exact refilled (by rw [hevent]; rfl)
  | spent hevent _ hbucket =>
    rw [hbucket]
    exact refilled (by rw [hevent]; rfl)
  | @authorized actor now plan hevent =>
    rw [bucket_authorizedEnvelope]
    split
    · have hnow := (@priced now (by rw [hevent]; rfl)).2
      rw [hnow]
      exact UInt64.le_refl _
    · exact UInt64.le_trans hold later
  | @dispatched actor now session plan hevent =>
    have hnow := (@priced now (by rw [hevent]; rfl)).2
    rw [hnow]
    exact UInt64.le_refl _

/-- The plan of the envelope sets this burst and this ceiling, and its bucket is kept to them. -/
structure Metered (burst ceiling : U64) (envelope : RateEnvelope) : Prop where
  recorded : envelope.hasPlan = true
  within : Within envelope.bucket
  known : envelope.bucket.initialized = true
  capacity : envelope.bucket.capacity = burst
  rate : envelope.bucket.rateUps = ceiling

theorem metered_of_planned (hall : AllAccounted meter.system.engine.tables.envelopes)
    (hplanned : Planned id burst ceiling meter.system)
    (hfind : meter.system.engine.tables.envelopes.find id.value = some old)
    (hrecorded : old.hasPlan = true) : Metered burst ceiling old := by
  obtain ⟨hburst, hceiling⟩ := hplanned old hfind hrecorded
  obtain ⟨hwithin, hfunded⟩ := hall _ _ hfind
  obtain ⟨hknown, hcapacity, hrate⟩ := hfunded hrecorded
  exact ⟨hrecorded, hwithin, hknown, hcapacity.trans hburst, hrate.trans hceiling⟩

theorem bucket_authorized_kept {plan : EffectivePlan} (h : Metered burst ceiling old)
    (hburst : plan.burstTokens = burst) (hceiling : plan.ceilingUps = ceiling) :
    (authorizedEnvelope old plan now).bucket = old.bucket := by
  have hkept : (!old.bucket.initialized || old.bucket.capacity ≠ plan.burstTokens ||
      old.bucket.rateUps ≠ plan.ceilingUps) = false := by
    rw [h.known, h.capacity, h.rate, hburst, hceiling]
    simp
  rw [bucket_authorizedEnvelope, hkept]
  rfl

theorem earned_revised (h : Revised meter.system action id old new)
    (hfind : meter.system.engine.tables.envelopes.find id.value = some old)
    (hmetered : Metered burst ceiling old)
    (hplan : new.plan.burstTokens = burst ∧ new.plan.ceilingUps = ceiling)
    (hconforms : Conforms id burst ceiling meter action)
    (hold : old.bucket.lastRefillNs ≤ meter.clock) : Earned ceiling old.bucket new.bucket := by
  have refilled {now : U64} (hpriced : pricedAt action.event = some now) :
      Earned ceiling old.bucket (refillBucket old.bucket now).1 :=
    earned_refillBucket hmetered.within hmetered.rate
      (UInt64.le_trans hold (hconforms.timely now hpriced))
  cases h with
  | kept same =>
    rw [same.bucket]
    exact earned_rfl _ _
  | emptied hbucket =>
    rw [hbucket]
    refine (earned_rfl _ _).spend rfl ?_
    show 0 * second + old.bucket.fractionalNumerator.toNat ≤ _
    rw [Nat.zero_mul]
    exact Nat.add_le_add_right (Nat.zero_le _) _
  | refilled hevent hbucket =>
    rw [hbucket]
    exact refilled (by rw [hevent]; rfl)
  | spent hevent hcovered hbucket =>
    rw [hbucket]
    refine (refilled (by rw [hevent]; rfl)).spend rfl ?_
    exact Nat.le_trans (Nat.le_add_right _ _) (Nat.le_of_eq (wealth_spent hcovered))
  | authorized plan hevent =>
    obtain ⟨hburst, hceiling⟩ := hplan
    rw [(plan_authorizedEnvelope _ _ _).1] at hburst hceiling
    rw [bucket_authorized_kept hmetered hburst hceiling]
    exact earned_rfl _ _
  | @dispatched actor now session plan hevent hdispatches =>
    have hpriced : pricedAt action.event = some now := by rw [hevent]; rfl
    have hfull := hconforms.topped hdispatches old now hfind hmetered.recorded hpriced
    have hrefilled := refilled hpriced
    have hdue := UInt64.le_trans hold (hconforms.timely now hpriced)
    have hanchor := Refills.anchored (refills_refillBucket old.bucket now) hdue
    refine hrefilled.spend hanchor.symm ?_
    have hcapacity : (plannedEnvelope old plan).plan.burstTokens = old.bucket.capacity :=
      hplan.1.trans hmetered.capacity.symm
    show wealth (configureBucket (plannedEnvelope old plan).plan.burstTokens _ now) ≤ _
    rw [wealth_configureBucket, hcapacity, ← hfull]
    exact Nat.le_add_right _ _

theorem covered_add {spent spent' : ℕ} {bucket bucket' : TokenBucket}
    (hcovered : spent * second + wealth bucket ≤
      allowance burst ceiling (bucket.lastRefillNs.toNat - s.toNat))
    (hlater : bucket.lastRefillNs ≤ bucket'.lastRefillNs)
    (hsince : s ≤ bucket.lastRefillNs)
    (hminted : spent' * second + wealth bucket' ≤ wealth bucket +
      ceiling.toNat * (bucket'.lastRefillNs.toNat - bucket.lastRefillNs.toNat)) :
    (spent + spent') * second + wealth bucket' ≤
      allowance burst ceiling (bucket'.lastRefillNs.toNat - s.toNat) := by
  have hlater := UInt64.le_iff_toNat_le.1 hlater
  have hsince := UInt64.le_iff_toNat_le.1 hsince
  have hadd := @allowance_add (bucket.lastRefillNs.toNat - s.toNat)
    (bucket'.lastRefillNs.toNat - s.toNat) burst ceiling (by omega)
  have helapsed : bucket'.lastRefillNs.toNat - s.toNat - (bucket.lastRefillNs.toNat - s.toNat) =
      bucket'.lastRefillNs.toNat - bucket.lastRefillNs.toNat := by omega
  rw [helapsed] at hadd
  rw [Nat.add_mul]
  omega

theorem backed_spent {u : System} (h : Conformed id burst ceiling s t meter)
    (hconforms : Conforms id burst ceiling meter action)
    (hstep : step meter.system action = some u)
    (hcounted : counted id s t meter.system action ≠ 0) :
    (meter.spent + counted id s t meter.system action) * second ≤
        allowance burst ceiling (t.toNat - s.toNat) ∧
      ∃ envelope, Backed id burst ceiling s
        ⟨u, (pricedAt action.event).getD meter.clock,
          meter.spent + counted id s t meter.system action⟩ envelope := by
  obtain ⟨now, hpriced, ⟨hfrom, huntil⟩, hspends⟩ : ∃ now, pricedAt action.event = some now ∧
      (s ≤ now ∧ now ≤ t) ∧ counted id s t meter.system action = spentBy id meter.system action := by
    unfold counted at hcounted ⊢
    split at hcounted
    · exact absurd rfl hcounted
    · next now hpriced =>
      split at hcounted
      · next hwithin =>
        rw [hpriced]
        exact ⟨now, rfl, hwithin, if_pos hwithin⟩
      · exact absurd rfl hcounted
  rw [hspends] at hcounted ⊢
  obtain ⟨tokens, now', old, new, hevent, hamount, hfind, hfind', hcovers, hbucket, hplan⟩ :=
    spent_step hstep hcounted
  obtain rfl : now' = now := by
    rw [hevent] at hpriced
    exact Option.some.inj hpriced
  have hdue : old.bucket.lastRefillNs ≤ now' :=
    UInt64.le_trans (h.anchored old hfind) (hconforms.timely now' hpriced)
  have hrefills := refills_refillBucket old.bucket now'
  have hanchor := Refills.anchored hrefills hdue
  have hrecorded : old.hasPlan = true := by
    by_contra hnone
    have hempty := h.unplanned old hfind (by simpa using hnone)
    have hnothing := (hrefills.within (h.accounted _ _ hfind).within).tokens
    rw [hrefills.limits.1, hempty] at hnothing
    have hzero := UInt64.le_iff_toNat_le.1 (UInt64.le_trans hcovers hnothing)
    exact hcounted (hamount.trans (Nat.le_zero.1 hzero))
  have hmetered := metered_of_planned h.accounted hconforms.planned hfind hrecorded
  have hleft := wealth_spent hcovers
  rw [← hbucket] at hleft
  have hnewAnchor : new.bucket.lastRefillNs = now' := by
    rw [hbucket]
    exact hanchor
  have hcovered : (meter.spent + tokens.toNat) * second + wealth new.bucket ≤
      allowance burst ceiling (new.bucket.lastRefillNs.toNat - s.toNat) := by
    obtain hzero | hbacked := h.backed
    · have hfull := wealth_le_full (hrefills.within hmetered.within)
      rw [hrefills.limits.1, hmetered.capacity] at hfull
      rw [hzero, Nat.zero_add, Nat.add_comm, hleft]
      exact Nat.le_trans hfull (Nat.le_add_right _ _)
    · obtain ⟨envelope, hstored, -, hsince, hcovered⟩ := hbacked hconforms.planned
      rw [hfind] at hstored
      cases hstored
      have hearned := earned_refillBucket hmetered.within hmetered.rate hdue
      have hminted := hearned.minted
      rw [hanchor, ← hleft, Nat.add_comm (wealth _), ← hnewAnchor] at hminted
      exact covered_add hcovered (hnewAnchor ▸ hdue) hsince hminted
  rw [hamount]
  refine ⟨?_, new, hfind', hplan.2.trans hrecorded, ?_, hcovered⟩
  · have hbound := Nat.le_trans (Nat.le_add_right _ _) hcovered
    refine Nat.le_trans hbound (allowance_mono ?_)
    rw [hnewAnchor]
    exact Nat.sub_le_sub_right (UInt64.le_iff_toNat_le.1 huntil) _
  · show s ≤ new.bucket.lastRefillNs
    rw [hnewAnchor]
    exact hfrom

theorem conformed_step {next : Meter} (h : Conformed id burst ceiling s t meter)
    (hconforms : Conforms id burst ceiling meter action)
    (hnext : meterStep id s t meter action = some next) :
    Conformed id burst ceiling s t next := by
  obtain ⟨u, hstep, rfl⟩ := Option.map_eq_some_iff.1 hnext
  have hrevised {new : RateEnvelope}
      (hfind' : u.engine.tables.envelopes.find id.value = some new) :
      (new.hasPlan = false ∧ new.bucket = {}) ∨ ∃ old,
        meter.system.engine.tables.envelopes.find id.value = some old ∧
          Revised meter.system action id old new := by
    cases hfind : meter.system.engine.tables.envelopes.find id.value with
    | none => exact .inl (opened_step hfind hstep hfind')
    | some old => exact .inr ⟨old, rfl, revised_step hfind h.ids hstep hfind'⟩
  have hlater : (0 : U64) ≤ (pricedAt action.event).getD meter.clock :=
    UInt64.le_iff_toNat_le.2 (Nat.zero_le _)
  have haccounted := allAccounted_step h.accounted hstep
  have hunplanned (new : RateEnvelope)
      (hfind' : u.engine.tables.envelopes.find id.value = some new)
      (hnew : new.hasPlan = false) : new.bucket.capacity = 0 := by
    obtain ⟨-, hbucket⟩ | ⟨old, hfind, hrevised⟩ := hrevised hfind'
    · rw [hbucket]
    · exact capacity_revised hrevised (h.unplanned old hfind) hnew
  have hanchored (new : RateEnvelope)
      (hfind' : u.engine.tables.envelopes.find id.value = some new) :
      new.bucket.lastRefillNs ≤ (pricedAt action.event).getD meter.clock := by
    obtain ⟨-, hbucket⟩ | ⟨old, hfind, hrevised⟩ := hrevised hfind'
    · rw [hbucket]
      exact hlater
    · exact anchored_revised hrevised hconforms.timely (h.anchored old hfind)
  by_cases hcounted : counted id s t meter.system action = 0
  · refine ⟨idsAhead_step h.ids hstep, haccounted, hunplanned, hanchored, ?_, ?_⟩
    · show (meter.spent + _) * second ≤ _
      rw [hcounted]
      exact h.bounded
    · show meter.spent + _ = 0 ∨ _
      rw [hcounted]
      refine h.backed.imp_right fun hbacked hplanned ↦ ?_
      obtain ⟨old, hfind, hrecorded, hsince, hcovered⟩ := hbacked hconforms.planned
      obtain ⟨new, hfind'⟩ := envelope_persists hstep hfind
      have hmetered := metered_of_planned h.accounted hconforms.planned hfind hrecorded
      have hrevised := revised_step hfind h.ids hstep hfind'
      have hrecorded' := recorded_revised hrevised hrecorded
      have hearned := earned_revised hrevised hfind hmetered (hplanned new hfind' hrecorded')
        hconforms (h.anchored old hfind)
      refine ⟨new, hfind', hrecorded', UInt64.le_trans hsince hearned.later, ?_⟩
      have hminted := hearned.minted
      rw [← Nat.zero_add (wealth new.bucket), ← Nat.zero_mul second] at hminted
      exact covered_add hcovered hearned.later hsince hminted
  · obtain ⟨hbounded, hbacked⟩ := backed_spent h hconforms hstep hcounted
    exact ⟨idsAhead_step h.ids hstep, haccounted, hunplanned, hanchored, hbounded,
      .inr fun _ ↦ hbacked⟩

theorem conformed_fresh (hfresh : Fresh start) :
    Conformed id burst ceiling s t { system := start } where
  ids := idsAhead_of_fresh hfresh
  accounted k envelope hfind := by
    rw [no_envelope_of_fresh hfresh] at hfind
    cases hfind
  unplanned envelope hfind := by
    rw [no_envelope_of_fresh hfresh] at hfind
    cases hfind
  anchored envelope hfind := by
    rw [no_envelope_of_fresh hfresh] at hfind
    cases hfind
  bounded := by
    show 0 * second ≤ _
    rw [Nat.zero_mul]
    exact Nat.zero_le _
  backed := .inl rfl

theorem conformed_of_reaches (hfresh : Fresh start)
    (hrun : Reaches (meterStep id s t) (Conforms id burst ceiling) { system := start } meter) :
    Conformed id burst ceiling s t meter :=
  hrun.invariant (conformed_fresh hfresh) fun _ _ _ h hconforms hstep ↦
    conformed_step h hconforms hstep

end Conformance

section Renewals

def renews (id : RateEnvelopeId) : Event → Bool
  | .authorize envelope _ _ => envelope = id
  | .apply envelope _ _ _ => envelope = id
  | _ => false

def Unminted (old new : TokenBucket) (now : U64) : Prop :=
  new.tokens ≤ (refillBucket old now).1.tokens

variable {meter : Meter}

theorem tokens_le_refillBucket (hwithin : Within bucket) (now : U64) :
    bucket.tokens ≤ (refillBucket bucket now).1.tokens := by
  have hgains := (refills_refillBucket bucket now).gains hwithin
  rw [UInt64.le_iff_toNat_le]
  omega

/-- Renewing an envelope under the plan it has leaves its bucket what time has earned. -/
theorem unminted_revised (h : Revised meter.system action id old new)
    (hrenews : renews id action.event = true)
    (hfind : meter.system.engine.tables.envelopes.find id.value = some old)
    (hmetered : Metered burst ceiling old)
    (hplan : new.plan.burstTokens = burst ∧ new.plan.ceilingUps = ceiling)
    (hconforms : Conforms id burst ceiling meter action)
    (hpriced : pricedAt action.event = some now) : Unminted old.bucket new.bucket now := by
  have hgrown := tokens_le_refillBucket hmetered.within now
  cases h with
  | kept same =>
    unfold Unminted
    rw [same.bucket]
    exact hgrown
  | emptied hbucket =>
    unfold Unminted
    rw [hbucket]
    exact UInt64.le_iff_toNat_le.2 (Nat.zero_le _)
  | refilled hevent =>
    rw [hevent] at hrenews
    cases hrenews
  | spent hevent =>
    rw [hevent] at hrenews
    cases hrenews
  | authorized plan =>
    obtain ⟨hburst, hceiling⟩ := hplan
    rw [(plan_authorizedEnvelope _ _ _).1] at hburst hceiling
    unfold Unminted
    rw [bucket_authorized_kept hmetered hburst hceiling]
    exact hgrown
  | @dispatched actor now' session plan hevent hdispatches =>
    obtain rfl : now' = now := by
      rw [hevent] at hpriced
      exact Option.some.inj hpriced
    have hfull := hconforms.topped hdispatches old now' hfind hmetered.recorded hpriced
    have hcapacity : (plannedEnvelope old plan).plan.burstTokens = old.bucket.capacity :=
      hplan.1.trans hmetered.capacity.symm
    show (plannedEnvelope old plan).plan.burstTokens ≤ _
    rw [hcapacity, hfull]
    exact UInt64.le_refl _

end Renewals

section Bound

variable {meter : Meter}

/-- On a clock that does not run backwards, an envelope whose plan does not change spends no more
in an interval than its burst and what its ceiling earns there, as long as every apply of it that
is dispatched finds the bucket full. -/
theorem spent_within_allowance (hfresh : Fresh start)
    (hrun : Reaches (meterStep id s t) (Conforms id burst ceiling) { system := start } meter) :
    meter.spent ≤ burst.toNat + ceiling.toNat * (t.toNat - s.toNat) / second + 1 ∧
      ∀ action now u old new, Conforms id burst ceiling meter action →
        step meter.system action = some u → Planned id burst ceiling u →
        renews id action.event = true → pricedAt action.event = some now →
        meter.system.engine.tables.envelopes.find id.value = some old → old.hasPlan = true →
        u.engine.tables.envelopes.find id.value = some new →
          Unminted old.bucket new.bucket now := by
  have hconformed := conformed_of_reaches hfresh hrun
  refine ⟨le_of_allowance hconformed.bounded, ?_⟩
  intro action now u old new hconforms hstep hplanned hrenews hpriced hfind hrecorded hfind'
  have hrevised := revised_step hfind hconformed.ids hstep hfind'
  have hmetered := metered_of_planned hconformed.accounted hconforms.planned hfind hrecorded
  exact unminted_revised hrevised hrenews hfind hmetered
    (hplanned new hfind' (recorded_revised hrevised hrecorded)) hconforms hpriced

/-- The first apply and an authorization in between leave the sample envelope its allowance; it is
applied again when the bucket is full. -/
def renewSample : List Action :=
  applySample ++ [⟨.consumeBurst ⟨1⟩ 6 7, []⟩, ⟨.authorize ⟨1⟩ actor 8, []⟩,
    ⟨.consumeBurst ⟨1⟩ 4 10, []⟩, ⟨.apply ⟨1⟩ actor 1000000010 {}, []⟩]

theorem spent_within_allowance_renewed : ∃ meter : Meter, meter.spent = 10 ∧
    meter.spent ≤ (10 : U64).toNat + (100 : U64).toNat * ((10 : U64).toNat - (7 : U64).toNat) /
      second + 1 := by
  obtain ⟨meter, hrun⟩ := Option.isSome_iff_exists.1 (by decide +kernel :
    (run (meterStep ⟨1⟩ 7 10) { system := sampleStart } renewSample).isSome = true)
  have hspent : ((run (meterStep ⟨1⟩ 7 10) { system := sampleStart } renewSample).map
      (·.spent)) = some 10 := by decide +kernel
  have hreaches : Reaches (meterStep ⟨1⟩ 7 10) (Conforms ⟨1⟩ 10 100) { system := sampleStart }
      meter := reaches_of_run (by decide +kernel) hrun
  rw [hrun] at hspent
  exact ⟨meter, Option.some.inj hspent, (spent_within_allowance fresh_sampleStart hreaches).1⟩

/-- The burst is spent, the envelope applied again at once, and the burst spent again. -/
def remintSample : List Action :=
  applySample ++ [⟨.consumeBurst ⟨1⟩ 10 6, []⟩, ⟨.apply ⟨1⟩ actor 6 {}, []⟩,
    ⟨.dispatched 0 { status := .completed }, []⟩, ⟨.readClock 0 6, []⟩, ⟨.finish 0, []⟩,
    ⟨.readBack 0 samplePresent 6, []⟩, ⟨.publish 0 6, []⟩, ⟨.consumeBurst ⟨1⟩ 10 6, []⟩]

/-- An apply that is dispatched again mints the burst anew. -/
theorem burst_minted_by_reapply : ∃ meter,
    Reaches (meterStep ⟨1⟩ 6 6) (fun meter action ↦ Timely meter action ∧
      Planned ⟨1⟩ 10 100 meter.system) { system := sampleStart } meter ∧
    (10 : U64).toNat + (100 : U64).toNat * ((6 : U64).toNat - (6 : U64).toNat) / second + 1 <
      meter.spent := by
  obtain ⟨meter, hrun⟩ := Option.isSome_iff_exists.1 (by decide +kernel :
    (run (meterStep ⟨1⟩ 6 6) { system := sampleStart } remintSample).isSome = true)
  have hspent : ((run (meterStep ⟨1⟩ 6 6) { system := sampleStart } remintSample).map
      (·.spent)) = some 20 := by decide +kernel
  refine ⟨meter, reaches_of_run (by decide +kernel) hrun, ?_⟩
  rw [hrun] at hspent
  have hspent : meter.spent = 20 := Option.some.inj hspent
  rw [hspent]
  decide

end Bound

end RateGovernor.Safety.BurstConformance
