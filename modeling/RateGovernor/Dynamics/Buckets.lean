import RateGovernor.Dynamics.Plans
import RateGovernor.Dynamics.Staging

namespace RateGovernor.Dynamics.Buckets

open Model.CheckedMath Model.Bucket Model.Identity Model.Reason Model.Entities Model.Envelope
open Model.EngineState Model.Durability Model.Authority Model.Calls Model.Lifecycle Model.Completion
open Model.Revocation Model.Maintenance Model.Execution Foundation.KeyedTable Install Sections
open Staging
open Turns Bindings Plans

variable {s : System} {event : Event} {decision : Section} {old new : RateEnvelope} {now : U64}
  {bucket refilled : TokenBucket} {granted : U64} {config : EngineConfig} {tables : Tables}

section Refills

theorem toNat_saturatingAdd (a b : U64) :
    (saturatingAdd a b).toNat = min (a.toNat + b.toNat) (2 ^ 64 - 1) := by
  have hmax : kU64Max.toNat = 2 ^ 64 - 1 := rfl
  have ha := a.toNat_lt
  have hb := b.toNat_lt
  have hsub : (kU64Max - b).toNat = 2 ^ 64 - 1 - b.toNat := by
    rw [UInt64.toNat_sub_of_le _ _ (UInt64.le_iff_toNat_le.2 (by omega)), hmax]
  unfold saturatingAdd
  split
  · next hfull =>
    rw [UInt64.lt_iff_toNat_lt, hsub] at hfull
    omega
  · next hfits =>
    rw [UInt64.lt_iff_toNat_lt, hsub] at hfits
    rw [UInt64.toNat_add]
    omega

theorem le_saturatingAdd (a b : U64) : a ≤ saturatingAdd a b := by
  have ha := a.toNat_lt
  rw [UInt64.le_iff_toNat_le, toNat_saturatingAdd]
  omega

def capped (capacity filled : U64) : U64 := if capacity < filled then capacity else filled

theorem capped_le (capacity filled : U64) : capped capacity filled ≤ capacity := by
  unfold capped
  split
  · exact UInt64.le_refl _
  · next h => exact UInt64.not_lt.1 h

theorem le_capped {tokens capacity filled : U64} (h : tokens ≤ capacity) (h' : tokens ≤ filled) :
    tokens ≤ capped capacity filled := by
  unfold capped
  split
  · exact h
  · exact h'

theorem capped_of_le {tokens capacity : U64} (h : tokens ≤ capacity) :
    capped capacity tokens = tokens := by
  unfold capped
  rw [if_neg (UInt64.not_lt.2 h)]

/-- What a refill makes of a balance and its fraction. -/
inductive Refills (bucket : TokenBucket) (now : U64) : TokenBucket → U64 → Prop
  | first (fresh : bucket.initialized = false) : Refills bucket now
      { bucket with
        initialized := true, lastRefillNs := now
        tokens := capped bucket.capacity bucket.tokens } 0
  | regressed (known : bucket.initialized = true) (early : now < bucket.lastRefillNs) :
      Refills bucket now bucket 0
  | idle (known : bucket.initialized = true) (due : bucket.lastRefillNs ≤ now) :
      Refills bucket now
        { bucket with
          lastRefillNs := now, tokens := capped bucket.capacity bucket.tokens } 0
  | flooded (known : bucket.initialized = true) (due : bucket.lastRefillNs ≤ now)
      (product : mulDivMod (now - bucket.lastRefillNs) bucket.rateUps kNanosecondsPerSecond = none) :
      Refills bucket now
        { bucket with
          lastRefillNs := now, tokens := bucket.capacity, fractionalNumerator := 0 }
        (bucket.capacity - bucket.tokens)
  | earned {scaled : DivMod} (known : bucket.initialized = true) (due : bucket.lastRefillNs ≤ now)
      (product : mulDivMod (now - bucket.lastRefillNs) bucket.rateUps kNanosecondsPerSecond =
        some scaled) : Refills bucket now
        { bucket with
          lastRefillNs := now
          tokens := capped bucket.capacity (saturatingAdd bucket.tokens (saturatingAdd
            scaled.quotient ((bucket.fractionalNumerator + scaled.remainder) /
              kNanosecondsPerSecond)))
          fractionalNumerator :=
            (bucket.fractionalNumerator + scaled.remainder) % kNanosecondsPerSecond }
        (capped bucket.capacity (saturatingAdd bucket.tokens (saturatingAdd
            scaled.quotient ((bucket.fractionalNumerator + scaled.remainder) /
              kNanosecondsPerSecond))) - bucket.tokens)

theorem refills_refillBucket (bucket : TokenBucket) (now : U64) :
    Refills bucket now (refillBucket bucket now).1 (refillBucket bucket now).2.tokensGranted := by
  unfold refillBucket
  split
  · next hfresh => exact .first (by simpa using hfresh)
  · next hknown =>
    have hknown : bucket.initialized = true := by simpa using hknown
    split
    · next hearly => exact .regressed hknown hearly
    · next hdue =>
      have hdue := UInt64.not_lt.1 hdue
      simp only
      split
      · have hidle := Refills.idle hknown hdue
        unfold capped at hidle
        split
        · next hover =>
          rw [if_pos hover] at hidle
          exact hidle
        · next hfits =>
          rw [if_neg hfits] at hidle
          exact hidle
      · split
        · next hproduct => exact .flooded hknown hdue hproduct
        · next scaled hproduct => exact .earned hknown hdue hproduct

/-- The balance is within the capacity, and the fraction is less than a token. -/
structure Within (bucket : TokenBucket) : Prop where
  tokens : bucket.tokens ≤ bucket.capacity
  fraction : bucket.fractionalNumerator < kNanosecondsPerSecond

theorem within_configureBucket (capacity rateUps now : U64) :
    Within (configureBucket capacity rateUps now) where
  tokens := UInt64.le_refl _
  fraction := UInt64.lt_iff_toNat_lt.2 (by decide : 0 < 1000000000)

theorem Refills.limits (h : Refills bucket now refilled granted) :
    refilled.capacity = bucket.capacity ∧ refilled.rateUps = bucket.rateUps ∧
      refilled.initialized = true := by
  cases h with
  | first => exact ⟨rfl, rfl, rfl⟩
  | regressed known => exact ⟨rfl, rfl, known⟩
  | idle known => exact ⟨rfl, rfl, known⟩
  | flooded known => exact ⟨rfl, rfl, known⟩
  | earned known => exact ⟨rfl, rfl, known⟩

theorem Refills.within (h : Refills bucket now refilled granted) (hwithin : Within bucket) :
    Within refilled := by
  cases h with
  | first => exact ⟨capped_le _ _, hwithin.fraction⟩
  | regressed => exact hwithin
  | idle => exact ⟨capped_le _ _, hwithin.fraction⟩
  | flooded => exact ⟨UInt64.le_refl _, UInt64.lt_iff_toNat_lt.2 (by decide : 0 < 1000000000)⟩
  | earned => exact ⟨capped_le _ _, UInt64.mod_lt _ (by decide)⟩

theorem Refills.gains (h : Refills bucket now refilled granted) (hwithin : Within bucket) :
    bucket.tokens.toNat + granted.toNat = refilled.tokens.toNat := by
  have gained {filled : U64} (hle : bucket.tokens ≤ filled) :
      bucket.tokens.toNat + (filled - bucket.tokens).toNat = filled.toNat := by
    rw [UInt64.toNat_sub_of_le _ _ hle]
    exact Nat.add_sub_cancel' (UInt64.le_iff_toNat_le.1 hle)
  cases h with
  | first =>
    simp only [capped_of_le hwithin.tokens]
    rfl
  | regressed => rfl
  | idle =>
    simp only [capped_of_le hwithin.tokens]
    rfl
  | flooded => exact gained hwithin.tokens
  | earned => exact gained (le_capped hwithin.tokens (le_saturatingAdd _ _))

end Refills

section Accounts

/-- The bucket has been configured with the limits of the plan. -/
structure Funded (bucket : TokenBucket) (plan : EffectivePlan) : Prop where
  known : bucket.initialized = true
  capacity : bucket.capacity = plan.burstTokens
  rate : bucket.rateUps = plan.ceilingUps

/-- The bucket of an envelope is within its limits, and they are those of its plan. -/
structure Accounted (envelope : RateEnvelope) : Prop where
  within : Within envelope.bucket
  funded : envelope.hasPlan = true → Funded envelope.bucket envelope.plan

def AllAccounted (envelopes : Registry RateEnvelope (·.id.value)) : Prop :=
  ∀ k envelope, envelopes.find k = some envelope → Accounted envelope

structure SameAccount (old new : RateEnvelope) : Prop where
  bucket : new.bucket = old.bucket
  plan : SamePlan old new

theorem SameAccount.accounted (h : SameAccount old new) (hold : Accounted old) : Accounted new := by
  obtain ⟨hbucket, hplan, hrecorded⟩ := h
  refine ⟨hbucket ▸ hold.within, ?_⟩
  rw [hbucket, hplan, hrecorded]
  exact hold.funded

theorem sameAccount_rfl (old : RateEnvelope) : SameAccount old old := ⟨rfl, rfl, rfl⟩

theorem sameAccount_lateEnvelope (old : RateEnvelope) (reason : ReasonCode) (effect : Bool)
    (now : U64) : SameAccount old (lateEnvelope old reason effect now) := by
  refine ⟨?_, samePlan_lateEnvelope _ _ _ _⟩
  unfold lateEnvelope
  simp only
  repeat' split
  all_goals rfl

theorem sameAccount_judgeApply (engine : Engine) (old : RateEnvelope)
    (attempt : EnforcementAttempt) (request : ApplyRequest) (verification : VerificationOutcome)
    (now : U64) :
    SameAccount old (judgeApply engine old attempt request verification now).envelope := by
  refine ⟨?_, samePlan_judgeApply _ _ _ _ _ _⟩
  unfold judgeApply
  simp only
  repeat' split
  all_goals rfl

theorem sameAccount_judgeRevalidation (sweep : Sweep) (probe : Probe) (old : RateEnvelope)
    (verification : VerificationOutcome) (now : U64) :
    SameAccount old (judgeRevalidation sweep probe old verification now).envelope := by
  refine ⟨?_, samePlan_judgeRevalidation _ _ _ _ _⟩
  unfold judgeRevalidation
  simp only
  repeat' split
  all_goals rfl

theorem sameAccount_of_epochDemoted (h : epochDemoted now old = some new) :
    SameAccount old new := by
  refine ⟨?_, samePlan_of_epochDemoted h⟩
  unfold epochDemoted at h
  simp only at h
  split at h <;> cases h
  rfl

theorem sameAccount_of_sessionLost (h : sessionLostEnvelope old = some new) :
    SameAccount old new := by
  refine ⟨?_, samePlan_of_sessionLost h⟩
  unfold sessionLostEnvelope at h
  simp only at h
  split at h <;> cases h
  rfl

theorem sameAccount_of_demoted (h : demotedEnvelope old now = some new) : SameAccount old new := by
  unfold demotedEnvelope at h
  simp only at h
  split at h <;> cases h
  exact ⟨rfl, rfl, rfl⟩

theorem bucket_maintained (tables : Tables) (old : RateEnvelope) (now : U64) :
    (maintained tables old now).bucket =
      if old.bucket.initialized then (refillBucket old.bucket now).1 else old.bucket := by
  have hrefilled : (refillStage old now).1.bucket =
      if old.bucket.initialized then (refillBucket old.bucket now).1 else old.bucket := by
    unfold refillStage
    split <;> rfl
  have hcooled : (cooldownStage (refillStage old now).1 now).bucket =
      (refillStage old now).1.bucket := by
    unfold cooldownStage
    split <;> rfl
  rw [← hrefilled, ← hcooled]
  unfold maintained staleStage
  simp only
  split <;> rfl

theorem Refills.funded {plan : EffectivePlan} (h : Refills bucket now refilled granted)
    (hfunded : Funded bucket plan) : Funded refilled plan := by
  obtain ⟨hcapacity, hrate, hknown⟩ := h.limits
  exact ⟨hknown, hcapacity.trans hfunded.capacity, hrate.trans hfunded.rate⟩

theorem Accounted.refill (h : Accounted old) (hrefills : Refills old.bucket now refilled granted)
    (hplan : SamePlan old new) (hbucket : new.bucket = refilled) : Accounted new := by
  obtain ⟨hplan, hrecorded⟩ := hplan
  refine ⟨hbucket ▸ hrefills.within h.within, ?_⟩
  rw [hbucket, hplan, hrecorded]
  exact fun hplanned ↦ hrefills.funded (h.funded hplanned)

theorem accounted_maintained (tables : Tables) (h : Accounted old) (now : U64) :
    Accounted (maintained tables old now) := by
  have hsame := samePlan_maintained tables old now
  have hbucket := bucket_maintained tables old now
  split at hbucket
  · exact h.refill (refills_refillBucket old.bucket now) hsame hbucket
  · exact SameAccount.accounted ⟨hbucket, hsame⟩ h

theorem bucket_authorizedEnvelope (old : RateEnvelope) (plan : EffectivePlan) (now : U64) :
    (authorizedEnvelope old plan now).bucket =
      if !old.bucket.initialized || old.bucket.capacity ≠ plan.burstTokens ||
          old.bucket.rateUps ≠ plan.ceilingUps then
        configureBucket plan.burstTokens plan.ceilingUps now
      else old.bucket := by
  unfold authorizedEnvelope
  simp only
  repeat' split
  all_goals rfl

theorem plan_authorizedEnvelope (old : RateEnvelope) (plan : EffectivePlan) (now : U64) :
    (authorizedEnvelope old plan now).plan = plan ∧
      (authorizedEnvelope old plan now).hasPlan = true := by
  unfold authorizedEnvelope
  simp only
  repeat' split
  all_goals exact ⟨rfl, rfl⟩

theorem accounted_authorizedEnvelope (h : Accounted old) (plan : EffectivePlan) (now : U64) :
    Accounted (authorizedEnvelope old plan now) := by
  have hplan := (plan_authorizedEnvelope old plan now).1
  have hbucket := bucket_authorizedEnvelope old plan now
  split at hbucket
  · refine ⟨hbucket ▸ within_configureBucket _ _ _, fun _ ↦ ?_⟩
    rw [hbucket, hplan]
    exact ⟨rfl, rfl, rfl⟩
  · next hkept =>
    simp only [ne_eq, Bool.or_eq_true, Bool.not_eq_true', decide_eq_true_eq, not_or,
      Decidable.not_not] at hkept
    refine ⟨hbucket ▸ h.within, fun _ ↦ ?_⟩
    rw [hbucket, hplan]
    exact ⟨by simpa using hkept.1.1, hkept.1.2, hkept.2⟩

theorem accounted_dispatchingEnvelope (old : RateEnvelope) (now : U64) :
    Accounted (dispatchingEnvelope old now) :=
  ⟨within_configureBucket _ _ _, fun _ ↦ ⟨rfl, rfl, rfl⟩⟩

theorem accounted_judgedRevokeEnvelope (h : Accounted old) (reason : ReasonCode)
    (verification : VerificationOutcome) (now : U64) :
    Accounted (judgedRevokeEnvelope old reason verification now) := by
  unfold judgedRevokeEnvelope
  simp only
  split
  · exact ⟨⟨UInt64.le_iff_toNat_le.2 (Nat.zero_le _), h.within.fraction⟩,
      fun hplanned ↦ ⟨(h.funded hplanned).known, (h.funded hplanned).capacity,
        (h.funded hplanned).rate⟩⟩
  · exact ⟨h.within, h.funded⟩

end Accounts

section Sections

/-- Every envelope a section stages is accounted, but for the one `apply` stages with its new plan
before the bucket follows. -/
theorem accounted_of_stages {type} (hall : AllAccounted s.engine.tables.envelopes)
    (h : Stages s event (.envelope type new))
    (hspends : ∀ id tokens now, event ≠ .consumeBurst id tokens now) :
    Accounted new ∨ ∃ id actor now session envelope backend,
      event = .apply id actor now session ∧ ApplyAdmitted s id now session envelope backend ∧
        (derivePlanLocked s.engine envelope now).authorized = true ∧
        new = plannedEnvelope envelope (planNow s envelope now) := by
  have kept {k : U64} {old : RateEnvelope} {P : Prop}
      (hfound : s.engine.tables.envelopes.find k = some old) (hsame : SameAccount old new) :
      Accounted new ∨ P := .inl (hsame.accounted (hall k old hfound))
  cases h with
  | opened =>
    exact .inl ⟨⟨UInt64.le_refl _, UInt64.lt_iff_toNat_lt.2 (by decide : 0 < 1000000000)⟩, nofun⟩
  | epochDemoted hfound hdemoted =>
    exact kept hfound (sameAccount_of_epochDemoted hdemoted)
  | unauthorized hfound => exact kept hfound ⟨rfl, rfl, rfl⟩
  | authorized hfound => exact .inl (accounted_authorizedEnvelope (hall _ _ hfound) _ _)
  | denied admitted => exact kept admitted.found ⟨rfl, rfl, rfl⟩
  | planned admitted hplan => exact .inr ⟨_, _, _, _, _, _, rfl, admitted, hplan, rfl⟩
  | dispatching => exact .inl (accounted_dispatchingEnvelope _ _)
  | lateFinishEnvelope finishing =>
    exact kept finishing.storedEnvelope (sameAccount_lateEnvelope _ _ _ _)
  | refusedApplyEnvelope accepted => exact kept accepted.storedEnvelope ⟨rfl, rfl, rfl⟩
  | latePublishEnvelope publishing =>
    exact kept publishing.storedEnvelope (sameAccount_lateEnvelope _ _ _ _)
  | judgedApplyEnvelope judged =>
    exact kept judged.storedEnvelope (sameAccount_judgeApply _ _ _ _ _ _)
  | revoking admitted => exact kept admitted.found ⟨rfl, rfl, rfl⟩
  | refusedRevokeEnvelope finishing => exact kept finishing.storedEnvelope ⟨rfl, rfl, rfl⟩
  | judgedRevokeEnvelope publishing =>
    exact .inl (accounted_judgedRevokeEnvelope (hall _ _ publishing.storedEnvelope) _ _ _)
  | abandonedEnvelope _ hnamed => exact kept hnamed ⟨rfl, rfl, rfl⟩
  | consumed => exact absurd rfl (hspends _ _ _)
  | sessionLost hfound hlost =>
    exact kept hfound (sameAccount_of_sessionLost hlost)
  | tickLost hfound hlost =>
    exact kept hfound (sameAccount_of_sessionLost hlost)
  | tickMaintained hfound => exact .inl (accounted_maintained _ (hall _ _ hfound) _)
  | tickExpiredEnvelope _ _ hnamed => exact kept hnamed ⟨rfl, rfl, rfl⟩
  | revalidated revalidating =>
    exact kept revalidating.storedEnvelope (sameAccount_judgeRevalidation _ _ _ _ _)
  | shutdownEnvelope _ hnamed => exact kept hnamed ⟨rfl, rfl, rfl⟩

/-- What `consume_burst` stages when it is not refused: the bucket as it is refilled, with the tokens
taken where it holds them. -/
theorem consumeBurst_cases (s : System) (id : RateEnvelopeId) (tokens now : U64) :
    Concluded s.engine (consumeBurst s.engine id tokens now) ∨
      ∃ old, s.engine.tables.envelopes.find id.value = some old ∧
        (((refillBucket old.bucket now).1.tokens < tokens ∧
            (consumeBurst s.engine id tokens now).records =
              [.envelope .envelopeCounters { old with bucket := (refillBucket old.bucket now).1 }] ∧
            ∀ status, ∃ error, (consumeBurst s.engine id tokens now).reply status =
              (.error error, none)) ∨
          tokens ≤ (refillBucket old.bucket now).1.tokens ∧
            (consumeBurst s.engine id tokens now).records =
              [.envelope .envelopeCounters { old with
                bucket := { (refillBucket old.bucket now).1 with
                  tokens := (refillBucket old.bucket now).1.tokens - tokens }
                updatedNs := now }]) := by
  unfold consumeBurst
  simp only
  split
  · exact .inl ⟨_, _, rfl⟩
  · split
    · exact .inl ⟨_, _, rfl⟩
    · next old hfound =>
      split
      · exact .inl ⟨_, _, rfl⟩
      · split
        · exact .inl ⟨_, _, rfl⟩
        · refine .inr ⟨old, hfound, ?_⟩
          unfold tryConsume
          split
          · next hnone =>
            split at hnone
            · next hshort =>
              refine .inl ⟨hshort, rfl, fun status ↦ ?_⟩
              cases status <;> exact ⟨_, rfl⟩
            · cases hnone
          · next spent hspent =>
            split at hspent
            · cases hspent
            · next hcovered =>
              cases hspent
              exact .inr ⟨UInt64.not_lt.1 hcovered, rfl⟩

theorem accounted_consumeBurst {type} {id : RateEnvelopeId} {tokens : U64}
    (hall : AllAccounted s.engine.tables.envelopes)
    (h : .envelope type new ∈ (consumeBurst s.engine id tokens now).records) : Accounted new := by
  obtain hnone | ⟨old, hfound, ⟨-, heq, -⟩ | ⟨hcovered, heq⟩⟩ := consumeBurst_cases s id tokens now
  · exact absurd h hnone.not_mem
  · rw [heq] at h
    cases List.mem_singleton.1 h
    exact (hall _ _ hfound).refill (refills_refillBucket _ _) ⟨rfl, rfl⟩ rfl
  · rw [heq] at h
    cases List.mem_singleton.1 h
    have hrefilled : Accounted { old with bucket := (refillBucket old.bucket now).1 } :=
      (hall _ _ hfound).refill (refills_refillBucket _ _) ⟨rfl, rfl⟩ rfl
    refine ⟨⟨?_, hrefilled.within.fraction⟩, fun hplanned ↦ ?_⟩
    · have hle := UInt64.le_iff_toNat_le.1 hrefilled.within.tokens
      rw [UInt64.le_iff_toNat_le, UInt64.toNat_sub_of_le _ _ hcovered]
      exact Nat.le_trans (Nat.sub_le _ _) hle
    · obtain ⟨hknown, hcapacity, hrate⟩ := hrefilled.funded hplanned
      exact ⟨hknown, hcapacity, hrate⟩

/-- `apply` stages its new plan before the bucket that follows it. -/
structure Dispatches (s : System) (decision : Section) : Prop where
  whole : decision.chunked = false
  records : ∃ planned attempt now, decision.records = [.envelope .envelopeAuthorized planned,
    .created attempt, .envelope .envelopeStateChange (dispatchingEnvelope planned now)]

theorem accounted_apply {id : RateEnvelopeId} {actor : ActorContext} {session : Session}
    (hall : AllAccounted s.engine.tables.envelopes) :
    (∀ type new, .envelope type new ∈ (apply s.engine id actor now session).records →
      Accounted new) ∨ Dispatches s (begun s (apply s.engine id actor now session)) := by
  obtain hnone | ⟨envelope, backend, admitted, heq⟩ := apply_cases s id actor now session
  · exact .inl fun _ _ h ↦ absurd h hnone.not_mem
  · rw [heq]
    unfold dispatchApply
    simp only
    split
    · refine .inl fun type new h ↦ ?_
      cases List.mem_singleton.1 h
      have hold : Accounted envelope := hall _ _ admitted.found
      exact ⟨hold.within, hold.funded⟩
    · split
      · refine .inl fun type new h ↦ ?_
        obtain h | h := List.mem_cons.1 h
        · cases h
        · cases List.mem_singleton.1 h
          exact accounted_dispatchingEnvelope _ _
      · exact .inr ⟨rfl, _, _, _, rfl⟩

theorem accounted_of_sectionOf (hall : AllAccounted s.engine.tables.envelopes)
    (hsection : sectionOf s event = some decision) :
    (∀ type new, .envelope type new ∈ decision.records → Accounted new) ∨
      Dispatches s decision := by
  have staged (hspends : ∀ id tokens now, event ≠ .consumeBurst id tokens now)
      (happlies : ∀ id actor now session, event ≠ .apply id actor now session) :
      ∀ type new, .envelope type new ∈ decision.records → Accounted new := by
    intro type new hmem
    obtain h | ⟨id, actor, now, session, -, -, hevent, -⟩ :=
      accounted_of_stages hall (stages_of_sectionOf hsection hmem) hspends
    · exact h
    · exact absurd hevent (happlies id actor now session)
  cases event with
  | apply id actor now session =>
    cases hsection
    exact accounted_apply hall
  | consumeBurst id tokens now =>
    cases hsection
    exact .inl fun _ _ h ↦ accounted_consumeBurst hall h
  | _ => exact .inl (staged nofun nofun)

theorem allAccounted_installed {records : List Staged} (hall : AllAccounted tables.envelopes)
    (h : ∀ type envelope, .envelope type envelope ∈ records → Accounted envelope) :
    AllAccounted (installed config tables records).envelopes := by
  intro k envelope hfind
  rw [(installed_registries _ _).2.2.2.2.2.2] at hfind
  obtain ⟨staged, hmem, hstaged⟩ | hold := Registry.find_putAll hfind
  · cases staged with
    | envelope type value =>
      cases hstaged
      exact h type envelope hmem
    | _ => cases hstaged
  · exact hall k envelope hold

theorem installed_accounted {decision : Section} (hall : AllAccounted s.engine.tables.envelopes)
    (hsection : sectionOf s event = some decision) :
    AllAccounted (installed config s.engine.tables decision.records).envelopes := by
  obtain haccounted | ⟨-, planned, attempt, now, hrecords⟩ := accounted_of_sectionOf hall hsection
  · exact allAccounted_installed hall haccounted
  · intro k envelope hfind
    rw [(installed_registries _ _).2.2.2.2.2.2, hrecords] at hfind
    simp only [Registry.putAll_cons, Registry.putAll_nil, envelope?, Registry.putSome] at hfind
    rw [Registry.find_put] at hfind
    split at hfind
    · cases hfind
      exact accounted_dispatchingEnvelope planned now
    · next hother =>
      have hother : ¬ planned.id.value = k := hother
      rw [Registry.find_put] at hfind
      exact hall k envelope ((if_neg hother).symm.trans hfind)

theorem allAccounted_step {t : System} {action : Action}
    (hall : AllAccounted s.engine.tables.envelopes) (hstep : step s action = some t) :
    AllAccounted t.engine.tables.envelopes := by
  obtain ⟨decision, hsection, hturn⟩ := turn_of_step hstep
  cases hturn with
  | quiet => exact hall
  | failed => exact hall
  | committed => exact installed_accounted hall hsection

end Sections

end RateGovernor.Dynamics.Buckets
