import RateGovernor.Dynamics.Bindings

namespace RateGovernor.Dynamics.Cooling

open Model.CheckedMath Model.Identity Model.Reason Model.Entities Model.Envelope Model.EngineState
open Model.Authority Model.Calls Model.Lifecycle Model.Completion Model.Revocation
open Model.Maintenance Model.Execution Sections Bindings

variable {s : System} {event : Event} {old new : RateEnvelope} {now : U64}

section Updates

def SameCooldown (old new : RateEnvelope) : Prop := new.cooldownUntilNs = old.cooldownUntilNs

theorem sameCooldown_lateEnvelope (old : RateEnvelope) (reason : ReasonCode) (effect : Bool)
    (now : U64) : SameCooldown old (lateEnvelope old reason effect now) := by
  unfold lateEnvelope
  simp only
  repeat' split
  all_goals rfl

theorem sameCooldown_plannedEnvelope (old : RateEnvelope) (plan : EffectivePlan) :
    SameCooldown old (plannedEnvelope old plan) := by
  unfold plannedEnvelope
  split <;> rfl

theorem sameCooldown_authorizedEnvelope (old : RateEnvelope) (plan : EffectivePlan) (now : U64) :
    SameCooldown old (authorizedEnvelope old plan now) := by
  unfold authorizedEnvelope
  simp only
  repeat' split
  all_goals rfl

theorem sameCooldown_judgeRevalidation (sweep : Sweep) (probe : Probe) (old : RateEnvelope)
    (verification : VerificationOutcome) (now : U64) :
    SameCooldown old (judgeRevalidation sweep probe old verification now).envelope := by
  unfold judgeRevalidation
  simp only
  repeat' split
  all_goals rfl

theorem sameCooldown_of_epochDemoted (h : epochDemoted now old = some new) :
    SameCooldown old new := by
  unfold epochDemoted at h
  simp only at h
  split at h <;> cases h
  rfl

theorem sameCooldown_of_sessionLost (h : sessionLostEnvelope old = some new) :
    SameCooldown old new := by
  unfold sessionLostEnvelope at h
  simp only at h
  split at h <;> cases h
  rfl

theorem sameCooldown_judgedRevoke (old : RateEnvelope) (reason : ReasonCode)
    (verification : VerificationOutcome) (now : U64) :
    SameCooldown old (judgedRevokeEnvelope old reason verification now) ∨
      (judgedRevokeEnvelope old reason verification now).state = .revoked := by
  unfold judgedRevokeEnvelope
  simp only
  split
  · exact .inr rfl
  · exact .inl rfl

theorem sameCooldown_maintained (tables : Tables) (old : RateEnvelope) (now : U64) :
    SameCooldown old (maintained tables old now) ∨ old.cooldownUntilNs ≤ now := by
  have hrefilled : SameCooldown old (refillStage old now).1 := by
    unfold refillStage
    split <;> rfl
  have hstale (reason : ReasonCode) (envelope : RateEnvelope) :
      SameCooldown envelope { staleStage envelope reason with updatedNs := now } := by
    unfold staleStage
    split <;> rfl
  cases hexpired : cooldownExpired (refillStage old now).1 now with
  | false =>
    refine .inl ((hstale _ _).trans ?_)
    rw [cooldownStage, hexpired]
    exact hrefilled
  | true =>
    rw [cooldownExpired, Bool.and_eq_true, decide_eq_true_eq, decide_eq_true_eq, hrefilled]
      at hexpired
    exact .inr hexpired.2

end Updates

/-- What can become of the cooldown of an envelope: it ends once it is over, it is set by a refused
apply, and a confirmed apply or revocation ends it. -/
inductive Recools (s : System) (event : Event) (old new : RateEnvelope) : Prop
  | kept (same : SameCooldown old new)
  | expired {now : U64} {session : Session} (ticked : event = .tick now session)
      (passed : old.cooldownUntilNs ≤ now)
  | refused {i : ℕ} {task : ApplyTask} {report : CompletionReport} {now : U64}
      {attempt : EnforcementAttempt} (accepted : ApplyAccepted s i task report now attempt old)
  | confirmed {i : ℕ} {task : ApplyTask} {now : U64} {backend : Option Backend}
      {verification : VerificationOutcome} {attempt : EnforcementAttempt}
      (judged : ApplyJudged s i task now backend verification attempt old)
  | revoked (state : new.state = .revoked)

theorem recools_of_stages {type} (h : Stages s event (.envelope type new))
    (htype : type ≠ .envelopeOpened)
    (hfind : s.engine.tables.envelopes.find new.id.value = some old) :
    Recools s event old new := by
  cases h with
  | opened => exact absurd rfl htype
  | epochDemoted hfound hdemoted =>
    cases stored_eq hfound (binding_of_epochDemoted hdemoted) hfind
    exact .kept (sameCooldown_of_epochDemoted hdemoted)
  | unauthorized hfound =>
    cases stored_eq hfound rfl hfind
    exact .kept rfl
  | authorized hfound =>
    cases stored_eq hfound (binding_authorizedEnvelope _ _ _) hfind
    exact .kept (sameCooldown_authorizedEnvelope _ _ _)
  | denied admitted =>
    cases stored_eq admitted.found rfl hfind
    exact .kept rfl
  | planned admitted =>
    cases stored_eq admitted.found (binding_plannedEnvelope _ _) hfind
    exact .kept (sameCooldown_plannedEnvelope _ _)
  | dispatching admitted =>
    cases stored_eq admitted.found ((binding_dispatchingEnvelope _ _).trans
      (binding_plannedEnvelope _ _)) hfind
    exact .kept (sameCooldown_plannedEnvelope _ _)
  | lateFinishEnvelope finishing =>
    cases stored_eq finishing.storedEnvelope (binding_lateEnvelope _ _ _ _) hfind
    exact .kept (sameCooldown_lateEnvelope _ _ _ _)
  | refusedApplyEnvelope accepted =>
    cases stored_eq accepted.storedEnvelope rfl hfind
    exact .refused accepted
  | latePublishEnvelope publishing =>
    cases stored_eq publishing.storedEnvelope (binding_lateEnvelope _ _ _ _) hfind
    exact .kept (sameCooldown_lateEnvelope _ _ _ _)
  | judgedApplyEnvelope judged =>
    cases stored_eq judged.storedEnvelope (binding_judgeApply _ _ _ _ _ _) hfind
    exact .confirmed judged
  | revoking admitted =>
    cases stored_eq admitted.found rfl hfind
    exact .kept rfl
  | refusedRevokeEnvelope finishing =>
    cases stored_eq finishing.storedEnvelope rfl hfind
    exact .kept rfl
  | judgedRevokeEnvelope publishing =>
    cases stored_eq publishing.storedEnvelope (binding_judgedRevokeEnvelope _ _ _ _) hfind
    obtain hsame | hrevoked := sameCooldown_judgedRevoke old _ _ _
    · exact .kept hsame
    · exact .revoked hrevoked
  | abandonedEnvelope _ hnamed =>
    cases stored_eq hnamed rfl hfind
    exact .kept rfl
  | consumed hfound =>
    cases stored_eq hfound rfl hfind
    exact .kept rfl
  | sessionLost hfound hlost =>
    cases stored_eq hfound (binding_of_sessionLost hlost) hfind
    exact .kept (sameCooldown_of_sessionLost hlost)
  | tickLost hfound hlost =>
    cases stored_eq hfound (binding_of_sessionLost hlost) hfind
    exact .kept (sameCooldown_of_sessionLost hlost)
  | tickMaintained hfound =>
    cases stored_eq hfound (binding_maintained _ _ _) hfind
    obtain hsame | hpassed := sameCooldown_maintained s.engine.tables old _
    · exact .kept hsame
    · exact .expired rfl hpassed
  | tickExpiredEnvelope _ _ hnamed =>
    cases stored_eq hnamed rfl hfind
    exact .kept rfl
  | revalidated revalidating =>
    cases stored_eq revalidating.storedEnvelope (binding_judgeRevalidation _ _ _ _ _) hfind
    exact .kept (sameCooldown_judgeRevalidation _ _ _ _ _)
  | shutdownEnvelope _ hnamed =>
    cases stored_eq hnamed rfl hfind
    exact .kept rfl

end RateGovernor.Dynamics.Cooling
