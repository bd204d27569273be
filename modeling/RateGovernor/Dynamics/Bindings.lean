import RateGovernor.Dynamics.Evolution

namespace RateGovernor.Dynamics.Bindings

open Model.CheckedMath Model.Identity Model.Reason Model.Entities Model.Envelope Model.EngineState
open Model.Durability Model.Authority Model.Calls Model.Lifecycle Model.Completion Model.Revocation
open Model.Maintenance Model.Execution Foundation.KeyedTable Sections Evolution

/-- What an envelope is bound to, fixed when it is opened. -/
structure Binding where
  id : RateEnvelopeId
  generation : Generation
  flow : FlowId
  flowGeneration : Generation
  resource : ResourceId
  resourceGeneration : Generation
  grant : GrantId
  grantGeneration : Generation
  hasReservation : Bool
  reservation : ReservationId
  reservationGeneration : Generation
  policy : PolicyId
  policyGeneration : Generation
  backend : BackendId
  backendGeneration : Generation

def binding (envelope : RateEnvelope) : Binding where
  id := envelope.id
  generation := envelope.generation
  flow := envelope.flow
  flowGeneration := envelope.flowGeneration
  resource := envelope.resource
  resourceGeneration := envelope.resourceGeneration
  grant := envelope.grant
  grantGeneration := envelope.grantGeneration
  hasReservation := envelope.hasReservation
  reservation := envelope.reservation
  reservationGeneration := envelope.reservationGeneration
  policy := envelope.policy
  policyGeneration := envelope.policyGeneration
  backend := envelope.backend
  backendGeneration := envelope.backendGeneration

variable {s : System} {event : Event} {envelope : RateEnvelope}

section Updates

theorem binding_authorizedEnvelope (envelope : RateEnvelope) (plan : EffectivePlan) (now : U64) :
    binding (authorizedEnvelope envelope plan now) = binding envelope := by
  unfold authorizedEnvelope
  simp only
  repeat' split
  all_goals rfl

theorem binding_plannedEnvelope (envelope : RateEnvelope) (plan : EffectivePlan) :
    binding (plannedEnvelope envelope plan) = binding envelope := by
  unfold plannedEnvelope
  split <;> rfl

theorem binding_dispatchingEnvelope (envelope : RateEnvelope) (now : U64) :
    binding (dispatchingEnvelope envelope now) = binding envelope := rfl

theorem binding_lateEnvelope (envelope : RateEnvelope) (reason : ReasonCode) (effect : Bool)
    (now : U64) : binding (lateEnvelope envelope reason effect now) = binding envelope := by
  unfold lateEnvelope
  simp only
  repeat' split
  all_goals rfl

theorem binding_judgeApply (engine : Engine) (envelope : RateEnvelope)
    (attempt : EnforcementAttempt) (request : ApplyRequest) (verification : VerificationOutcome)
    (now : U64) :
    binding (judgeApply engine envelope attempt request verification now).envelope =
      binding envelope := by
  unfold judgeApply
  simp only
  repeat' split
  all_goals rfl

theorem binding_judgedRevokeEnvelope (envelope : RateEnvelope) (reason : ReasonCode)
    (verification : VerificationOutcome) (now : U64) :
    binding (judgedRevokeEnvelope envelope reason verification now) = binding envelope := by
  unfold judgedRevokeEnvelope
  simp only
  split <;> rfl

theorem binding_judgeRevalidation (sweep : Sweep) (probe : Probe) (envelope : RateEnvelope)
    (verification : VerificationOutcome) (now : U64) :
    binding (judgeRevalidation sweep probe envelope verification now).envelope =
      binding envelope := by
  unfold judgeRevalidation
  simp only
  repeat' split
  all_goals rfl

theorem binding_of_epochDemoted {now : U64} {old : RateEnvelope}
    (h : epochDemoted now old = some envelope) : binding envelope = binding old := by
  unfold epochDemoted at h
  simp only at h
  split at h
  · cases h
  · cases h
    rfl

theorem binding_of_sessionLost {old : RateEnvelope} (h : sessionLostEnvelope old = some envelope) :
    binding envelope = binding old := by
  unfold sessionLostEnvelope at h
  simp only at h
  split at h
  · cases h
  · cases h
    rfl

theorem binding_refillStage (envelope : RateEnvelope) (now : U64) :
    binding (refillStage envelope now).1 = binding envelope := by
  unfold refillStage
  split <;> rfl

theorem binding_cooldownStage (envelope : RateEnvelope) (now : U64) :
    binding (cooldownStage envelope now) = binding envelope := by
  unfold cooldownStage
  split <;> rfl

theorem binding_staleStage (envelope : RateEnvelope) (stale : ReasonCode) :
    binding (staleStage envelope stale) = binding envelope := by
  unfold staleStage
  split <;> rfl

theorem binding_maintained (tables : Tables) (envelope : RateEnvelope) (now : U64) :
    binding (maintained tables envelope now) = binding envelope := by
  have hstamp (e : RateEnvelope) : binding { e with updatedNs := now } = binding e := rfl
  unfold maintained
  simp only
  rw [hstamp, binding_staleStage, binding_cooldownStage, binding_refillStage]

end Updates

theorem staged_id {k : U64} {stored staged : RateEnvelope}
    (hstored : s.engine.tables.envelopes.find k = some stored)
    (hbinding : binding staged = binding stored) : staged.id.value = k := by
  have hid : staged.id = stored.id := congrArg Binding.id hbinding
  have hkey := Registry.key_of_find hstored
  rw [hid]
  exact hkey

theorem stored_eq {k : U64} {stored staged old : RateEnvelope}
    (hstored : s.engine.tables.envelopes.find k = some stored)
    (hbinding : binding staged = binding stored)
    (hfind : s.engine.tables.envelopes.find staged.id.value = some old) : stored = old := by
  rw [staged_id hstored hbinding, hstored] at hfind
  exact Option.some.inj hfind

theorem binding_of_stages {type} (h : Stages s event (.envelope type envelope)) :
    (type = .envelopeOpened ∧ s.engine.tables.envelopes.size < s.engine.config.maxEnvelopes.toNat ∧
        ∃ request now, envelope = openedEnvelope s.engine request now) ∨
      ∃ old, s.engine.tables.envelopes.find envelope.id.value = some old ∧
        binding envelope = binding old := by
  have kept {k : U64} {old envelope : RateEnvelope}
      (hfound : s.engine.tables.envelopes.find k = some old)
      (hbinding : binding envelope = binding old) :
      ∃ old, s.engine.tables.envelopes.find envelope.id.value = some old ∧
        binding envelope = binding old := by
    refine ⟨old, ?_, hbinding⟩
    rw [staged_id hfound hbinding]
    exact hfound
  cases h with
  | opened hroom => exact .inl ⟨rfl, hroom, _, _, rfl⟩
  | epochDemoted hfound hdemoted => exact .inr (kept hfound (binding_of_epochDemoted hdemoted))
  | unauthorized hfound => exact .inr (kept hfound rfl)
  | authorized hfound => exact .inr (kept hfound (binding_authorizedEnvelope _ _ _))
  | denied admitted => exact .inr (kept admitted.found rfl)
  | planned admitted => exact .inr (kept admitted.found (binding_plannedEnvelope _ _))
  | dispatching admitted =>
    exact .inr (kept admitted.found
      ((binding_dispatchingEnvelope _ _).trans (binding_plannedEnvelope _ _)))
  | lateFinishEnvelope finishing =>
    exact .inr (kept finishing.storedEnvelope (binding_lateEnvelope _ _ _ _))
  | refusedApplyEnvelope accepted => exact .inr (kept accepted.storedEnvelope rfl)
  | latePublishEnvelope publishing =>
    exact .inr (kept publishing.storedEnvelope (binding_lateEnvelope _ _ _ _))
  | judgedApplyEnvelope judged =>
    exact .inr (kept judged.storedEnvelope (binding_judgeApply _ _ _ _ _ _))
  | revoking admitted => exact .inr (kept admitted.found rfl)
  | refusedRevokeEnvelope finishing => exact .inr (kept finishing.storedEnvelope rfl)
  | judgedRevokeEnvelope publishing =>
    exact .inr (kept publishing.storedEnvelope (binding_judgedRevokeEnvelope _ _ _ _))
  | abandonedEnvelope _ hnamed => exact .inr (kept hnamed rfl)
  | consumed hfound => exact .inr (kept hfound rfl)
  | sessionLost hfound hlost => exact .inr (kept hfound (binding_of_sessionLost hlost))
  | tickLost hfound hlost => exact .inr (kept hfound (binding_of_sessionLost hlost))
  | tickMaintained hfound => exact .inr (kept hfound (binding_maintained _ _ _))
  | tickExpiredEnvelope _ _ hnamed => exact .inr (kept hnamed rfl)
  | revalidated revalidating =>
    exact .inr (kept revalidating.storedEnvelope (binding_judgeRevalidation _ _ _ _ _))
  | shutdownEnvelope _ hnamed => exact .inr (kept hnamed rfl)

end RateGovernor.Dynamics.Bindings
