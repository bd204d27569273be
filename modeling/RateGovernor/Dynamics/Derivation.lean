import RateGovernor.Dynamics.PlanLimits

namespace RateGovernor.Dynamics.Derivation

open Model.CheckedMath Model.Identity Model.Reason Model.Entities Model.Envelope Model.Plan
open PlanLimits

variable {inputs : PlanInputs} {now : U64} {flow : Flow} {resource : Resource}
  {grant : Grant} {policy : Policy} {reservation : Option Reservation}
  {backend : BackendDescriptor}

/-- The reservation an envelope asks for, admitted at `now`; one it does not ask for is not read. -/
def Reserved (inputs : PlanInputs) (now : U64) : Option Reservation → Prop
  | none => inputs.hasReservation = false
  | some r => inputs.hasReservation = true ∧ inputs.reservationDef = some r ∧
      r.generation = inputs.reservationGeneration ∧ r.flow = inputs.flow ∧
      r.resource = inputs.resource ∧ r.active = true ∧ r.window.contains now = true

/-- All that `derive_plan` checks, of the definitions it finds. -/
structure Checked (inputs : PlanInputs) (now : U64) (flow : Flow) (resource : Resource)
    (grant : Grant) (policy : Policy) (reservation : Option Reservation)
    (backend : BackendDescriptor) : Prop where
  identified : inputs.envelope.valid = true ∧ inputs.envelopeGeneration.valid = true
  named : inputs.flow.valid = true ∧ inputs.resource.valid = true
  flowChecked : inputs.flowDef = some flow ∧ flow.generation = inputs.flowGeneration ∧
    flow.active = true
  resourceChecked : inputs.resourceDef = some resource ∧
    resource.generation = inputs.resourceGeneration ∧ resource.active = true ∧
    resource.capacityUps ≠ 0
  grantChecked : inputs.grantDef = some grant ∧ grant.generation = inputs.grantGeneration ∧
    (grant.flow = inputs.flow ∧ grant.resource = inputs.resource) ∧ grant.active = true ∧
    grant.window.contains now = true
  policyChecked : inputs.policyDef = some policy ∧
    policy.generation = inputs.policyGeneration ∧ policy.active = true ∧
    policy.window.contains now = true ∧ policy.orderingHolds = true
  reservationChecked : Reserved inputs now reservation
  backendChecked : inputs.backendDef = some backend ∧
    backend.generation = inputs.backendGeneration ∧ backend.kind ≠ .unsupported ∧
    backend.canApply = true
  published : (publishPlan policy
    (assemblePlan inputs resource grant policy reservation backend now)).authorized = true

section Stages

variable {outcome : PlanOutcome} {reason : ReasonCode} {explanation : String}

theorem authorized_guard {refused : Prop} [Decidable refused] :
    (if refused then deny reason explanation else outcome).authorized = true ↔
      ¬ refused ∧ outcome.authorized = true := by
  split
  · next h => exact ⟨fun h ↦ absurd h Bool.false_ne_true, fun hnot ↦ absurd h hnot.1⟩
  · next h => exact ⟨fun hauthorized ↦ ⟨h, hauthorized⟩, And.right⟩

theorem authorized_deny : (deny reason explanation).authorized = true ↔ False :=
  iff_of_false Bool.false_ne_true id

theorem not_lt_of_contains {window : ValidityWindow} (h : window.contains now = true) :
    ¬ now < window.notBeforeNs := by
  intro hearly
  rw [ValidityWindow.contains, if_pos hearly] at h
  cases h

theorem window_guard {window : ValidityWindow} {rest : Prop} :
    (¬ now < window.notBeforeNs ∧ window.contains now = true ∧ rest) ↔
      window.contains now = true ∧ rest :=
  ⟨And.right, fun h ↦ ⟨not_lt_of_contains h.1, h⟩⟩

theorem deriveWithBackend_authorized :
    (deriveWithBackend inputs resource grant policy reservation now).authorized = true ↔
      ∃ backend, inputs.backendDef = some backend ∧
        backend.generation = inputs.backendGeneration ∧
        (backend.kind ≠ .unsupported ∧ backend.canApply = true) ∧
        (publishPlan policy
          (assemblePlan inputs resource grant policy reservation backend now)).authorized =
            true := by
  unfold deriveWithBackend
  cases inputs.backendDef with
  | none => simp only [authorized_deny, reduceCtorEq, false_and, exists_false]
  | some backend =>
    simp only [authorized_guard, Option.some.injEq, exists_eq_left', ne_eq, Decidable.not_not,
      Bool.or_eq_true, decide_eq_true_eq, Bool.not_eq_true', not_or, Bool.not_eq_false]

theorem deriveWithPolicy_authorized :
    (deriveWithPolicy inputs resource grant now).authorized = true ↔
      ∃ policy, inputs.policyDef = some policy ∧ policy.generation = inputs.policyGeneration ∧
        policy.active = true ∧ policy.window.contains now = true ∧
        policy.orderingHolds = true ∧
        (deriveWithReservation inputs resource grant policy now).authorized = true := by
  unfold deriveWithPolicy
  cases inputs.policyDef with
  | none => simp only [authorized_deny, reduceCtorEq, false_and, exists_false]
  | some policy =>
    simp only [authorized_guard, window_guard, Option.some.injEq, exists_eq_left', ne_eq,
      Decidable.not_not, Bool.not_eq_true', Bool.not_eq_false]

theorem deriveWithGrant_authorized :
    (deriveWithGrant inputs resource now).authorized = true ↔
      ∃ grant, inputs.grantDef = some grant ∧ grant.generation = inputs.grantGeneration ∧
        (grant.flow = inputs.flow ∧ grant.resource = inputs.resource) ∧
        grant.active = true ∧ grant.window.contains now = true ∧
        (deriveWithPolicy inputs resource grant now).authorized = true := by
  unfold deriveWithGrant
  cases inputs.grantDef with
  | none => simp only [authorized_deny, reduceCtorEq, false_and, exists_false]
  | some grant =>
    simp only [authorized_guard, window_guard, Option.some.injEq, exists_eq_left', ne_eq,
      Decidable.not_not, Bool.not_eq_true', Bool.not_eq_false, Bool.or_eq_true,
      decide_eq_true_eq, not_or]

theorem deriveWithReservation_authorized :
    (deriveWithReservation inputs resource grant policy now).authorized = true ↔
      ∃ reservation, Reserved inputs now reservation ∧
        (deriveWithBackend inputs resource grant policy reservation now).authorized = true := by
  unfold deriveWithReservation
  split
  · next hnone =>
    rw [Bool.not_eq_true'] at hnone
    refine ⟨fun h ↦ ⟨none, hnone, h⟩, ?_⟩
    rintro ⟨_ | r, hreserved, h⟩
    · exact h
    · rw [hreserved.1] at hnone
      cases hnone
  · next hsome =>
    rw [Bool.not_eq_true', Bool.not_eq_false] at hsome
    cases hdef : inputs.reservationDef with
    | none =>
      simp only [authorized_deny, false_iff]
      rintro ⟨_ | r, hreserved, -⟩
      · cases hsome.symm.trans hreserved
      · cases hdef.symm.trans hreserved.2.1
    | some r =>
      simp only [authorized_guard, window_guard, ne_eq, Decidable.not_not, Bool.not_eq_true',
        Bool.not_eq_false, Bool.or_eq_true, decide_eq_true_eq, not_or]
      constructor
      · rintro ⟨hbound, hcovers, hactive, hwindow, h⟩
        exact ⟨some r, ⟨hsome, hdef, hbound, hcovers.1, hcovers.2, hactive, hwindow⟩, h⟩
      · rintro ⟨_ | r', hreserved, h⟩
        · cases hsome.symm.trans hreserved
        · obtain ⟨-, hstored, hbound, hflow, hresource, hactive, hwindow⟩ := hreserved
          cases hdef.symm.trans hstored
          exact ⟨hbound, ⟨hflow, hresource⟩, hactive, hwindow, h⟩

theorem derivePlan_authorized :
    (derivePlan inputs now).authorized = true ↔
      (inputs.envelope.valid = true ∧ inputs.envelopeGeneration.valid = true) ∧
      (inputs.flow.valid = true ∧ inputs.resource.valid = true) ∧
      ∃ flow, inputs.flowDef = some flow ∧ flow.generation = inputs.flowGeneration ∧
        flow.active = true ∧
        ∃ resource, inputs.resourceDef = some resource ∧
          resource.generation = inputs.resourceGeneration ∧ resource.active = true ∧
          resource.capacityUps ≠ 0 ∧
          (deriveWithGrant inputs resource now).authorized = true := by
  unfold derivePlan
  cases inputs.flowDef with
  | none =>
    simp only [authorized_guard, authorized_deny, reduceCtorEq, false_and, and_false, exists_false]
  | some flow =>
    cases inputs.resourceDef with
    | none =>
      simp only [authorized_guard, authorized_deny, reduceCtorEq, false_and, and_false,
        exists_false]
    | some resource =>
      simp only [authorized_guard, Option.some.injEq, exists_eq_left', ne_eq, Decidable.not_not,
        Bool.not_eq_true', Bool.not_eq_false, Bool.or_eq_true, not_or]

/-- A plan is authorized exactly when every check finds what it asks for. -/
theorem authorized_iff_checked : (derivePlan inputs now).authorized = true ↔
    ∃ flow resource grant policy reservation backend,
      Checked inputs now flow resource grant policy reservation backend := by
  simp only [derivePlan_authorized, deriveWithGrant_authorized, deriveWithPolicy_authorized,
    deriveWithReservation_authorized, deriveWithBackend_authorized]
  constructor
  · rintro ⟨hid, hnamed, flow, hflow, hflowBound, hflowActive, resource, hresource,
      hresourceBound, hresourceActive, hcapacity, grant, hgrant, hgrantBound, hfunds,
      hgrantActive, hgrantWindow, policy, hpolicy, hpolicyBound, hpolicyActive, hpolicyWindow,
      hordered, reservation, hreserved, backend, hbackend, hbackendBound, hsupported, hpublished⟩
    exact ⟨flow, resource, grant, policy, reservation, backend, {
      identified := hid
      named := hnamed
      flowChecked := ⟨hflow, hflowBound, hflowActive⟩
      resourceChecked := ⟨hresource, hresourceBound, hresourceActive, hcapacity⟩
      grantChecked := ⟨hgrant, hgrantBound, hfunds, hgrantActive, hgrantWindow⟩
      policyChecked := ⟨hpolicy, hpolicyBound, hpolicyActive, hpolicyWindow, hordered⟩
      reservationChecked := hreserved
      backendChecked := ⟨hbackend, hbackendBound, hsupported⟩
      published := hpublished }⟩
  · rintro ⟨flow, resource, grant, policy, reservation, backend, h⟩
    obtain ⟨hflow, hflowBound, hflowActive⟩ := h.flowChecked
    obtain ⟨hresource, hresourceBound, hresourceActive, hcapacity⟩ := h.resourceChecked
    obtain ⟨hgrant, hgrantBound, hfunds, hgrantActive, hgrantWindow⟩ := h.grantChecked
    obtain ⟨hpolicy, hpolicyBound, hpolicyActive, hpolicyWindow, hordered⟩ := h.policyChecked
    obtain ⟨hbackend, hbackendBound, hsupported⟩ := h.backendChecked
    exact ⟨h.identified, h.named, flow, hflow, hflowBound, hflowActive, resource, hresource,
      hresourceBound, hresourceActive, hcapacity, grant, hgrant, hgrantBound, hfunds,
      hgrantActive, hgrantWindow, policy, hpolicy, hpolicyBound, hpolicyActive, hpolicyWindow,
      hordered, reservation, h.reservationChecked, backend, hbackend, hbackendBound, hsupported,
      h.published⟩

theorem derivePlan_of_checked
    (h : Checked inputs now flow resource grant policy reservation backend) :
    derivePlan inputs now =
      publishPlan policy (assemblePlan inputs resource grant policy reservation backend now) := by
  obtain ⟨hflow, hflowBound, hflowActive⟩ := h.flowChecked
  obtain ⟨hresource, hresourceBound, hresourceActive, hcapacity⟩ := h.resourceChecked
  obtain ⟨hgrant, hgrantBound, hfunds, hgrantActive, hgrantWindow⟩ := h.grantChecked
  obtain ⟨hpolicy, hpolicyBound, hpolicyActive, hpolicyWindow, hordered⟩ := h.policyChecked
  obtain ⟨hbackend, hbackendBound, hsupported, happlies⟩ := h.backendChecked
  have hwithBackend : deriveWithBackend inputs resource grant policy reservation now =
      publishPlan policy (assemblePlan inputs resource grant policy reservation backend now) := by
    rw [deriveWithBackend, hbackend]
    simp only [hbackendBound, hsupported, happlies, ne_eq, not_true, if_false, decide_false,
      Bool.not_true, Bool.or_self, Bool.false_eq_true]
  have hwithReservation : deriveWithReservation inputs resource grant policy now =
      deriveWithBackend inputs resource grant policy reservation now := by
    have hreserved := h.reservationChecked
    cases reservation with
    | none => rw [deriveWithReservation, show inputs.hasReservation = false from hreserved]; rfl
    | some r =>
      obtain ⟨hsome, hstored, hbound, hcoversFlow, hcoversResource, hactive, hwindow⟩ := hreserved
      rw [deriveWithReservation, hsome, hstored]
      simp only [hbound, hcoversFlow, hcoversResource, hactive, hwindow,
        not_lt_of_contains hwindow, ne_eq, not_true, if_false, decide_false, Bool.not_true,
        Bool.or_self, Bool.false_eq_true]
  rw [derivePlan, hflow]
  simp only [h.identified, h.named, hflowBound, hflowActive, hresource, hresourceBound,
    hresourceActive, hcapacity, ne_eq, not_true, if_false, Bool.not_true, Bool.or_self,
    Bool.false_eq_true]
  rw [deriveWithGrant, hgrant]
  simp only [hgrantBound, hfunds, hgrantActive, hgrantWindow, not_lt_of_contains hgrantWindow,
    ne_eq, not_true, if_false, decide_false, Bool.not_true, Bool.or_self, Bool.false_eq_true]
  rw [deriveWithPolicy, hpolicy]
  simp only [hpolicyBound, hpolicyActive, hpolicyWindow, not_lt_of_contains hpolicyWindow,
    hordered, ne_eq, not_true, if_false, Bool.not_true, Bool.false_eq_true]
  rw [hwithReservation, hwithBackend]

end Stages

section Reissue

def reissued (plan : EffectivePlan) (epoch : FabricEpoch) (validFrom validUntil : U64) :
    EffectivePlan :=
  { plan with
    fingerprint :=
      { plan.fingerprint with
        epoch := epoch, validFromNs := validFrom, validUntilNs := validUntil } }

variable {plan : EffectivePlan} {epoch : FabricEpoch} {validFrom validUntil : U64}

theorem publishPlan_authorized : (publishPlan policy plan).authorized = true ↔
    plan.ceilingUps ≠ 0 ∧ ¬ plan.ceilingUps < policy.floorUps ∧
      ¬ plan.targetUps < policy.floorUps ∧ plan.invariantsHold = true ∧
      fingerprintSelfConsistent plan.fingerprint = true := by
  unfold publishPlan
  simp only [authorized_guard, ne_eq, Bool.not_eq_true', Bool.not_eq_false, and_true]

theorem false_guard {refused : Prop} [Decidable refused] {rest : Bool} :
    (if refused then false else rest) = true ↔ ¬ refused ∧ rest = true := by
  rw [Bool.if_false_left, Bool.and_eq_true, Bool.not_eq_true', decide_eq_false_iff_not]

theorem invariantsHold_reissued (hepoch : epoch.valid = true) (h : plan.invariantsHold = true) :
    (reissued plan epoch validFrom validUntil).invariantsHold = true := by
  unfold EffectivePlan.invariantsHold at h ⊢
  simp only [false_guard, Bool.or_eq_true, Bool.not_eq_true', not_or, Bool.not_eq_false,
    and_true] at h ⊢
  obtain ⟨hceiling, htarget, hbound, henvelope, hgrant, hpolicy, hresource, hbackend, -, hboot⟩ := h
  exact ⟨hceiling, htarget, hbound, henvelope, hgrant, hpolicy, hresource, hbackend, hepoch, hboot⟩

theorem epoch_of_invariantsHold (h : plan.invariantsHold = true) :
    plan.fingerprint.epoch.valid = true := by
  unfold EffectivePlan.invariantsHold at h
  simp only [false_guard, Bool.or_eq_true, Bool.not_eq_true', not_or, Bool.not_eq_false,
    and_true] at h
  obtain ⟨-, -, -, -, -, -, -, -, hepoch, -⟩ := h
  exact hepoch

theorem publishPlan_reissued (hepoch : epoch.valid = true)
    (h : (publishPlan policy plan).authorized = true) :
    (publishPlan policy (reissued plan epoch validFrom validUntil)).authorized = true := by
  obtain ⟨hceiling, hfloor, htarget, hinvariants, hconsistent⟩ := publishPlan_authorized.1 h
  exact publishPlan_authorized.2
    ⟨hceiling, hfloor, htarget, invariantsHold_reissued hepoch hinvariants, hconsistent⟩

end Reissue

end RateGovernor.Dynamics.Derivation
