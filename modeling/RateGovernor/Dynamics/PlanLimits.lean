import RateGovernor.Model.Plan

namespace RateGovernor.Dynamics.PlanLimits

open Model.CheckedMath Model.Identity Model.Reason Model.Entities Model.Envelope Model.Plan

variable {inputs : PlanInputs} {now : U64}

/-- The definitions a plan is derived from, all at the generation the envelope is bound to. -/
structure Admitted (inputs : PlanInputs) (resource : Resource) (grant : Grant) (policy : Policy)
    (reservation : Option Reservation) (backend : BackendDescriptor) : Prop where
  resourceStored : inputs.resourceDef = some resource
  resourceBound : resource.generation = inputs.resourceGeneration
  grantStored : inputs.grantDef = some grant
  grantBound : grant.generation = inputs.grantGeneration
  policyStored : inputs.policyDef = some policy
  policyBound : policy.generation = inputs.policyGeneration
  reserved : inputs.hasReservation = true → ∃ r, reservation = some r ∧
    inputs.reservationDef = some r ∧ r.generation = inputs.reservationGeneration
  backendStored : inputs.backendDef = some backend
  backendBound : backend.generation = inputs.backendGeneration

section Derivation

theorem publishPlan_plan {policy : Policy} {plan : EffectivePlan}
    (h : (publishPlan policy plan).authorized = true) : (publishPlan policy plan).plan = plan := by
  revert h
  unfold publishPlan
  repeat' split
  all_goals intro h
  all_goals first
    | exact absurd h Bool.false_ne_true
    | rfl

theorem deriveWithBackend_cases {resource : Resource} {grant : Grant} {policy : Policy}
    {reservation : Option Reservation}
    (h : (deriveWithBackend inputs resource grant policy reservation now).authorized = true) :
    ∃ backend, inputs.backendDef = some backend ∧ backend.generation = inputs.backendGeneration ∧
      (deriveWithBackend inputs resource grant policy reservation now).plan =
        assemblePlan inputs resource grant policy reservation backend now := by
  unfold deriveWithBackend at h ⊢
  split at h
  · exact absurd h Bool.false_ne_true
  · next backend hbackend =>
    split at h
    · exact absurd h Bool.false_ne_true
    · next hbound =>
      split at h
      · exact absurd h Bool.false_ne_true
      · next hsupported =>
        refine ⟨backend, hbackend, by simpa using hbound, ?_⟩
        simp only [if_neg hbound, if_neg hsupported]
        exact publishPlan_plan h

theorem deriveWithReservation_cases {resource : Resource} {grant : Grant} {policy : Policy}
    (h : (deriveWithReservation inputs resource grant policy now).authorized = true) :
    ∃ reservation, (inputs.hasReservation = true → ∃ r, reservation = some r ∧
        inputs.reservationDef = some r ∧ r.generation = inputs.reservationGeneration) ∧
      deriveWithReservation inputs resource grant policy now =
        deriveWithBackend inputs resource grant policy reservation now := by
  unfold deriveWithReservation at h ⊢
  split at h
  · next hnone =>
    refine ⟨none, ?_, by rw [if_pos hnone]⟩
    intro hsome
    simp only [hsome, Bool.not_true, Bool.false_eq_true] at hnone
  · next hsome =>
    rw [if_neg hsome]
    split at h
    · exact absurd h Bool.false_ne_true
    · next reservation hreservation =>
      split at h
      · exact absurd h Bool.false_ne_true
      · next hbound =>
        repeat' split at h
        all_goals try exact absurd h Bool.false_ne_true
        refine ⟨some reservation, fun _ ↦ ⟨reservation, rfl, hreservation, by simpa using hbound⟩, ?_⟩
        simp only [*, if_false, Bool.false_eq_true]

theorem deriveWithPolicy_cases {resource : Resource} {grant : Grant}
    (h : (deriveWithPolicy inputs resource grant now).authorized = true) :
    ∃ policy, inputs.policyDef = some policy ∧ policy.generation = inputs.policyGeneration ∧
      deriveWithPolicy inputs resource grant now =
        deriveWithReservation inputs resource grant policy now := by
  unfold deriveWithPolicy at h ⊢
  split at h
  · exact absurd h Bool.false_ne_true
  · next policy hpolicy =>
    split at h
    · exact absurd h Bool.false_ne_true
    · next hbound =>
      repeat' split at h
      all_goals try exact absurd h Bool.false_ne_true
      refine ⟨policy, hpolicy, by simpa using hbound, ?_⟩
      simp only [*, if_false, Bool.false_eq_true]

theorem deriveWithGrant_cases {resource : Resource}
    (h : (deriveWithGrant inputs resource now).authorized = true) :
    ∃ grant, inputs.grantDef = some grant ∧ grant.generation = inputs.grantGeneration ∧
      deriveWithGrant inputs resource now = deriveWithPolicy inputs resource grant now := by
  unfold deriveWithGrant at h ⊢
  split at h
  · exact absurd h Bool.false_ne_true
  · next grant hgrant =>
    split at h
    · exact absurd h Bool.false_ne_true
    · next hbound =>
      repeat' split at h
      all_goals try exact absurd h Bool.false_ne_true
      refine ⟨grant, hgrant, by simpa using hbound, ?_⟩
      simp only [*, if_false, Bool.false_eq_true]

theorem derivePlan_cases (h : (derivePlan inputs now).authorized = true) :
    ∃ resource, inputs.resourceDef = some resource ∧
      resource.generation = inputs.resourceGeneration ∧
      derivePlan inputs now = deriveWithGrant inputs resource now := by
  unfold derivePlan at h ⊢
  split at h
  · exact absurd h Bool.false_ne_true
  · split at h
    · exact absurd h Bool.false_ne_true
    · split at h
      · exact absurd h Bool.false_ne_true
      · repeat' split at h
        all_goals try exact absurd h Bool.false_ne_true
        next resource hresource hbound _ _ =>
        refine ⟨resource, hresource, by simpa using hbound, ?_⟩
        simp only [*, if_false, Bool.false_eq_true]

theorem plan_of_authorized (h : (derivePlan inputs now).authorized = true) :
    ∃ resource grant policy reservation backend,
      Admitted inputs resource grant policy reservation backend ∧
      (derivePlan inputs now).plan =
        assemblePlan inputs resource grant policy reservation backend now := by
  obtain ⟨resource, hresource, hresourceBound, heq⟩ := derivePlan_cases h
  rw [heq] at h ⊢
  obtain ⟨grant, hgrant, hgrantBound, heq⟩ := deriveWithGrant_cases h
  rw [heq] at h ⊢
  obtain ⟨policy, hpolicy, hpolicyBound, heq⟩ := deriveWithPolicy_cases h
  rw [heq] at h ⊢
  obtain ⟨reservation, hreserved, heq⟩ := deriveWithReservation_cases h
  rw [heq] at h ⊢
  obtain ⟨backend, hbackend, hbackendBound, heq⟩ := deriveWithBackend_cases h
  exact ⟨resource, grant, policy, reservation, backend, ⟨hresource, hresourceBound, hgrant,
    hgrantBound, hpolicy, hpolicyBound, hreserved, hbackend, hbackendBound⟩, heq⟩

end Derivation

section Magnitudes

variable {current : Candidate} {value limit : U64} {authority : LimitingAuthority}

theorem consider_le_current : (consider current value authority).value ≤ current.value := by
  unfold consider
  split
  · next h => exact UInt64.le_of_lt h
  · exact UInt64.le_refl _

theorem consider_le_value : (consider current value authority).value ≤ value := by
  unfold consider
  split
  · exact UInt64.le_refl _
  · next h => exact UInt64.not_lt.1 h

theorem considerDeclared_le_current :
    (considerDeclared current value authority).value ≤ current.value := by
  unfold considerDeclared
  split
  · exact consider_le_current
  · exact UInt64.le_refl _

theorem considerDeclared_le_value (h : value ≠ 0) :
    (considerDeclared current value authority).value ≤ value := by
  rw [considerDeclared, if_pos h]
  exact consider_le_value

theorem ifConsider_le {flag : Prop} [Decidable flag] (h : current.value ≤ limit) :
    (if flag then consider current value authority else current).value ≤ limit := by
  split
  · exact UInt64.le_trans consider_le_current h
  · exact h

theorem le_consider (hcurrent : limit ≤ current.value) (hvalue : limit ≤ value) :
    limit ≤ (consider current value authority).value := by
  unfold consider
  split
  · exact hvalue
  · exact hcurrent

theorem le_considerDeclared (hcurrent : limit ≤ current.value)
    (hvalue : value ≠ 0 → limit ≤ value) :
    limit ≤ (considerDeclared current value authority).value := by
  unfold considerDeclared
  split
  · next h => exact le_consider hcurrent (hvalue h)
  · exact hcurrent

end Magnitudes

section Limits

variable {resource : Resource} {grant : Grant} {policy : Policy}
  {reservation : Option Reservation} {backend : BackendDescriptor}

variable (inputs resource grant policy reservation backend now) in
theorem ceiling_le :
    let plan := assemblePlan inputs resource grant policy reservation backend now
    plan.ceilingUps ≤ grant.ceilingUps ∧ plan.ceilingUps ≤ policy.ceilingUps ∧
    plan.ceilingUps ≤ resource.capacityUps ∧
    (backend.maxRateUps ≠ 0 → plan.ceilingUps ≤ backend.maxRateUps) := by
  refine ⟨?_, ?_, ?_, considerDeclared_le_value⟩
  · refine UInt64.le_trans considerDeclared_le_current (UInt64.le_trans consider_le_current ?_)
    exact UInt64.le_trans consider_le_current (ifConsider_le (UInt64.le_refl _))
  · refine UInt64.le_trans considerDeclared_le_current (UInt64.le_trans consider_le_current ?_)
    exact consider_le_value
  · exact UInt64.le_trans considerDeclared_le_current consider_le_value

variable (inputs resource grant policy reservation backend now) in
theorem burst_le :
    let plan := assemblePlan inputs resource grant policy reservation backend now
    plan.burstTokens ≤ policy.burstTokens ∧ plan.burstTokens ≤ grant.burstTokens ∧
    (resource.capacityBurstTokens ≠ 0 → plan.burstTokens ≤ resource.capacityBurstTokens) ∧
    (backend.maxBurstTokens ≠ 0 → plan.burstTokens ≤ backend.maxBurstTokens) := by
  refine ⟨?_, ?_, fun h ↦ ?_, considerDeclared_le_value⟩
  · refine UInt64.le_trans considerDeclared_le_current ?_
    exact UInt64.le_trans considerDeclared_le_current (ifConsider_le consider_le_current)
  · refine UInt64.le_trans considerDeclared_le_current ?_
    exact UInt64.le_trans considerDeclared_le_current (ifConsider_le consider_le_value)
  · exact UInt64.le_trans considerDeclared_le_current (considerDeclared_le_value h)

theorem reserved_le {r : Reservation} (h : inputs.hasReservation = true) :
    let plan := assemblePlan inputs resource grant policy (some r) backend now
    plan.ceilingUps ≤ r.ceilingUps ∧ plan.burstTokens ≤ r.burstTokens := by
  refine ⟨UInt64.le_trans considerDeclared_le_current (UInt64.le_trans consider_le_current
    (UInt64.le_trans consider_le_current ?_)), UInt64.le_trans considerDeclared_le_current
    (UInt64.le_trans considerDeclared_le_current ?_)⟩
  · simp only [h, if_true]
    exact consider_le_value
  · simp only [h, if_true]
    exact consider_le_value

theorem le_assemblePlan {rate burst : U64}
    (hgrant : rate ≤ grant.ceilingUps ∧ burst ≤ grant.burstTokens)
    (hpolicy : rate ≤ policy.ceilingUps ∧ burst ≤ policy.burstTokens)
    (hresource : rate ≤ resource.capacityUps ∧
      (resource.capacityBurstTokens ≠ 0 → burst ≤ resource.capacityBurstTokens))
    (hbackend : (backend.maxRateUps ≠ 0 → rate ≤ backend.maxRateUps) ∧
      (backend.maxBurstTokens ≠ 0 → burst ≤ backend.maxBurstTokens))
    (hreserved : inputs.hasReservation = true → ∃ r, reservation = some r ∧
      rate ≤ r.ceilingUps ∧ burst ≤ r.burstTokens) :
    rate ≤ (assemblePlan inputs resource grant policy reservation backend now).ceilingUps ∧
    burst ≤ (assemblePlan inputs resource grant policy reservation backend now).burstTokens := by
  refine ⟨le_considerDeclared (le_consider (le_consider ?_ hpolicy.1) hresource.1) hbackend.1,
    le_considerDeclared (le_considerDeclared ?_ hresource.2) hbackend.2⟩
  · simp only
    split
    · next hflag =>
      obtain ⟨r, rfl, hrate, -⟩ := hreserved hflag
      exact le_consider hgrant.1 hrate
    · exact hgrant.1
  · simp only
    split
    · next hflag =>
      obtain ⟨r, rfl, -, hburst⟩ := hreserved hflag
      exact le_consider (le_consider hpolicy.2 hgrant.2) hburst
    · exact le_consider hpolicy.2 hgrant.2

end Limits

end RateGovernor.Dynamics.PlanLimits
