import RateGovernor.Safety.Enforceable
import RateGovernor.Safety.Generations
import RateGovernor.Dynamics.Derivation
import RateGovernor.Dynamics.Plans

namespace RateGovernor.Safety.StaleCheck

open Model.CheckedMath Model.Identity Model.Reason Model.Entities Model.Envelope Model.Plan
open Model.EngineState Model.Calls Model.Lifecycle Model.Authority Model.Execution
open Foundation.KeyedTable Foundation.GuardedRun
open Dynamics.PlanLimits Dynamics.Sections Dynamics.Turns Dynamics.Evolution Dynamics.Bindings
open Dynamics.Issue Dynamics.Plans Dynamics.Derivation Dynamics.Start
open Generations Enforceable

variable {s t : System} {action : Action} {past tables tables' : Tables} {boot : WorkerBootId}
  {envelope old : RateEnvelope} {now : U64} {k : U64}

section Past

variable {α : Type} {key : α → U64} {generation : α → Generation} {r r' r'' : Registry α key}

theorem Advances.trans (h : Advances generation r r') (h' : Advances generation r' r'') :
    Advances generation r r'' := by
  intro k v hfind
  obtain ⟨v', hfind', hv⟩ := h k v hfind
  obtain ⟨v'', hfind'', hv'⟩ := h' k v' hfind'
  refine ⟨v'', hfind'', ?_⟩
  obtain rfl | hnewer := hv
  · exact hv'
  · obtain rfl | hnewer' := hv'
    · exact .inr hnewer
    · exact .inr (UInt64.lt_trans hnewer hnewer')

theorem Advances.eq (h : Advances generation r r') {v v' : α} (hfind : r.find k = some v)
    (hfind' : r'.find k = some v') (hsame : generation v' = generation v) : v' = v := by
  obtain ⟨w, hw, rfl | hnewer⟩ := h k v hfind
  · rw [hfind'] at hw
    cases hw
    rfl
  · rw [hfind'] at hw
    cases hw
    rw [hsame] at hnewer
    exact absurd hnewer (UInt64.lt_irrefl _)

/-- Since then the authorities and the epoch have only moved forward. -/
structure Since (past tables : Tables) : Prop where
  flows : Advances (·.generation) past.flows tables.flows
  authorities : AuthoritiesAdvance past tables
  epoch : past.epoch.value ≤ tables.epoch.value

theorem since_refl (tables : Tables) : Since tables tables :=
  ⟨.refl _ _, .refl _, UInt64.le_refl _⟩

theorem Since.trans (h : Since past tables) (h' : Since tables tables') : Since past tables' where
  flows := Advances.trans h.flows h'.flows
  authorities :=
    { grants := Advances.trans h.authorities.grants h'.authorities.grants
      reservations := Advances.trans h.authorities.reservations h'.authorities.reservations
      policies := Advances.trans h.authorities.policies h'.authorities.policies
      resources := Advances.trans h.authorities.resources h'.authorities.resources
      backends := Advances.trans h.authorities.backends h'.authorities.backends }
  epoch := UInt64.le_trans h.epoch h'.epoch

theorem since_step (hok : within s action) (h : step s action = some t) :
    Since s.engine.tables t.engine.tables where
  flows := flows_step h
  authorities := authorities_within hok h
  epoch := by
    obtain hkept | ⟨-, -, -, -, hnewer⟩ := epoch_step h
    · rw [hkept]
      exact UInt64.le_refl _
    · exact UInt64.le_of_lt hnewer

end Past

section Grounding

/-- The plan of the envelope was derived from the authorities as they were at some time. -/
def Grounded (boot : WorkerBootId) (tables : Tables) (envelope : RateEnvelope) : Prop :=
  ∃ past now, Since past tables ∧
    (derivePlan (makePlanInputs boot past envelope) now).authorized = true ∧
    envelope.plan = (derivePlan (makePlanInputs boot past envelope) now).plan

theorem Grounded.since (h : Grounded boot tables envelope) (hsince : Since tables tables') :
    Grounded boot tables' envelope := by
  obtain ⟨past, now, hpast, hplan⟩ := h
  exact ⟨past, now, hpast.trans hsince, hplan⟩

theorem makePlanInputs_eq (h : binding envelope = binding old) :
    makePlanInputs boot tables envelope = makePlanInputs boot tables old := by
  simp only [binding, Binding.mk.injEq] at h
  simp only [makePlanInputs, h]

theorem Grounded.keep (h : Grounded boot tables old) (hbinding : binding envelope = binding old)
    (hplan : envelope.plan = old.plan) : Grounded boot tables envelope := by
  obtain ⟨past, now, hpast, hauthorized, heq⟩ := h
  refine ⟨past, now, hpast, ?_, ?_⟩
  · rw [makePlanInputs_eq hbinding]
    exact hauthorized
  · rw [makePlanInputs_eq hbinding, hplan]
    exact heq

structure Inv (s : System) : Prop where
  ids : IdsAhead s
  plans : ∀ k envelope, s.engine.tables.envelopes.find k = some envelope →
    envelope.hasPlan = true → Grounded s.engine.config.boot s.engine.tables envelope

theorem inv_of_fresh (h : Fresh s) : Inv s where
  ids := idsAhead_of_fresh h
  plans k envelope hfind := by
    rw [no_envelope_of_fresh h] at hfind
    cases hfind

theorem grounded_of_stages {event : Event} {type} (h : Inv s)
    (hstages : Stages s event (.envelope type envelope)) (hplan : envelope.hasPlan = true) :
    Grounded s.engine.config.boot s.engine.tables envelope := by
  have hopened : type ≠ .envelopeOpened := by
    rintro rfl
    cases hstages with
    | opened => cases hplan
  obtain ⟨htype, -⟩ | ⟨old, hfind, hbinding⟩ := binding_of_stages hstages
  · exact absurd htype hopened
  · cases replans_of_stages hstages hopened hfind with
    | kept hsame =>
      rw [hsame.2] at hplan
      exact (h.plans _ old hfind hplan).keep hbinding hsame.1
    | @derived now hauthorized heq =>
      refine ⟨s.engine.tables, now, since_refl _, ?_, ?_⟩
      · rw [makePlanInputs_eq hbinding]
        exact hauthorized
      · rw [makePlanInputs_eq hbinding]
        exact heq

theorem inv_step (h : Inv s) (hok : within s action) (hstep : step s action = some t) : Inv t where
  ids := idsAhead_step h.ids hstep
  plans k envelope hfind hplan := by
    rw [config_step hstep]
    refine Grounded.since ?_ (since_step hok hstep)
    obtain hold | ⟨type, hstages⟩ := envelope_step hstep hfind
    · exact h.plans k envelope hold hplan
    · exact grounded_of_stages h hstages hplan

end Grounding

section Agreement

variable {flow flow₀ : Flow} {resource resource₀ : Resource} {grant grant₀ : Grant}
  {policy policy₀ : Policy} {reservation reservation₀ : Option Reservation}
  {backend backend₀ : BackendDescriptor} {now₀ : U64}

theorem reserved_eq (hsince : Since past tables)
    (h₀ : Reserved (makePlanInputs boot past envelope) now₀ reservation₀)
    (h : Reserved (makePlanInputs boot tables envelope) now reservation) :
    reservation = reservation₀ := by
  cases reservation₀ with
  | none =>
    cases reservation with
    | none => rfl
    | some r => cases h.1.symm.trans h₀
  | some r₀ =>
    cases reservation with
    | none => cases h₀.1.symm.trans h
    | some r =>
      obtain ⟨-, hstored₀, hbound₀, -⟩ := h₀
      obtain ⟨-, hstored, hbound, -⟩ := h
      rw [Advances.eq hsince.authorities.reservations hstored₀ hstored (hbound.trans hbound₀.symm)]

theorem same_magnitudes (hsince : Since past tables)
    (h₀ : Checked (makePlanInputs boot past envelope) now₀ flow₀ resource₀ grant₀ policy₀
      reservation₀ backend₀)
    (h : Checked (makePlanInputs boot tables envelope) now flow resource grant policy reservation
      backend) :
    ∃ validFrom validUntil,
      (derivePlan (makePlanInputs boot tables envelope) now).plan =
        reissued (derivePlan (makePlanInputs boot past envelope) now₀).plan tables.epoch
          validFrom validUntil := by
  obtain ⟨hresource₀, hresourceBound₀, -⟩ := h₀.resourceChecked
  obtain ⟨hresource, hresourceBound, -⟩ := h.resourceChecked
  obtain ⟨hgrant₀, hgrantBound₀, -⟩ := h₀.grantChecked
  obtain ⟨hgrant, hgrantBound, -⟩ := h.grantChecked
  obtain ⟨hpolicy₀, hpolicyBound₀, -⟩ := h₀.policyChecked
  obtain ⟨hpolicy, hpolicyBound, -⟩ := h.policyChecked
  obtain ⟨hbackend₀, hbackendBound₀, -⟩ := h₀.backendChecked
  obtain ⟨hbackend, hbackendBound, -⟩ := h.backendChecked
  have hsame := hsince.authorities
  cases Advances.eq hsame.resources hresource₀ hresource
    (hresourceBound.trans hresourceBound₀.symm)
  cases Advances.eq hsame.grants hgrant₀ hgrant (hgrantBound.trans hgrantBound₀.symm)
  cases Advances.eq hsame.policies hpolicy₀ hpolicy (hpolicyBound.trans hpolicyBound₀.symm)
  cases Advances.eq hsame.backends hbackend₀ hbackend (hbackendBound.trans hbackendBound₀.symm)
  cases reserved_eq hsince h₀.reservationChecked h.reservationChecked
  rw [derivePlan_of_checked h₀, derivePlan_of_checked h, publishPlan_plan h₀.published,
    publishPlan_plan h.published]
  exact ⟨_, _, rfl⟩

theorem checked_of_current (hsince : Since past tables)
    (h₀ : Checked (makePlanInputs boot past envelope) now₀ flow₀ resource₀ grant₀ policy₀
      reservation₀ backend₀) (h : Current tables envelope now) :
    Checked (makePlanInputs boot tables envelope) now flow₀ resource₀ grant₀ policy₀
      reservation₀ backend₀ := by
  obtain ⟨hflow₀, hflowBound₀, -⟩ := h₀.flowChecked
  obtain ⟨hresource₀, hresourceBound₀, hresourceRest⟩ := h₀.resourceChecked
  obtain ⟨hgrant₀, hgrantBound₀, hfunds, -, -⟩ := h₀.grantChecked
  obtain ⟨hpolicy₀, hpolicyBound₀, -, -, hordered⟩ := h₀.policyChecked
  obtain ⟨hbackend₀, hbackendBound₀, hbackendRest⟩ := h₀.backendChecked
  obtain ⟨flow, hflow, hflowBound, hflowActive⟩ := h.flow
  obtain ⟨resource, hresource, hresourceBound, hresourceActive⟩ := h.resource
  obtain ⟨grant, hgrant, hgrantBound, hgrantActive, hgrantWindow⟩ := h.grant
  obtain ⟨policy, hpolicy, hpolicyBound, hpolicyActive, hpolicyWindow⟩ := h.policy
  obtain ⟨backend, hbackend, hbackendBound⟩ := h.backend
  have hsame := hsince.authorities
  cases Advances.eq hsince.flows hflow₀ hflow (hflowBound.trans hflowBound₀.symm)
  cases Advances.eq hsame.resources hresource₀ hresource
    (hresourceBound.trans hresourceBound₀.symm)
  cases Advances.eq hsame.grants hgrant₀ hgrant (hgrantBound.trans hgrantBound₀.symm)
  cases Advances.eq hsame.policies hpolicy₀ hpolicy (hpolicyBound.trans hpolicyBound₀.symm)
  cases Advances.eq hsame.backends hbackend₀ hbackend (hbackendBound.trans hbackendBound₀.symm)
  have hreserved : Reserved (makePlanInputs boot tables envelope) now reservation₀ := by
    have hreserved₀ := h₀.reservationChecked
    cases reservation₀ with
    | none => exact hreserved₀
    | some r₀ =>
      obtain ⟨hsome, hstored₀, hbound₀, hcoversFlow, hcoversResource, -⟩ := hreserved₀
      obtain ⟨r, hstored, hbound, hactive, hwindow⟩ := h.reservation hsome
      cases Advances.eq hsame.reservations hstored₀ hstored (hbound.trans hbound₀.symm)
      exact ⟨hsome, hstored, hbound, hcoversFlow, hcoversResource, hactive, hwindow⟩
  have hepoch : tables.epoch.valid = true := by
    have hpast : past.epoch.valid = true :=
      epoch_of_invariantsHold (publishPlan_authorized.1 h₀.published).2.2.2.1
    have hle := UInt64.le_iff_toNat_le.1 hsince.epoch
    have hzero : past.epoch.value.toNat ≠ 0 := fun h ↦ of_decide_eq_true hpast (UInt64.toNat_inj.1 h)
    refine decide_eq_true fun h ↦ ?_
    rw [h] at hle
    exact hzero (Nat.le_zero.1 hle)
  exact {
    identified := h₀.identified
    named := h₀.named
    flowChecked := ⟨hflow, hflowBound, hflowActive⟩
    resourceChecked := ⟨hresource, hresourceBound, hresourceRest⟩
    grantChecked := ⟨hgrant, hgrantBound, hfunds, hgrantActive, hgrantWindow⟩
    policyChecked := ⟨hpolicy, hpolicyBound, hpolicyActive, hpolicyWindow, hordered⟩
    reservationChecked := hreserved
    backendChecked := ⟨hbackend, hbackendBound, hbackendRest⟩
    published := publishPlan_reissued hepoch h₀.published }

theorem current_of_checked
    (h : Checked (makePlanInputs boot tables envelope) now flow resource grant policy reservation
      backend) : Current tables envelope now where
  flow := ⟨flow, h.flowChecked⟩
  resource := ⟨resource, h.resourceChecked.1, h.resourceChecked.2.1, h.resourceChecked.2.2.1⟩
  grant := by
    obtain ⟨hgrant, hbound, -, hactive, hwindow⟩ := h.grantChecked
    exact ⟨grant, hgrant, hbound, hactive, hwindow⟩
  policy := by
    obtain ⟨hpolicy, hbound, hactive, hwindow, -⟩ := h.policyChecked
    exact ⟨policy, hpolicy, hbound, hactive, hwindow⟩
  reservation := by
    intro hsome
    have hreserved := h.reservationChecked
    cases reservation with
    | none => cases hsome.symm.trans hreserved
    | some r =>
      obtain ⟨-, hstored, hbound, -, -, hactive, hwindow⟩ := hreserved
      exact ⟨r, hstored, hbound, hactive, hwindow⟩
  backend := ⟨backend, h.backendChecked.1, h.backendChecked.2.1⟩

theorem authorityStatus_of_current (h : Current tables envelope now)
    (hcapacity : envelope.hasPlan = true → ∀ resource,
      tables.resources.find envelope.resource.value = some resource →
        envelope.plan.ceilingUps ≤ resource.capacityUps) :
    authorityStatus tables envelope now = .none := by
  obtain ⟨flow, hflow, hflowBound, hflowActive⟩ := h.flow
  obtain ⟨resource, hresource, hresourceBound, hresourceActive⟩ := h.resource
  obtain ⟨grant, hgrant, hgrantBound, hgrantActive, hgrantWindow⟩ := h.grant
  obtain ⟨policy, hpolicy, hpolicyBound, hpolicyActive, hpolicyWindow⟩ := h.policy
  obtain ⟨backend, hbackend, hbackendBound⟩ := h.backend
  have hrecalled : grant.state ≠ .recalled := by
    rw [of_decide_eq_true hgrantActive]
    exact nofun
  have hbackendStatus : backendStatus tables envelope resource = .none := by
    cases hplan : envelope.hasPlan with
    | false =>
      simp only [backendStatus, hbackend, hbackendBound, hplan, ne_eq, not_true, if_false,
        Bool.false_and, Bool.false_eq_true]
    | true =>
      simp only [backendStatus, hbackend, hbackendBound, ne_eq, not_true, if_false,
        UInt64.not_lt.2 (hcapacity hplan resource hresource), decide_false, Bool.and_false,
        Bool.false_eq_true]
  have hreservationStatus : reservationStatus tables envelope resource now = .none := by
    unfold reservationStatus
    split
    · exact hbackendStatus
    · next hsome =>
      obtain ⟨r, hstored, hbound, hactive, hwindow⟩ := h.reservation (by simpa using hsome)
      simp only [hstored, hbound, hactive, hwindow, ne_eq, not_true, if_false, Bool.not_true,
        Bool.or_self, Bool.false_eq_true]
      exact hbackendStatus
  simp only [authorityStatus, hflow, hflowBound, hflowActive, hresource, hresourceBound,
    hresourceActive, grantStatus, hgrant, hgrantBound, hrecalled, hgrantActive, hgrantWindow,
    policyStatus, hpolicy, hpolicyBound, hpolicyActive, hpolicyWindow, ne_eq, not_true, if_false,
    decide_false, Bool.not_true, Bool.or_self, Bool.false_eq_true, hreservationStatus]

/-- An envelope for which a plan can be derived is not stale: the resource has the capacity for the
recorded plan, which has the same magnitudes. -/
theorem authorityStatus_of_checked
    (hplan : envelope.hasPlan = true → Grounded boot tables envelope)
    (h : Checked (makePlanInputs boot tables envelope) now flow resource grant policy reservation
      backend) : authorityStatus tables envelope now = .none := by
  refine authorityStatus_of_current (current_of_checked h) fun hsome stored hstored ↦ ?_
  cases hstored.symm.trans h.resourceChecked.1
  obtain ⟨past, now₀, hsince, hauthorized₀, heq⟩ := hplan hsome
  obtain ⟨flow₀, resource₀, grant₀, policy₀, reservation₀, backend₀, h₀⟩ :=
    authorized_iff_checked.1 hauthorized₀
  obtain ⟨validFrom, validUntil, hsame⟩ := same_magnitudes hsince h₀ h
  have hceiling : envelope.plan.ceilingUps =
      (derivePlan (makePlanInputs boot tables envelope) now).plan.ceilingUps := by
    rw [hsame, heq]
    rfl
  rw [hceiling, derivePlan_of_checked h, publishPlan_plan h.published]
  exact (ceiling_le _ now resource grant policy reservation backend).2.2.1

/-- Whatever the interleaving, an envelope with a plan is not stale exactly when a plan can be
derived for it now, and that plan has the magnitudes of the recorded one. -/
theorem status_none_iff_authorized {start : System} (hfresh : Fresh start)
    (hrun : Reaches step within start s)
    (hfind : s.engine.tables.envelopes.find k = some envelope) (hplan : envelope.hasPlan = true)
    (now : U64) :
    let outcome := derivePlanLocked s.engine envelope now
    (authorityStatus s.engine.tables envelope now = .none ↔ outcome.authorized = true) ∧
      (outcome.authorized = true →
        outcome.plan.ceilingUps = envelope.plan.ceilingUps ∧
        outcome.plan.floorUps = envelope.plan.floorUps ∧
        outcome.plan.targetUps = envelope.plan.targetUps ∧
        outcome.plan.burstTokens = envelope.plan.burstTokens) := by
  have hinv : Inv s :=
    hrun.invariant (inv_of_fresh hfresh) fun _ _ _ hinv hok hstep ↦ inv_step hinv hok hstep
  obtain ⟨past, now₀, hsince, hauthorized₀, heq⟩ := hinv.plans k envelope hfind hplan
  obtain ⟨flow₀, resource₀, grant₀, policy₀, reservation₀, backend₀, h₀⟩ :=
    authorized_iff_checked.1 hauthorized₀
  have hvalues (hauthorized : (derivePlanLocked s.engine envelope now).authorized = true) :
      ∃ validFrom validUntil, (derivePlanLocked s.engine envelope now).plan =
        reissued envelope.plan s.engine.tables.epoch validFrom validUntil := by
    obtain ⟨flow, resource, grant, policy, reservation, backend, h⟩ :=
      authorized_iff_checked.1 hauthorized
    rw [heq]
    exact same_magnitudes hsince h₀ h
  refine ⟨⟨fun hstatus ↦ ?_, fun hauthorized ↦ ?_⟩, fun hauthorized ↦ ?_⟩
  · have hcurrent := current_of_authorityStatus hstatus
    exact authorized_iff_checked.2 ⟨_, _, _, _, _, _, checked_of_current hsince h₀ hcurrent⟩
  · obtain ⟨flow, resource, grant, policy, reservation, backend, h⟩ :=
      authorized_iff_checked.1 hauthorized
    exact authorityStatus_of_checked (hinv.plans k envelope hfind) h
  · obtain ⟨validFrom, validUntil, hsame⟩ := hvalues hauthorized
    rw [hsame]
    exact ⟨rfl, rfl, rfl, rfl⟩

/-- What was applied is still supported right after. -/
theorem authorized_after_applySample : ∃ s envelope,
    run step sampleStart applySample = some s ∧
      s.engine.tables.envelopes.find 1 = some envelope ∧ envelope.hasPlan = true ∧
      authorityStatus s.engine.tables envelope 6 = .none ∧
      (derivePlanLocked s.engine envelope 6).authorized = true := by
  have hguarded : Guarded step within sampleStart applySample := by decide +kernel
  obtain ⟨s, envelope, hrun, hfind, h⟩ := of_observe
    (show observe sampleStart applySample 1 (fun s envelope ↦ envelope.hasPlan &&
      authorityStatus s.engine.tables envelope 6 = .none) = true by decide +kernel)
  obtain ⟨hplan, hstatus⟩ := Bool.and_eq_true_iff.1 h
  have hstatus := of_decide_eq_true hstatus
  have hagree := status_none_iff_authorized fresh_sampleStart (reaches_of_run hguarded hrun) hfind
    hplan 6
  exact ⟨s, envelope, hrun, hfind, hplan, hstatus, hagree.1.1 hstatus⟩

end Agreement

end RateGovernor.Safety.StaleCheck
