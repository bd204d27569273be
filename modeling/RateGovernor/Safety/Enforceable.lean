import RateGovernor.Safety.Coverage

namespace RateGovernor.Safety.Enforceable

open Model.CheckedMath Model.Identity Model.Reason Model.Entities Model.Envelope Model.Plan
open Model.EngineState Model.Calls Model.Lifecycle Model.Completion Model.Revocation
open Model.Maintenance Model.Authority Model.Execution Foundation.KeyedTable Foundation.GuardedRun
open Dynamics.PlanLimits Dynamics.Sections Dynamics.Turns Dynamics.Evolution Dynamics.Bindings
open Dynamics.Issue Dynamics.Start Coverage

variable {s t : System} {event : Event} {action : Action} {tables : Tables}
  {rate burst now : U64} {envelope old : RateEnvelope} {k : U64}

section Calls

def CoveredAt (tables : Tables) (k rate burst : U64) : Prop :=
  ∃ envelope, tables.envelopes.find k = some envelope ∧
    Covered tables (binding envelope) rate burst

def TaskCovered (tables : Tables) (task : ApplyTask) : Prop :=
  CoveredAt tables task.envelope.value task.request.rateUps task.request.burstTokens

def ProbeCovered (tables : Tables) (probe : Probe) : Prop :=
  CoveredAt tables probe.id.value probe.expectedRate probe.expectedBurst

def CallCovered (tables : Tables) : Call → Prop
  | .applying task _ | .applyReported task _ | .applyFinishing task _ _
  | .applyVerifying task _ _ | .applyPublishing task _ _ _ => TaskCovered tables task
  | .probing _ probe | .recording _ probe _ _ => ProbeCovered tables probe
  | _ => True

structure Inv (s : System) : Prop where
  ids : IdsAhead s
  envelopes : ∀ k envelope, s.engine.tables.envelopes.find k = some envelope →
    Sound s.engine.tables envelope
  calls : ∀ call ∈ s.calls, CallCovered s.engine.tables call

theorem inv_of_fresh (h : Fresh s) : Inv s where
  ids := idsAhead_of_fresh h
  envelopes k envelope hfind := by
    rw [no_envelope_of_fresh h] at hfind
    cases hfind
  calls call hmem := by
    rw [(empty_of_fresh h).2] at hmem
    cases hmem

end Calls

section Envelopes

theorem sound_authorizedEnvelope (hold : Sound s.engine.tables old)
    (hplan : (derivePlanLocked s.engine old now).authorized = true) :
    Sound s.engine.tables (authorizedEnvelope old (planNow s old now) now) := by
  have hbinding := binding_authorizedEnvelope old (planNow s old now) now
  refine hold.replan hbinding ?_ ?_
  · rw [hbinding]
    have heq : (authorizedEnvelope old (planNow s old now) now).plan = planNow s old now := by
      unfold authorizedEnvelope
      simp only
      repeat' split
      all_goals rfl
    rw [heq]
    exact covered_planNow hplan
  · unfold authorizedEnvelope
    simp only
    split
    · split
      · exact fun happlied hverified ↦ ⟨happlied, hverified, rfl, rfl⟩
      · exact keepsEffect_of_state nofun
    · split
      · exact keepsEffect_of_state nofun
      · exact fun happlied hverified ↦ ⟨happlied, hverified, rfl, rfl⟩

theorem sound_plannedEnvelope (hold : Sound s.engine.tables old)
    (hplan : (derivePlanLocked s.engine old now).authorized = true) :
    Sound s.engine.tables (plannedEnvelope old (planNow s old now)) := by
  unfold plannedEnvelope
  split
  · exact hold
  · exact hold.replan rfl (covered_planNow hplan)
      fun happlied hverified ↦ ⟨happlied, hverified, rfl, rfl⟩

theorem sound_lateEnvelope (hold : Sound tables old) (reason : ReasonCode) (effect : Bool)
    (now : U64) : Sound tables (lateEnvelope old reason effect now) := by
  refine hold.keep (binding_lateEnvelope _ _ _ _) ?_ ?_
  · unfold lateEnvelope
    simp only
    repeat' split
    all_goals rfl
  · unfold lateEnvelope
    simp only
    split
    · exact fun happlied hverified ↦ ⟨happlied, hverified, rfl, rfl⟩
    · split
      · exact keepsEffect_of_unverified rfl
      · exact keepsEffect_of_unverified rfl

/-- A verdict claims a verified effect only at the requested magnitudes. -/
theorem sound_judgeApply {engine : Engine} {attempt : EnforcementAttempt} {request : ApplyRequest}
    (hold : Sound tables old)
    (hcovered : Covered tables (binding old) request.rateUps request.burstTokens)
    (verification : VerificationOutcome) (now : U64) :
    Sound tables (judgeApply engine old attempt request verification now).envelope := by
  have hbinding := binding_judgeApply engine old attempt request verification now
  have hplan : (judgeApply engine old attempt request verification now).envelope.plan =
      old.plan := by
    unfold judgeApply
    simp only
    repeat' split
    all_goals rfl
  refine ⟨by rw [hbinding, hplan]; exact hold.plan, ?_⟩
  rw [hbinding]
  unfold judgeApply
  simp only
  split
  · exact nofun
  · split
    · exact nofun
    · split
      · exact nofun
      · split
        · next hexact =>
          simp only [Bool.and_eq_true, decide_eq_true_eq] at hexact
          intro _ _
          show Covered tables (binding old) verification.observedRateUps
            verification.observedBurstTokens
          rw [hexact.1, hexact.2]
          exact hcovered
        · repeat' split
          all_goals exact nofun

theorem sound_judgeRevalidation {sweep : Sweep} {probe : Probe} (hold : Sound tables old)
    (hcovered : Covered tables (binding old) probe.expectedRate probe.expectedBurst)
    (verification : VerificationOutcome) (now : U64) :
    Sound tables (judgeRevalidation sweep probe old verification now).envelope := by
  have hbinding := binding_judgeRevalidation sweep probe old verification now
  have hplan : (judgeRevalidation sweep probe old verification now).envelope.plan = old.plan := by
    unfold judgeRevalidation
    simp only
    repeat' split
    all_goals rfl
  refine ⟨by rw [hbinding, hplan]; exact hold.plan, ?_⟩
  rw [hbinding]
  unfold judgeRevalidation
  simp only
  split
  · exact fun _ h ↦ nomatch h
  · split
    · exact nofun
    · split
      · next hexact =>
        simp only [Bool.and_eq_true, decide_eq_true_eq] at hexact
        intro _ _
        show Covered tables (binding old) verification.observedRateUps
          verification.observedBurstTokens
        rw [hexact.1, hexact.2]
        exact hcovered
      · exact fun _ h ↦ nomatch h

theorem sound_judgedRevokeEnvelope (hold : Sound tables old) (reason : ReasonCode)
    (verification : VerificationOutcome) (now : U64) :
    Sound tables (judgedRevokeEnvelope old reason verification now) := by
  refine hold.keep (binding_judgedRevokeEnvelope _ _ _ _) ?_ ?_
  · unfold judgedRevokeEnvelope
    simp only
    split <;> rfl
  · unfold judgedRevokeEnvelope
    simp only
    split
    · exact keepsEffect_of_unverified rfl
    · exact keepsEffect_of_unverified rfl

theorem sound_of_epochDemoted (hold : Sound tables old)
    (h : epochDemoted now old = some envelope) : Sound tables envelope := by
  unfold epochDemoted at h
  simp only at h
  split at h
  · cases h
  · cases h
    exact hold.keep rfl rfl (keepsEffect_of_unverified rfl)

theorem sound_of_sessionLost (hold : Sound tables old)
    (h : sessionLostEnvelope old = some envelope) : Sound tables envelope := by
  unfold sessionLostEnvelope at h
  simp only at h
  split at h
  · cases h
  · cases h
    exact hold.keep rfl rfl (keepsEffect_of_unverified rfl)

theorem sound_maintained (hold : Sound tables old) (now : U64) :
    Sound tables (maintained tables old now) := by
  have hrefill : Sound tables (refillStage old now).1 := by
    unfold refillStage
    split
    · exact hold.keep rfl rfl fun happlied hverified ↦ ⟨happlied, hverified, rfl, rfl⟩
    · exact hold
  have hcooled : Sound tables (cooldownStage (refillStage old now).1 now) := by
    unfold cooldownStage
    split
    · exact hrefill
    · refine hrefill.keep rfl rfl fun happlied hverified ↦ ⟨?_, hverified, rfl, rfl⟩
      simp only at happlied
      split at happlied
      · cases happlied
      · exact happlied
  unfold maintained staleStage
  simp only
  split
  · exact hcooled.keep rfl rfl fun happlied hverified ↦ ⟨happlied, hverified, rfl, rfl⟩
  · exact hcooled.keep rfl rfl (keepsEffect_of_unverified rfl)

end Envelopes

section Step

theorem sound_of_stages {type} (h : Inv s) (hstages : Stages s event (.envelope type envelope)) :
    Sound s.engine.tables envelope := by
  cases hstages with
  | opened => exact ⟨.inl ⟨rfl, rfl⟩, nofun⟩
  | epochDemoted hfound hdemoted => exact sound_of_epochDemoted (h.envelopes _ _ hfound) hdemoted
  | unauthorized hfound =>
    refine (h.envelopes _ _ hfound).keep rfl rfl fun happlied hverified ↦ ⟨?_, hverified, rfl, rfl⟩
    simp only [unauthorizedEnvelope] at happlied
    split at happlied
    · cases happlied
    · exact happlied
  | authorized hfound hplan => exact sound_authorizedEnvelope (h.envelopes _ _ hfound) hplan
  | denied admitted =>
    exact (h.envelopes _ _ admitted.found).keep rfl rfl
      fun happlied hverified ↦ ⟨happlied, hverified, rfl, rfl⟩
  | planned admitted hplan => exact sound_plannedEnvelope (h.envelopes _ _ admitted.found) hplan
  | dispatching admitted hplan =>
    exact (sound_plannedEnvelope (h.envelopes _ _ admitted.found) hplan).keep rfl rfl
      (keepsEffect_of_state nofun)
  | lateFinishEnvelope finishing =>
    exact sound_lateEnvelope (h.envelopes _ _ finishing.storedEnvelope) _ _ _
  | refusedApplyEnvelope accepted =>
    exact (h.envelopes _ _ accepted.storedEnvelope).keep rfl rfl (keepsEffect_of_unverified rfl)
  | latePublishEnvelope publishing =>
    exact sound_lateEnvelope (h.envelopes _ _ publishing.storedEnvelope) _ _ _
  | judgedApplyEnvelope judged =>
    obtain ⟨stored, hfind, hcovered⟩ := h.calls _ (List.mem_of_getElem? judged.call)
    rw [judged.storedEnvelope] at hfind
    cases hfind
    exact sound_judgeApply (h.envelopes _ _ judged.storedEnvelope) hcovered _ _
  | revoking admitted =>
    exact (h.envelopes _ _ admitted.found).keep rfl rfl (keepsEffect_of_state nofun)
  | refusedRevokeEnvelope finishing =>
    exact (h.envelopes _ _ finishing.storedEnvelope).keep rfl rfl (keepsEffect_of_state nofun)
  | judgedRevokeEnvelope publishing =>
    exact sound_judgedRevokeEnvelope (h.envelopes _ _ publishing.storedEnvelope) _ _ _
  | abandonedEnvelope _ hnamed =>
    exact (h.envelopes _ _ hnamed).keep rfl rfl (keepsEffect_of_state nofun)
  | consumed hfound =>
    exact (h.envelopes _ _ hfound).keep rfl rfl
      fun happlied hverified ↦ ⟨happlied, hverified, rfl, rfl⟩
  | sessionLost hfound hlost => exact sound_of_sessionLost (h.envelopes _ _ hfound) hlost
  | tickLost hfound hlost => exact sound_of_sessionLost (h.envelopes _ _ hfound) hlost
  | tickMaintained hfound => exact sound_maintained (h.envelopes _ _ hfound) _
  | tickExpiredEnvelope _ _ hnamed =>
    exact (h.envelopes _ _ hnamed).keep rfl rfl (keepsEffect_of_state nofun)
  | revalidated revalidating =>
    obtain ⟨stored, hfind, hcovered⟩ := h.calls _ (List.mem_of_getElem? revalidating.call)
    rw [revalidating.storedEnvelope] at hfind
    cases hfind
    exact sound_judgeRevalidation (h.envelopes _ _ revalidating.storedEnvelope) hcovered _ _
  | shutdownEnvelope _ hnamed =>
    exact (h.envelopes _ _ hnamed).keep rfl rfl (keepsEffect_of_state nofun)

theorem covered_of_begins {status} {call : Call} (h : Inv s) (hbegins : Begins s event status call) :
    CallCovered s.engine.tables call := by
  have stored {k : U64} {envelope : RateEnvelope}
      (hfind : s.engine.tables.envelopes.find k = some envelope) :
      CoveredAt s.engine.tables k envelope.plan.ceilingUps envelope.plan.burstTokens :=
    ⟨envelope, hfind, (h.envelopes _ _ hfind).plan⟩
  have moved {i : ℕ} {call : Call} (hfound : s.calls[i]? = some call) :
      CallCovered s.engine.tables call :=
    h.calls _ (List.mem_of_getElem? hfound)
  cases hbegins with
  | applying admitted hplan =>
    have hfind := admitted.found
    rw [← Registry.key_of_find hfind] at hfind
    refine ⟨_, hfind, ?_⟩
    have hsound := sound_plannedEnvelope (h.envelopes _ _ hfind) hplan
    have hcovered := hsound.plan
    rw [binding_plannedEnvelope] at hcovered
    exact hcovered
  | applyAnswered hfound =>
    have hcall := moved hfound
    exact hcall
  | applyCompleted _ _ hnamed => exact stored hnamed
  | applyTimed hfound =>
    have hcall := moved hfound
    exact hcall
  | applyAcknowledged accepted =>
    have hcall := moved accepted.call
    exact hcall
  | applyVerified hfound =>
    have hcall := moved hfound
    exact hcall
  | probing _ _ hcandidate =>
    rw [← Registry.key_of_find hcandidate] at hcandidate
    exact stored hcandidate
  | probed hfound =>
    have hcall := moved hfound
    exact hcall
  | _ => trivial

theorem CoveredAt.step (hids : IdsAhead s) (hroom : ¬ Wraps s action.event)
    (hstep : step s action = some t) (h : CoveredAt s.engine.tables k rate burst) :
    CoveredAt t.engine.tables k rate burst := by
  obtain ⟨envelope, hfind, hcovered⟩ := h
  obtain ⟨envelope', hfind', hbinding⟩ := binding_step hids hstep hfind
  refine ⟨envelope', hfind', ?_⟩
  rw [hbinding]
  exact hcovered.advance (authorities_step hroom hstep)

theorem inv_step (h : Inv s) (hroom : ¬ Wraps s action.event) (hstep : step s action = some t) :
    Inv t where
  ids := idsAhead_step h.ids hstep
  envelopes k envelope hfind := by
    have hsound : Sound s.engine.tables envelope := by
      obtain hold | ⟨type, hstages⟩ := envelope_step hstep hfind
      · exact h.envelopes k envelope hold
      · exact sound_of_stages h hstages
    have hadvance := authorities_step hroom hstep
    exact ⟨hsound.plan.advance hadvance,
      fun happlied hverified ↦ (hsound.effect happlied hverified).advance hadvance⟩
  calls call hmem := by
    have hcovered : CallCovered s.engine.tables call := by
      obtain hold | ⟨status, hbegins⟩ := calls_step hstep hmem
      · exact h.calls call hold
      · exact covered_of_begins h hbegins
    cases call with
    | applying | applyReported | applyFinishing | applyVerifying | applyPublishing =>
      exact CoveredAt.step h.ids hroom hstep hcovered
    | probing | recording => exact CoveredAt.step h.ids hroom hstep hcovered
    | _ => trivial

end Step

section Claim

def FlowCurrent (tables : Tables) (envelope : RateEnvelope) : Prop :=
  ∃ flow, tables.flows.find envelope.flow.value = some flow ∧
    flow.generation = envelope.flowGeneration ∧ flow.active = true

/-- What has to hold of the stored authorities for the applied rate and burst to be lawful. -/
structure Lawful (tables : Tables) (envelope : RateEnvelope) (now : U64) : Prop where
  flow : FlowCurrent tables envelope
  resource : ∃ resource, tables.resources.find envelope.resource.value = some resource ∧
    resource.generation = envelope.resourceGeneration ∧ resource.active = true ∧
    WithinResource envelope.appliedRateUps envelope.appliedBurstTokens resource
  grant : ∃ grant, tables.grants.find envelope.grant.value = some grant ∧
    grant.generation = envelope.grantGeneration ∧ grant.active = true ∧
    grant.window.contains now = true ∧
    WithinGrant envelope.appliedRateUps envelope.appliedBurstTokens grant
  policy : ∃ policy, tables.policies.find envelope.policy.value = some policy ∧
    policy.generation = envelope.policyGeneration ∧ policy.active = true ∧
    policy.window.contains now = true ∧
    WithinPolicy envelope.appliedRateUps envelope.appliedBurstTokens policy
  reservation : envelope.hasReservation = true →
    ∃ reservation, tables.reservations.find envelope.reservation.value = some reservation ∧
      reservation.generation = envelope.reservationGeneration ∧ reservation.active = true ∧
      reservation.window.contains now = true ∧
      WithinReservation envelope.appliedRateUps envelope.appliedBurstTokens reservation
  backend : ∃ backend, tables.backends.find envelope.backend.value = some backend ∧
    backend.generation = envelope.backendGeneration ∧
    WithinBackend envelope.appliedRateUps envelope.appliedBurstTokens backend

/-- The authorities of an envelope, stored at their bound generations and valid at `now`. -/
structure Current (tables : Tables) (envelope : RateEnvelope) (now : U64) : Prop where
  flow : FlowCurrent tables envelope
  resource : ∃ resource, tables.resources.find envelope.resource.value = some resource ∧
    resource.generation = envelope.resourceGeneration ∧ resource.active = true
  grant : ∃ grant, tables.grants.find envelope.grant.value = some grant ∧
    grant.generation = envelope.grantGeneration ∧ grant.active = true ∧
    grant.window.contains now = true
  policy : ∃ policy, tables.policies.find envelope.policy.value = some policy ∧
    policy.generation = envelope.policyGeneration ∧ policy.active = true ∧
    policy.window.contains now = true
  reservation : envelope.hasReservation = true →
    ∃ reservation, tables.reservations.find envelope.reservation.value = some reservation ∧
      reservation.generation = envelope.reservationGeneration ∧ reservation.active = true ∧
      reservation.window.contains now = true
  backend : ∃ backend, tables.backends.find envelope.backend.value = some backend ∧
    backend.generation = envelope.backendGeneration

section Status

variable {resource : Resource}

theorem backendStatus_none (h : backendStatus tables envelope resource = .none) :
    ∃ backend, tables.backends.find envelope.backend.value = some backend ∧
      backend.generation = envelope.backendGeneration := by
  unfold backendStatus at h
  split at h
  · cases h
  · next backend hfind =>
    split at h
    · cases h
    · next hbound => exact ⟨backend, hfind, not_not.1 hbound⟩

theorem reservationStatus_none (h : reservationStatus tables envelope resource now = .none) :
    (envelope.hasReservation = true →
      ∃ reservation, tables.reservations.find envelope.reservation.value = some reservation ∧
        reservation.generation = envelope.reservationGeneration ∧ reservation.active = true ∧
        reservation.window.contains now = true) ∧
      backendStatus tables envelope resource = .none := by
  unfold reservationStatus at h
  split at h
  · next hnone =>
    refine ⟨fun hsome ↦ ?_, h⟩
    rw [hsome] at hnone
    cases hnone
  · split at h
    · cases h
    · next reservation hfind =>
      split at h
      · cases h
      · next hbound =>
        split at h
        · cases h
        · next hvalid =>
          simp only [Bool.or_eq_true, Bool.not_eq_true', not_or, Bool.not_eq_false] at hvalid
          exact ⟨fun _ ↦ ⟨reservation, hfind, not_not.1 hbound, hvalid.1, hvalid.2⟩, h⟩

theorem policyStatus_none (h : policyStatus tables envelope resource now = .none) :
    (∃ policy, tables.policies.find envelope.policy.value = some policy ∧
      policy.generation = envelope.policyGeneration ∧ policy.active = true ∧
      policy.window.contains now = true) ∧
      reservationStatus tables envelope resource now = .none := by
  unfold policyStatus at h
  split at h
  · cases h
  · next policy hfind =>
    split at h
    · cases h
    · next hbound =>
      split at h
      · cases h
      · next hactive =>
        split at h
        · cases h
        · next hwindow =>
          exact ⟨⟨policy, hfind, not_not.1 hbound, by simpa using hactive,
            by simpa using hwindow⟩, h⟩

theorem grantStatus_none (h : grantStatus tables envelope resource now = .none) :
    (∃ grant, tables.grants.find envelope.grant.value = some grant ∧
      grant.generation = envelope.grantGeneration ∧ grant.active = true ∧
      grant.window.contains now = true) ∧ policyStatus tables envelope resource now = .none := by
  unfold grantStatus at h
  split at h
  · cases h
  · next grant hfind =>
    split at h
    · cases h
    · next hbound =>
      split at h
      · cases h
      · split at h
        · cases h
        · next hactive =>
          split at h
          · cases h
          · next hwindow =>
            exact ⟨⟨grant, hfind, not_not.1 hbound, by simpa using hactive,
              by simpa using hwindow⟩, h⟩

theorem current_of_authorityStatus (h : authorityStatus tables envelope now = .none) :
    Current tables envelope now := by
  unfold authorityStatus at h
  split at h
  · cases h
  · next flow hflow =>
    split at h
    · cases h
    · next hvalid =>
      simp only [ne_eq, Bool.or_eq_true, decide_eq_true_eq, Bool.not_eq_true', not_or,
        Decidable.not_not, Bool.not_eq_false] at hvalid
      split at h
      · cases h
      · next resource hresource =>
        split at h
        · cases h
        · next hbound =>
          split at h
          · cases h
          · next hactive =>
            obtain ⟨hgrant, h⟩ := grantStatus_none h
            obtain ⟨hpolicy, h⟩ := policyStatus_none h
            obtain ⟨hreservation, h⟩ := reservationStatus_none h
            exact {
              flow := ⟨flow, hflow, by simpa using hvalid.1, hvalid.2⟩
              resource := ⟨resource, hresource, not_not.1 hbound, by simpa using hactive⟩
              grant := hgrant
              policy := hpolicy
              reservation := hreservation
              backend := backendStatus_none h }

end Status

theorem lawful_of_covered (hcurrent : Current tables envelope now)
    (h : Covered tables (binding envelope) envelope.appliedRateUps envelope.appliedBurstTokens) :
    Lawful tables envelope now := by
  have hle (n : U64) : (0 : U64) ≤ n := Nat.zero_le _
  obtain ⟨hflow, ⟨resource, hresource, hresourceBound, hresourceActive⟩,
    ⟨grant, hgrant, hgrantBound, hgrantActive, hgrantWindow⟩,
    ⟨policy, hpolicy, hpolicyBound, hpolicyActive, hpolicyWindow⟩, hreservation,
    ⟨backend, hbackend, hbackendBound⟩⟩ := hcurrent
  constructor
  · exact hflow
  · exact ⟨resource, hresource, hresourceBound, hresourceActive,
      h.within ⟨hle _, fun _ ↦ hle _⟩ Funded.resource hresource hresourceBound⟩
  · exact ⟨grant, hgrant, hgrantBound, hgrantActive, hgrantWindow,
      h.within ⟨hle _, hle _⟩ Funded.grant hgrant hgrantBound⟩
  · exact ⟨policy, hpolicy, hpolicyBound, hpolicyActive, hpolicyWindow,
      h.within ⟨hle _, hle _⟩ Funded.policy hpolicy hpolicyBound⟩
  · intro hreserved
    obtain ⟨reservation, hfind, hbound, hactive, hwindow⟩ := hreservation hreserved
    exact ⟨reservation, hfind, hbound, hactive, hwindow,
      h.within ⟨hle _, hle _⟩ (fun h ↦ h.reservation hreserved) hfind hbound⟩
  · exact ⟨backend, hbackend, hbackendBound,
      h.within ⟨fun _ ↦ hle _, fun _ ↦ hle _⟩ Funded.backend hbackend hbackendBound⟩

/-- Whatever the interleaving, an envelope that may be enforced now is bound to authorities that
are stored, current and at least as large as the effect it has applied. -/
theorem lawful_of_enforceable {start : System} (hfresh : Fresh start)
    (hrun : Reaches step (fun s _ ↦ Headroom s.engine.tables) start s)
    (hfind : s.engine.tables.envelopes.find k = some envelope)
    (h : legallyEnforceableNow s.engine.tables envelope now = true) :
    Lawful s.engine.tables envelope now := by
  have hinv : Inv s :=
    hrun.invariant (inv_of_fresh hfresh) fun _ _ _ hinv hroom hstep ↦
      inv_step hinv hroom.not_wraps hstep
  unfold legallyEnforceableNow at h
  simp only [Bool.and_eq_true, decide_eq_true_eq] at h
  obtain ⟨⟨happlied, hauthority⟩, ⟨hverified, -⟩, -⟩ := h
  exact lawful_of_covered (current_of_authorityStatus hauthority)
    ((hinv.envelopes k envelope hfind).effect happlied hverified)

theorem lawful_after_applySample : ∃ s envelope, run step sampleStart applySample = some s ∧
    legallyEnforceableNow s.engine.tables envelope 6 = true ∧
    Lawful s.engine.tables envelope 6 := by
  have hguarded : Guarded step (fun s _ ↦ Headroom s.engine.tables) sampleStart applySample := by
    decide +kernel
  obtain ⟨s, envelope, hrun, hfind, h⟩ : ∃ s envelope, run step sampleStart applySample = some s ∧
      s.engine.tables.envelopes.find 1 = some envelope ∧
      legallyEnforceableNow s.engine.tables envelope 6 = true := of_observe (by decide +kernel)
  exact ⟨s, envelope, hrun, h, lawful_of_enforceable fresh_sampleStart
    (reaches_of_run hguarded hrun) hfind h⟩

end Claim

end RateGovernor.Safety.Enforceable
