import RateGovernor.Dynamics.Flags
import RateGovernor.Safety.RestoredClaims

namespace RateGovernor.Safety.Doubt

open Model.CheckedMath Model.Identity Model.Reason Model.Entities Model.Envelope Model.EngineState
open Model.JournalWriter Model.Authority Model.Calls Model.Lifecycle Model.Completion
open Model.Revocation Model.Maintenance Model.Execution Model.Recovery Foundation.ByteCodec
open Foundation.KeyedTable Foundation.GuardedRun Dynamics.Sections Dynamics.Evolution
open Dynamics.Bindings Dynamics.Readbacks Dynamics.Issue Dynamics.Start Dynamics.Flags
open Dynamics.Demotion RestoredClaims

variable {s t : System} {event : Event} {action : Action} {envelope old new : RateEnvelope}
  {k now : U64}

/-- The section commits a readback that was made for the envelope and is confirmed. -/
inductive Confirms (s : System) : Event → RateEnvelope → Prop
  | apply {i : ℕ} {task : ApplyTask} {now clock : U64} {backend : Option Backend}
      {verification : VerificationOutcome} {attempt : EnforcementAttempt} {envelope : RateEnvelope}
      (judged : ApplyJudged s i task now backend verification attempt envelope)
      (confirmed : verification.status = .confirmed) : Confirms s (.publish i clock) envelope
  | revoke {i : ℕ} {task : RevokeTask} {now clock : U64} {backend : Option Backend}
      {verification : VerificationOutcome} {seen : EnvelopeState} {attempt : EnforcementAttempt}
      {envelope : RateEnvelope}
      (publishing : RevokePublishing s i task now backend verification seen attempt envelope)
      (acknowledged : attempt.state = .acknowledged)
      (confirmed : verification.status = .confirmed) : Confirms s (.publish i clock) envelope
  | revalidation {i : ℕ} {sweep : Sweep} {probe : Probe} {verification : VerificationOutcome}
      {now clock : U64} {envelope : RateEnvelope}
      (revalidating : Revalidating s i sweep probe verification now clock envelope)
      (confirmed : verification.status = .confirmed) : Confirms s (.publish i clock) envelope

/-- The sections that take an envelope out of doubt on other grounds. -/
inductive Forgives (s : System) : Event → RateEnvelope → Prop
  | replanned {id : RateEnvelopeId} {actor : ActorContext} {now : U64} {envelope : RateEnvelope}
      (found : s.engine.tables.envelopes.find id.value = some envelope)
      (plan : (derivePlanLocked s.engine envelope now).authorized = true)
      (active : envelope.state = .applied ∨ envelope.state = .degraded)
      (changed : bindingUnchanged envelope (planNow s envelope now) = false) :
      Forgives s (.authorize id actor now) envelope
  | refused {i : ℕ} {task : ApplyTask} {report : CompletionReport} {now : U64}
      {attempt : EnforcementAttempt} {envelope : RateEnvelope}
      (accepted : ApplyAccepted s i task report now attempt envelope)
      (refused : report.acknowledged = false) (answered : report.status ≠ .pending)
      (sent : report.status ≠ .failed) : Forgives s (.finish i) envelope
  | misreadApply {i : ℕ} {task : ApplyTask} {now clock : U64} {backend : Option Backend}
      {verification : VerificationOutcome} {attempt : EnforcementAttempt} {envelope : RateEnvelope}
      (judged : ApplyJudged s i task now backend verification attempt envelope)
      (unconfirmed : verification.status ≠ .confirmed) : Forgives s (.publish i clock) envelope
  | misreadRevalidation {i : ℕ} {sweep : Sweep} {probe : Probe} {verification : VerificationOutcome}
      {now clock : U64} {envelope : RateEnvelope}
      (revalidating : Revalidating s i sweep probe verification now clock envelope)
      (unconfirmed : verification.status ≠ .confirmed) : Forgives s (.publish i clock) envelope

theorem not_forgives_of_confirms (h : Confirms s event envelope) : ¬ Forgives s event envelope := by
  intro hforgives
  cases h with
  | apply judged hconfirmed =>
    cases hforgives with
    | misreadApply judged' hunconfirmed =>
      cases judged.call.symm.trans judged'.call
      exact hunconfirmed hconfirmed
    | misreadRevalidation revalidating => cases judged.call.symm.trans revalidating.call
  | revoke publishing =>
    cases hforgives with
    | misreadApply judged => cases publishing.call.symm.trans judged.call
    | misreadRevalidation revalidating => cases publishing.call.symm.trans revalidating.call
  | revalidation revalidating hconfirmed =>
    cases hforgives with
    | misreadApply judged => cases revalidating.call.symm.trans judged.call
    | misreadRevalidation revalidating' hunconfirmed =>
      cases revalidating.call.symm.trans revalidating'.call
      exact hunconfirmed hconfirmed

section Updates

theorem doubted_of_epochDemoted (h : epochDemoted now old = some new) :
    new.requiresRevalidation = true := by
  unfold epochDemoted at h
  simp only at h
  split at h <;> cases h
  rfl

theorem doubted_of_sessionLost (h : sessionLostEnvelope old = some new) :
    new.requiresRevalidation = true := by
  unfold sessionLostEnvelope at h
  simp only at h
  split at h <;> cases h
  rfl

theorem doubted_lateEnvelope (reason : ReasonCode) (effect : Bool) (now : U64)
    (h : old.requiresRevalidation = true) :
    (lateEnvelope old reason effect now).requiresRevalidation = true := by
  unfold lateEnvelope
  simp only
  split
  · exact h
  · split <;> rfl

theorem doubted_maintained (tables : Tables) (now : U64) (h : old.requiresRevalidation = true) :
    (maintained tables old now).requiresRevalidation = true := by
  have hrefilled : (refillStage old now).1.requiresRevalidation = true := by
    unfold refillStage
    split <;> exact h
  have hcooled : (cooldownStage (refillStage old now).1 now).requiresRevalidation = true := by
    unfold cooldownStage
    split <;> exact hrefilled
  unfold maintained staleStage
  simp only
  split
  · exact hcooled
  · simp only [hcooled, Bool.or_true]

end Updates

theorem confirmed_or_forgiven {type} (h : Stages s event (.envelope type new))
    (htype : type ≠ .envelopeOpened)
    (hfind : s.engine.tables.envelopes.find new.id.value = some old)
    (hold : old.requiresRevalidation = true) (hnew : new.requiresRevalidation = false) :
    Confirms s event old ∨ Forgives s event old := by
  have doubted {P : Prop} (h : new.requiresRevalidation = true) : P := by
    rw [hnew] at h
    cases h
  cases h with
  | opened => exact absurd rfl htype
  | epochDemoted hfound hdemoted => exact doubted (doubted_of_epochDemoted hdemoted)
  | unauthorized hfound =>
    cases stored_eq hfound rfl hfind
    exact doubted hold
  | @authorized id actor now stored hfound hplan =>
    cases stored_eq hfound (binding_authorizedEnvelope _ _ _) hfind
    unfold authorizedEnvelope at hnew
    simp only at hnew
    split at hnew
    · next hactive =>
      split at hnew
      · rw [hold] at hnew
        cases hnew
      · next hchanged =>
        simp only [Bool.or_eq_true, decide_eq_true_eq] at hactive
        exact .inr (.replanned hfound hplan hactive (Bool.not_eq_true _ ▸ hchanged))
    · split at hnew <;> (rw [hold] at hnew; cases hnew)
  | denied admitted =>
    cases stored_eq admitted.found rfl hfind
    exact doubted hold
  | planned admitted =>
    cases stored_eq admitted.found (binding_plannedEnvelope _ _) hfind
    exact doubted ((flags_plannedEnvelope _ _).2.trans hold)
  | dispatching admitted =>
    cases stored_eq admitted.found ((binding_dispatchingEnvelope _ _).trans
      (binding_plannedEnvelope _ _)) hfind
    exact doubted ((flags_plannedEnvelope _ _).2.trans hold)
  | lateFinishEnvelope finishing =>
    cases stored_eq finishing.storedEnvelope (binding_lateEnvelope _ _ _ _) hfind
    exact doubted (doubted_lateEnvelope _ _ _ hold)
  | refusedApplyEnvelope accepted hrefused hanswered =>
    cases stored_eq accepted.storedEnvelope rfl hfind
    refine .inr (.refused accepted hrefused hanswered fun hfailed ↦ ?_)
    simp only [refusedApplyEnvelope, refusedState, hfailed, if_true, decide_true] at hnew
    cases hnew
  | latePublishEnvelope publishing =>
    cases stored_eq publishing.storedEnvelope (binding_lateEnvelope _ _ _ _) hfind
    exact doubted (doubted_lateEnvelope _ _ _ hold)
  | @judgedApplyEnvelope i task now clock backend verification attempt stored judged =>
    cases stored_eq judged.storedEnvelope (binding_judgeApply _ _ _ _ _ _) hfind
    by_cases hconfirmed : verification.status = .confirmed
    · exact .inl (.apply judged hconfirmed)
    · exact .inr (.misreadApply judged hconfirmed)
  | revoking admitted =>
    cases stored_eq admitted.found rfl hfind
    exact doubted hold
  | refusedRevokeEnvelope => exact doubted rfl
  | @judgedRevokeEnvelope i task now clock backend verification seen attempt stored publishing
      hacknowledged =>
    cases stored_eq publishing.storedEnvelope (binding_judgedRevokeEnvelope _ _ _ _) hfind
    unfold judgedRevokeEnvelope at hnew
    simp only at hnew
    split at hnew
    · next hconfirmed =>
      simp only [revokeConfirmed, Bool.and_eq_true, decide_eq_true_eq] at hconfirmed
      exact .inl (.revoke publishing hacknowledged hconfirmed.1)
    · cases hnew
  | abandonedEnvelope => exact doubted rfl
  | consumed hfound =>
    cases stored_eq hfound rfl hfind
    exact doubted hold
  | sessionLost hfound hlost => exact doubted (doubted_of_sessionLost hlost)
  | tickLost hfound hlost => exact doubted (doubted_of_sessionLost hlost)
  | tickMaintained hfound =>
    cases stored_eq hfound (binding_maintained _ _ _) hfind
    exact doubted (doubted_maintained _ _ hold)
  | tickExpiredEnvelope => exact doubted rfl
  | @revalidated i sweep probe verification now clock stored revalidating =>
    cases stored_eq revalidating.storedEnvelope (binding_judgeRevalidation _ _ _ _ _) hfind
    by_cases hconfirmed : verification.status = .confirmed
    · exact .inl (.revalidation revalidating hconfirmed)
    · exact .inr (.misreadRevalidation revalidating hconfirmed)
  | shutdownEnvelope => exact doubted rfl

theorem cleared_step (hids : IdsAhead s) (hstep : step s action = some t)
    (hfind : s.engine.tables.envelopes.find k = some old)
    (hfind' : t.engine.tables.envelopes.find k = some new)
    (hold : old.requiresRevalidation = true) (hnew : new.requiresRevalidation = false) :
    Confirms s action.event old ∨ Forgives s action.event old := by
  obtain rfl | ⟨type, hstages, htype⟩ := replaced_step hids hstep hfind hfind'
  · rw [hold] at hnew
    cases hnew
  · rw [← Registry.key_of_find hfind'] at hfind
    exact confirmed_or_forgiven hstages htype hfind hold hnew

/-- A section that takes an envelope out of doubt does it on a confirmed readback exactly when it
is none of the forgiving ones, and a recovery takes no envelope out of doubt. -/
theorem cleared_by_evidence_iff {s t : System} {action : Action} {k : U64} {old new : RateEnvelope}
    {truncate : Bool} {config : EngineConfig} {file : Bytes} {demotedNs advancedNs : U64}
    {io tailIo : Io} {engine : Engine} :
    (Reachable s → step s action = some t → s.engine.tables.envelopes.find k = some old →
      t.engine.tables.envelopes.find k = some new → old.requiresRevalidation = true →
      new.requiresRevalidation = false →
      (Confirms s action.event old ↔ ¬ Forgives s action.event old)) ∧
    (recoverEngineWith truncate config file demotedNs advancedNs io tailIo = .ok engine →
      (replayed config file).envelopes.find k = some old → old.requiresRevalidation = true →
      ∃ envelope, engine.tables.envelopes.find k = some envelope ∧
        envelope.requiresRevalidation = true) := by
  refine ⟨fun hreachable hstep hfind hfind' hold hnew ↦ ⟨not_forgives_of_confirms, ?_⟩,
    fun h hfind hold ↦ ?_⟩
  · exact (cleared_step hreachable.idsAhead hstep hfind hfind' hold hnew).resolve_right
  · refine ⟨handedOut config demotedNs advancedNs old, ?_, doubted_handedOut
      (.inr (.inr (.inr (.inr (.inr (.inr hold)))))) config demotedNs advancedNs⟩
    rw [(handover h).envelopes k, hfind]
    rfl

section Sample

/-- The readback of the sample apply fails; a revalidation then reads the whole ceiling back. -/
def rereadSample : List Action :=
  dispatchSample ++ [⟨.dispatched 0 { status := .completed }, []⟩, ⟨.readClock 0 6, []⟩,
    ⟨.finish 0, []⟩, ⟨.readBack 0 { status := .failed } 6, []⟩, ⟨.publish 0 6, []⟩,
    ⟨.revalidateAll actor 7, []⟩, ⟨.revalidateNext 0 7 {}, []⟩, ⟨.readBack 0 samplePresent 8, []⟩]

def confirmedNext (s : System) : Bool :=
  match s.calls[0]? with
  | some (Call.recording _ _ verification _) => verification.status = .confirmed
  | _ => false

theorem not_forgives_of_confirmedNext {clock : U64} (h : confirmedNext s = true) :
    ¬ Forgives s (.publish 0 clock) envelope := by
  intro hforgives
  unfold confirmedNext at h
  cases hforgives with
  | misreadApply judged =>
    rw [judged.call] at h
    cases h
  | misreadRevalidation revalidating hunconfirmed =>
    rw [revalidating.call] at h
    exact hunconfirmed (of_decide_eq_true h)

theorem confirmed_after_rereadSample : ∃ s t old new, run step sampleStart rereadSample = some s ∧
    step s ⟨.publish 0 8, []⟩ = some t ∧ s.engine.tables.envelopes.find 1 = some old ∧
    t.engine.tables.envelopes.find 1 = some new ∧ old.requiresRevalidation = true ∧
    new.requiresRevalidation = false ∧ Confirms s (.publish 0 8) old := by
  obtain ⟨s, old, hrun, hfind, hold⟩ : ∃ s old, run step sampleStart rereadSample = some s ∧
      s.engine.tables.envelopes.find 1 = some old ∧
      (confirmedNext s && old.requiresRevalidation) = true := of_observe (by decide +kernel)
  obtain ⟨t, new, hrun', hfind', hnew⟩ : ∃ t new,
      run step sampleStart (rereadSample ++ [⟨.publish 0 8, []⟩]) = some t ∧
      t.engine.tables.envelopes.find 1 = some new ∧
      (!new.requiresRevalidation) = true := of_observe (by decide +kernel)
  rw [run_append hrun, run_singleton] at hrun'
  simp only [Bool.and_eq_true, Bool.not_eq_true'] at hold hnew
  have hconfirms : Confirms s (.publish 0 8) old :=
    ((@cleared_by_evidence_iff s t _ 1 old new false {} [] 0 0 [] [] s.engine).1
      (reachable_of_run fresh_sampleStart hrun) hrun' hfind hfind' hold.2 hnew).2
      (not_forgives_of_confirmedNext hold.1)
  exact ⟨s, t, old, new, hrun, hrun', hfind, hfind', hold.2, hnew, hconfirms⟩

def advanceSample : List Action := applySample ++ [⟨.advanceEpoch ⟨2⟩ actor 7, []⟩]

/-- Authorizing the questioned envelope in the new epoch takes it out of doubt. -/
theorem cleared_by_authorize : ¬ ∀ s t action k old new, Reachable s → step s action = some t →
    s.engine.tables.envelopes.find k = some old → t.engine.tables.envelopes.find k = some new →
    old.requiresRevalidation = true → new.requiresRevalidation = false →
    Confirms s action.event old := by
  intro h
  obtain ⟨s, old, hrun, hfind, hold⟩ : ∃ s old, run step sampleStart advanceSample = some s ∧
      s.engine.tables.envelopes.find 1 = some old ∧ old.requiresRevalidation = true :=
    of_observe (by decide +kernel)
  obtain ⟨t, new, hrun', hfind', hnew⟩ : ∃ t new, run step sampleStart (advanceSample ++
        [⟨.authorize ⟨1⟩ { actor with epoch := ⟨2⟩ } 8, []⟩]) = some t ∧
      t.engine.tables.envelopes.find 1 = some new ∧ (!new.requiresRevalidation) = true :=
    of_observe (by decide +kernel)
  rw [run_append hrun, run_singleton] at hrun'
  cases h s t _ 1 old new (reachable_of_run fresh_sampleStart hrun) hrun' hfind hfind' hold
    (by simpa using hnew)

end Sample

end RateGovernor.Safety.Doubt
