import RateGovernor.Dynamics.Start
import RateGovernor.Dynamics.States

namespace RateGovernor.Safety.Revoked

open Model.CheckedMath Model.Identity Model.Reason Model.Entities Model.Envelope Model.EngineState
open Model.Calls Model.Lifecycle Model.Completion Model.Revocation Model.Maintenance
open Model.Authority Model.Execution Foundation.KeyedTable Foundation.GuardedRun
open Dynamics.Sections Dynamics.Turns Dynamics.Evolution Dynamics.Bindings Dynamics.States
open Dynamics.Issue Dynamics.Start

variable {s t : System} {event : Event} {action : Action} {envelope old : RateEnvelope} {k : U64}

/-- The sections that write an envelope's state without looking at the state it is in, and the
envelope they write. -/
inductive Disturbs (s : System) : Event → RateEnvelope → Prop
  | refusedApply {i : ℕ} {task : ApplyTask} {report : CompletionReport} {now : U64}
      {attempt : EnforcementAttempt} {envelope : RateEnvelope}
      (accepted : ApplyAccepted s i task report now attempt envelope)
      (refused : report.acknowledged = false) (answered : report.status ≠ .pending) :
      Disturbs s (.finish i) envelope
  | judgedApply {i : ℕ} {task : ApplyTask} {now clock : U64} {backend : Option Backend}
      {verification : VerificationOutcome} {attempt : EnforcementAttempt} {envelope : RateEnvelope}
      (judged : ApplyJudged s i task now backend verification attempt envelope) :
      Disturbs s (.publish i clock) envelope
  | refusedRevoke {i : ℕ} {task : RevokeTask} {report : CompletionReport} {now : U64}
      {attempt : EnforcementAttempt} {envelope : RateEnvelope}
      (finishing : RevokeFinishing s i task report now attempt envelope)
      (inflight : attemptInflight attempt.state = true) (refused : report.acknowledged = false) :
      Disturbs s (.finish i) envelope
  | unconfirmedRevoke {i : ℕ} {task : RevokeTask} {now clock : U64} {backend : Option Backend}
      {verification : VerificationOutcome} {seen : EnvelopeState} {attempt : EnforcementAttempt}
      {envelope : RateEnvelope}
      (publishing : RevokePublishing s i task now backend verification seen attempt envelope)
      (acknowledged : attempt.state = .acknowledged)
      (unconfirmed : revokeConfirmed verification = false) :
      Disturbs s (.publish i clock) envelope
  | abandoned {id : EnforcementAttemptId} {reason : ReasonCode} {actor : ActorContext} {now : U64}
      {attempt : EnforcementAttempt} {envelope : RateEnvelope} (found : InFlight s id attempt)
      (named : s.engine.tables.envelopes.find attempt.envelope.value = some envelope) :
      Disturbs s (.abandonAttempt id reason actor now) envelope
  | expired {now : U64} {session : Session} {attempt : EnforcementAttempt} {envelope : RateEnvelope}
      (found : s.engine.tables.attempts.find attempt.id.value = some attempt)
      (passed : deadlinePassed attempt now = true)
      (named : s.engine.tables.envelopes.find attempt.envelope.value = some envelope) :
      Disturbs s (.tick now session) envelope
  | shutdown {now : U64} {attempt : EnforcementAttempt} {envelope : RateEnvelope}
      (found : InFlight s attempt.id attempt)
      (named : s.engine.tables.envelopes.find attempt.envelope.value = some envelope) :
      Disturbs s (.shutdown now) envelope
  | revalidated {i : ℕ} {sweep : Sweep} {probe : Probe} {verification : VerificationOutcome}
      {now clock : U64} {envelope : RateEnvelope}
      (revalidating : Revalidating s i sweep probe verification now clock envelope)
      (supported : verification.status ≠ .unsupported) (answered : verification.status ≠ .failed) :
      Disturbs s (.publish i clock) envelope

/-- No such section is committed for a revoked envelope. -/
def SparesRevoked (s : System) (action : Action) : Prop :=
  commits s action = true → ∀ envelope, Disturbs s action.event envelope → envelope.state ≠ .revoked

section Step

theorem revoked_of_stages {type} (hok : ∀ envelope, Disturbs s event envelope →
      envelope.state ≠ .revoked) (h : Stages s event (.envelope type envelope))
    (htype : type ≠ .envelopeOpened)
    (hfind : s.engine.tables.envelopes.find envelope.id.value = some old)
    (hold : old.state = .revoked) : envelope.state = .revoked := by
  have same {k : U64} {stored staged : RateEnvelope}
      (hstored : s.engine.tables.envelopes.find k = some stored)
      (hbinding : binding staged = binding stored)
      (hfind : s.engine.tables.envelopes.find staged.id.value = some old) :
      stored.state = .revoked := by
    rw [stored_eq hstored hbinding hfind]
    exact hold
  cases h with
  | opened => exact absurd rfl htype
  | epochDemoted hfound hdemoted =>
    have hrevoked := same hfound (binding_of_epochDemoted hdemoted) hfind
    exact (state_of_epochDemoted hdemoted (by rw [hrevoked]; exact nofun)
      (by rw [hrevoked]; exact nofun)).trans hrevoked
  | unauthorized hfound =>
    have hrevoked := same hfound rfl hfind
    exact (state_unauthorizedEnvelope _ _ (.inr hrevoked)).trans hrevoked
  | authorized hfound =>
    have hrevoked := same hfound (binding_authorizedEnvelope _ _ _) hfind
    exact (state_authorizedEnvelope _ _ (.inr hrevoked)).trans hrevoked
  | denied admitted =>
    have hrevoked := same admitted.found rfl hfind
    exact hrevoked
  | planned admitted =>
    exact absurd (same admitted.found (binding_plannedEnvelope _ _) hfind) admitted.live
  | dispatching admitted =>
    exact absurd (same admitted.found ((binding_dispatchingEnvelope _ _).trans
      (binding_plannedEnvelope _ _)) hfind) admitted.live
  | lateFinishEnvelope finishing =>
    have hrevoked := same finishing.storedEnvelope (binding_lateEnvelope _ _ _ _) hfind
    rw [state_lateEnvelope, hrevoked]
    simp only [ne_eq, not_true_eq_false, decide_false, Bool.and_false, Bool.false_eq_true, if_false]
  | refusedApplyEnvelope accepted hrefused hanswered =>
    exact absurd (same accepted.storedEnvelope rfl hfind)
      (hok _ (.refusedApply accepted hrefused hanswered))
  | latePublishEnvelope publishing =>
    have hrevoked := same publishing.storedEnvelope (binding_lateEnvelope _ _ _ _) hfind
    rw [state_lateEnvelope, hrevoked]
    simp only [ne_eq, not_true_eq_false, decide_false, Bool.and_false, Bool.false_eq_true, if_false]
  | judgedApplyEnvelope judged =>
    exact absurd (same judged.storedEnvelope (binding_judgeApply _ _ _ _ _ _) hfind)
      (hok _ (.judgedApply judged))
  | revoking admitted => exact absurd (same admitted.found rfl hfind) admitted.live
  | refusedRevokeEnvelope finishing hinflight hrefused =>
    exact absurd (same finishing.storedEnvelope rfl hfind)
      (hok _ (.refusedRevoke finishing hinflight hrefused))
  | @judgedRevokeEnvelope i task now clock backend verification seen attempt stored publishing
      hacknowledged =>
    cases hconfirmed : revokeConfirmed verification with
    | false =>
      exact absurd (same publishing.storedEnvelope (binding_judgedRevokeEnvelope _ _ _ _) hfind)
        (hok _ (.unconfirmedRevoke publishing hacknowledged hconfirmed))
    | true => simp only [judgedRevokeEnvelope, hconfirmed, if_true]
  | abandonedEnvelope hfound hnamed =>
    exact absurd (same hnamed rfl hfind) (hok _ (.abandoned hfound hnamed))
  | consumed hfound =>
    have hrevoked := same hfound rfl hfind
    exact hrevoked
  | sessionLost hfound hlost =>
    have hrevoked := same hfound (binding_of_sessionLost hlost) hfind
    exact (state_of_sessionLost hlost (by rw [hrevoked]; exact nofun)
      (by rw [hrevoked]; exact nofun)).trans hrevoked
  | tickLost hfound hlost =>
    have hrevoked := same hfound (binding_of_sessionLost hlost) hfind
    exact (state_of_sessionLost hlost (by rw [hrevoked]; exact nofun)
      (by rw [hrevoked]; exact nofun)).trans hrevoked
  | tickMaintained hfound =>
    exact maintained_of_revoked _ _ (same hfound (binding_maintained _ _ _) hfind)
  | tickExpiredEnvelope hfound hpassed hnamed =>
    exact absurd (same hnamed rfl hfind) (hok _ (.expired hfound hpassed hnamed))
  | @revalidated i sweep probe verification now clock stored revalidating =>
    have hrevoked := same revalidating.storedEnvelope (binding_judgeRevalidation _ _ _ _ _) hfind
    by_cases hunknown : verification.status = .unsupported ∨ verification.status = .failed
    · unfold judgeRevalidation
      simp only [Bool.or_eq_true, decide_eq_true_eq, hunknown, if_true]
      exact hrevoked
    · obtain ⟨hsupported, hanswered⟩ := not_or.1 hunknown
      exact absurd hrevoked (hok _ (.revalidated revalidating hsupported hanswered))
  | shutdownEnvelope hfound hnamed =>
    exact absurd (same hnamed rfl hfind) (hok _ (.shutdown hfound hnamed))

theorem revoked_step (hids : IdsAhead s) (hok : SparesRevoked s action)
    (hstep : step s action = some t) (hfind : s.engine.tables.envelopes.find k = some old)
    (hold : old.state = .revoked) :
    ∃ envelope, t.engine.tables.envelopes.find k = some envelope ∧ envelope.state = .revoked := by
  obtain ⟨envelope, hfind', -⟩ := binding_step hids hstep hfind
  refine ⟨envelope, hfind', ?_⟩
  obtain hsame | hcommits := same_or_commits hstep
  · rw [hsame, hfind] at hfind'
    cases hfind'
    exact hold
  · obtain hsame | ⟨type, hstages, htype⟩ := replaced_step hids hstep hfind hfind'
    · rw [hsame]
      exact hold
    · rw [← Registry.key_of_find hfind'] at hfind
      exact revoked_of_stages (hok hcommits) hstages htype hfind hold

end Step

/-- Revoked is absorbing in every run that takes none of the disturbing sections for a revoked
envelope. -/
theorem revoked_absorbing (hreachable : Reachable s) (hrun : Reaches step SparesRevoked s t)
    (hfind : s.engine.tables.envelopes.find k = some old) (hold : old.state = .revoked) :
    ∃ envelope, t.engine.tables.envelopes.find k = some envelope ∧ envelope.state = .revoked := by
  have hinv := hrun.invariant
    (I := fun t ↦ IdsAhead t ∧ ∃ envelope, t.engine.tables.envelopes.find k = some envelope ∧
      envelope.state = .revoked) ⟨hreachable.idsAhead, old, hfind, hold⟩
    fun s action t ⟨hids, stored, hfind, hold⟩ hok hstep ↦
      ⟨idsAhead_step hids hstep, revoked_step hids hok hstep hfind hold⟩
  exact hinv.2

section Sample

/-- An apply is dispatched, and before it is answered the envelope is revoked and verified so. -/
def revokeSample : List Action :=
  dispatchSample ++ [⟨.revoke ⟨1⟩ .none actor 6 {}, []⟩, ⟨.dispatched 1 { status := .completed }, []⟩,
    ⟨.readClock 1 7, []⟩, ⟨.finish 1, []⟩, ⟨.readBack 1 sampleAbsent 7, []⟩, ⟨.publish 1 7, []⟩]

def lateFailureSample : List Action :=
  [⟨.dispatched 0 { status := .failed }, []⟩, ⟨.readClock 0 8, []⟩, ⟨.finish 0, []⟩]

theorem revoked_after_sessionLoss : ∃ s t envelope, run step sampleStart revokeSample = some s ∧
    run step s [⟨.authorize ⟨1⟩ actor 8, []⟩, ⟨.markSessionLost actor, []⟩] = some t ∧
    t.engine.tables.envelopes.find 1 = some envelope ∧ envelope.state = .revoked := by
  obtain ⟨s, old, hrun, hfind, hold⟩ : ∃ s old, run step sampleStart revokeSample = some s ∧
      s.engine.tables.envelopes.find 1 = some old ∧ decide (old.state = .revoked) = true :=
    of_observe (by decide +kernel)
  obtain ⟨t, left, hrun', -⟩ : ∃ t left, run step sampleStart (revokeSample ++
        [⟨.authorize ⟨1⟩ actor 8, []⟩, ⟨.markSessionLost actor, []⟩]) = some t ∧
      t.engine.tables.envelopes.find 1 = some left ∧ true = true :=
    of_observe (by decide +kernel)
  rw [run_append hrun] at hrun'
  have hguarded : Guarded step SparesRevoked s
      [⟨.authorize ⟨1⟩ actor 8, []⟩, ⟨.markSessionLost actor, []⟩] := by
    refine ⟨fun _ _ h ↦ (nomatch h), ?_⟩
    split
    · trivial
    · refine ⟨fun _ _ h ↦ (nomatch h), ?_⟩
      split <;> trivial
  obtain ⟨envelope, hfind', hrevoked⟩ := revoked_absorbing
    (reachable_of_run fresh_sampleStart hrun) (reaches_of_run hguarded hrun') hfind
    (of_decide_eq_true hold)
  exact ⟨s, t, envelope, hrun, hrun', hfind', hrevoked⟩

/-- The failed answer of an apply that was in flight takes the envelope out of revoked. -/
theorem revoked_not_absorbing : ¬ ∀ s t k old, Reachable s → Reaches step anyStep s t →
    s.engine.tables.envelopes.find k = some old → old.state = .revoked →
    ∃ envelope, t.engine.tables.envelopes.find k = some envelope ∧ envelope.state = .revoked := by
  intro h
  obtain ⟨s, old, hrun, hfind, hold⟩ : ∃ s old, run step sampleStart revokeSample = some s ∧
      s.engine.tables.envelopes.find 1 = some old ∧ decide (old.state = .revoked) = true :=
    of_observe (by decide +kernel)
  obtain ⟨t, left, hrun', hfind', hleft⟩ : ∃ t left,
      run step sampleStart (revokeSample ++ lateFailureSample) = some t ∧
      t.engine.tables.envelopes.find 1 = some left ∧ decide (left.state = .degraded) = true :=
    of_observe (by decide +kernel)
  rw [run_append hrun] at hrun'
  obtain ⟨envelope, hfind'', hrevoked⟩ := h s t 1 old (reachable_of_run fresh_sampleStart hrun)
    (reaches_of_run (guarded_anyStep _ _) hrun') hfind (of_decide_eq_true hold)
  rw [hfind'] at hfind''
  cases hfind''
  rw [of_decide_eq_true hleft] at hrevoked
  cases hrevoked

end Sample

end RateGovernor.Safety.Revoked
