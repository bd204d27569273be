import RateGovernor.Dynamics.Start
import RateGovernor.Dynamics.States

namespace RateGovernor.Safety.RevocationIntent

open Model.CheckedMath Model.Identity Model.Reason Model.Entities Model.Envelope Model.EngineState
open Model.JournalWriter Model.Calls Model.Lifecycle Model.Completion Model.Revocation
open Model.Maintenance Model.Authority Model.Execution Foundation.KeyedTable Foundation.GuardedRun
open Dynamics.Sections Dynamics.Turns Dynamics.Evolution Dynamics.Bindings Dynamics.States
open Dynamics.Issue Dynamics.Start

variable {s t : System} {event : Event} {action : Action} {envelope old : RateEnvelope} {k : U64}

def informative (verification : VerificationOutcome) : Bool :=
  verification.status ≠ .unsupported && verification.status ≠ .failed

/-- A readback of an apply that calls for a revocation: it shows more than was asked for, or an
entry that is not what was asked for and below the floor. -/
def demandsRevoke (envelope : RateEnvelope) (request : ApplyRequest)
    (verification : VerificationOutcome) : Bool :=
  informative verification && verification.observedPresent &&
  !(verification.observedRateUps = request.rateUps &&
    verification.observedBurstTokens = request.burstTokens) &&
  (request.rateUps < verification.observedRateUps ||
    verification.observedRateUps < if envelope.hasPlan then envelope.plan.floorUps else 0)

def respectsRevoke (probe : Probe) (verification : VerificationOutcome) : Bool :=
  !informative verification ||
  (!verification.observedPresent && verification.status = .confirmed) ||
  (verification.observedPresent && probe.expectedRate < verification.observedRateUps)

/-- The sections that write over a pending revocation, and the envelope they write. -/
inductive Overrides (s : System) : Event → RateEnvelope → Prop
  | dispatched {id : RateEnvelopeId} {actor : ActorContext} {now : U64} {session : Session}
      {envelope : RateEnvelope} {backend : Backend}
      (admitted : ApplyAdmitted s id now session envelope backend)
      (plan : (derivePlanLocked s.engine envelope now).authorized = true) :
      Overrides s (.apply id actor now session) envelope
  | refusedApply {i : ℕ} {task : ApplyTask} {report : CompletionReport} {now : U64}
      {attempt : EnforcementAttempt} {envelope : RateEnvelope}
      (accepted : ApplyAccepted s i task report now attempt envelope)
      (refused : report.acknowledged = false) (answered : report.status ≠ .pending) :
      Overrides s (.finish i) envelope
  | judgedApply {i : ℕ} {task : ApplyTask} {now clock : U64} {backend : Option Backend}
      {verification : VerificationOutcome} {attempt : EnforcementAttempt} {envelope : RateEnvelope}
      (judged : ApplyJudged s i task now backend verification attempt envelope)
      (content : demandsRevoke envelope task.request verification = false) :
      Overrides s (.publish i clock) envelope
  | abandoned {id : EnforcementAttemptId} {reason : ReasonCode} {actor : ActorContext} {now : U64}
      {attempt : EnforcementAttempt} {envelope : RateEnvelope} (found : InFlight s id attempt)
      (named : s.engine.tables.envelopes.find attempt.envelope.value = some envelope) :
      Overrides s (.abandonAttempt id reason actor now) envelope
  | expired {now : U64} {session : Session} {attempt : EnforcementAttempt} {envelope : RateEnvelope}
      (found : s.engine.tables.attempts.find attempt.id.value = some attempt)
      (passed : deadlinePassed attempt now = true)
      (named : s.engine.tables.envelopes.find attempt.envelope.value = some envelope) :
      Overrides s (.tick now session) envelope
  | shutdown {now : U64} {attempt : EnforcementAttempt} {envelope : RateEnvelope}
      (found : InFlight s attempt.id attempt)
      (named : s.engine.tables.envelopes.find attempt.envelope.value = some envelope) :
      Overrides s (.shutdown now) envelope
  | revalidated {i : ℕ} {sweep : Sweep} {probe : Probe} {verification : VerificationOutcome}
      {now clock : U64} {envelope : RateEnvelope}
      (revalidating : Revalidating s i sweep probe verification now clock envelope)
      (content : respectsRevoke probe verification = false) :
      Overrides s (.publish i clock) envelope

/-- No such section is committed for an envelope whose revocation is pending. -/
def HonoursIntent (s : System) (action : Action) : Prop :=
  commits s action = true →
    ∀ envelope, Overrides s action.event envelope → envelope.state ≠ .revokePending

/-- The sections that commit a confirmed readback showing the envelope's entry gone. -/
inductive ConfirmsAbsent (s : System) : Event → U64 → Prop
  | revoke {i : ℕ} {task : RevokeTask} {now clock : U64} {backend : Option Backend}
      {verification : VerificationOutcome} {seen : EnvelopeState} {attempt : EnforcementAttempt}
      {envelope : RateEnvelope}
      (publishing : RevokePublishing s i task now backend verification seen attempt envelope)
      (acknowledged : attempt.state = .acknowledged)
      (confirmed : verification.status = .confirmed)
      (absent : verification.observedPresent = false) :
      ConfirmsAbsent s (.publish i clock) task.envelope.value
  | revalidation {i : ℕ} {sweep : Sweep} {probe : Probe} {verification : VerificationOutcome}
      {now clock : U64} {envelope : RateEnvelope}
      (revalidating : Revalidating s i sweep probe verification now clock envelope)
      (confirmed : verification.status = .confirmed)
      (absent : verification.observedPresent = false) :
      ConfirmsAbsent s (.publish i clock) probe.id.value

section Verdicts

theorem state_judgeApply {engine : Engine} {attempt : EnforcementAttempt} {request : ApplyRequest}
    {verification : VerificationOutcome} {now : U64}
    (h : demandsRevoke old request verification = true) :
    (judgeApply engine old attempt request verification now).envelope.state = .revokePending := by
  simp only [demandsRevoke, informative, ne_eq, Bool.and_eq_true, decide_eq_true_eq,
    Bool.not_eq_true', Bool.or_eq_true] at h
  obtain ⟨⟨⟨⟨hsupported, hanswered⟩, hpresent⟩, hinexact⟩, hlimits⟩ := h
  unfold judgeApply
  simp only [if_neg hsupported, if_neg hanswered, hpresent, Bool.not_true, Bool.false_eq_true,
    if_false, hinexact]
  split
  · rfl
  · next hunder =>
    have hfloor := hlimits.resolve_left hunder
    rw [if_neg (UInt64.not_le.2 hfloor)]

theorem state_judgeRevalidation {sweep : Sweep} {probe : Probe} {verification : VerificationOutcome}
    {now : U64} (hold : old.state = .revokePending) (h : respectsRevoke probe verification = true) :
    (judgeRevalidation sweep probe old verification now).envelope.state = .revokePending ∨
      verification.status = .confirmed ∧ verification.observedPresent = false := by
  simp only [respectsRevoke, Bool.or_eq_true, Bool.and_eq_true, Bool.not_eq_true',
    decide_eq_true_eq] at h
  by_cases hunknown : verification.status = .unsupported ∨ verification.status = .failed
  · refine .inl ?_
    unfold judgeRevalidation
    simp only [Bool.or_eq_true, decide_eq_true_eq, hunknown, if_true]
    exact hold
  · obtain ⟨hsupported, hanswered⟩ := not_or.1 hunknown
    have hinformative : informative verification = true := by
      simp only [informative, ne_eq, hsupported, hanswered, not_false_eq_true, decide_true,
        Bool.and_self]
    obtain (hnone | ⟨habsent, hconfirmed⟩) | ⟨hpresent, hover⟩ := h
    · rw [hinformative] at hnone
      cases hnone
    · exact .inr ⟨hconfirmed, habsent⟩
    · refine .inl ?_
      have hinexact : verification.observedRateUps ≠ probe.expectedRate := by
        intro heq
        rw [heq] at hover
        exact absurd hover (UInt64.lt_irrefl _)
      unfold judgeRevalidation
      simp only [Bool.or_eq_true, decide_eq_true_eq, hunknown, if_false, hpresent, Bool.not_true,
        Bool.false_eq_true, hinexact, decide_false, Bool.false_and, hover, if_true]

end Verdicts

section Step

theorem pending_of_stages {type} (hok : ∀ envelope, Overrides s event envelope →
      envelope.state ≠ .revokePending) (h : Stages s event (.envelope type envelope))
    (htype : type ≠ .envelopeOpened)
    (hfind : s.engine.tables.envelopes.find envelope.id.value = some old)
    (hold : old.state = .revokePending) :
    envelope.state = .revokePending ∨ ConfirmsAbsent s event envelope.id.value := by
  have same {k : U64} {stored staged : RateEnvelope}
      (hstored : s.engine.tables.envelopes.find k = some stored)
      (hbinding : binding staged = binding stored)
      (hfind : s.engine.tables.envelopes.find staged.id.value = some old) :
      stored.state = .revokePending := by
    rw [stored_eq hstored hbinding hfind]
    exact hold
  cases h with
  | opened => exact absurd rfl htype
  | epochDemoted hfound hdemoted =>
    have hpending := same hfound (binding_of_epochDemoted hdemoted) hfind
    exact .inl ((state_of_epochDemoted hdemoted (by rw [hpending]; exact nofun)
      (by rw [hpending]; exact nofun)).trans hpending)
  | unauthorized hfound =>
    have hpending := same hfound rfl hfind
    exact .inl ((state_unauthorizedEnvelope _ _ (.inl hpending)).trans hpending)
  | authorized hfound =>
    have hpending := same hfound (binding_authorizedEnvelope _ _ _) hfind
    exact .inl ((state_authorizedEnvelope _ _ (.inl hpending)).trans hpending)
  | denied admitted =>
    have hpending := same admitted.found rfl hfind
    exact .inl hpending
  | planned admitted hplan =>
    exact absurd (same admitted.found (binding_plannedEnvelope _ _) hfind)
      (hok _ (.dispatched admitted hplan))
  | dispatching admitted hplan =>
    exact absurd (same admitted.found ((binding_dispatchingEnvelope _ _).trans
      (binding_plannedEnvelope _ _)) hfind) (hok _ (.dispatched admitted hplan))
  | lateFinishEnvelope finishing =>
    have hpending := same finishing.storedEnvelope (binding_lateEnvelope _ _ _ _) hfind
    refine .inl ?_
    rw [state_lateEnvelope, hpending, ite_self]
  | refusedApplyEnvelope accepted hrefused hanswered =>
    exact absurd (same accepted.storedEnvelope rfl hfind)
      (hok _ (.refusedApply accepted hrefused hanswered))
  | latePublishEnvelope publishing =>
    have hpending := same publishing.storedEnvelope (binding_lateEnvelope _ _ _ _) hfind
    refine .inl ?_
    rw [state_lateEnvelope, hpending, ite_self]
  | @judgedApplyEnvelope i task now clock backend verification attempt stored judged =>
    cases hdemands : demandsRevoke stored task.request verification with
    | false =>
      exact absurd (same judged.storedEnvelope (binding_judgeApply _ _ _ _ _ _) hfind)
        (hok _ (.judgedApply judged hdemands))
    | true => exact .inl (state_judgeApply hdemands)
  | revoking => exact .inl rfl
  | refusedRevokeEnvelope => exact .inl rfl
  | @judgedRevokeEnvelope i task now clock backend verification seen attempt stored publishing
      hacknowledged =>
    cases hconfirmed : revokeConfirmed verification with
    | false =>
      refine .inl ?_
      simp only [judgedRevokeEnvelope, hconfirmed, Bool.false_eq_true, if_false]
    | true =>
      simp only [revokeConfirmed, Bool.and_eq_true, decide_eq_true_eq, Bool.not_eq_true'] at hconfirmed
      rw [staged_id publishing.storedEnvelope (binding_judgedRevokeEnvelope _ _ _ _)]
      exact .inr (.revoke publishing hacknowledged hconfirmed.1 hconfirmed.2)
  | abandonedEnvelope hfound hnamed =>
    exact absurd (same hnamed rfl hfind) (hok _ (.abandoned hfound hnamed))
  | consumed hfound =>
    have hpending := same hfound rfl hfind
    exact .inl hpending
  | sessionLost hfound hlost =>
    have hpending := same hfound (binding_of_sessionLost hlost) hfind
    exact .inl ((state_of_sessionLost hlost (by rw [hpending]; exact nofun)
      (by rw [hpending]; exact nofun)).trans hpending)
  | tickLost hfound hlost =>
    have hpending := same hfound (binding_of_sessionLost hlost) hfind
    exact .inl ((state_of_sessionLost hlost (by rw [hpending]; exact nofun)
      (by rw [hpending]; exact nofun)).trans hpending)
  | tickMaintained hfound =>
    exact .inl (maintained_of_revokePending _ _ (same hfound (binding_maintained _ _ _) hfind))
  | tickExpiredEnvelope hfound hpassed hnamed =>
    exact absurd (same hnamed rfl hfind) (hok _ (.expired hfound hpassed hnamed))
  | @revalidated i sweep probe verification now clock stored revalidating =>
    have hpending := same revalidating.storedEnvelope (binding_judgeRevalidation _ _ _ _ _) hfind
    cases hrespects : respectsRevoke probe verification with
    | false => exact absurd hpending (hok _ (.revalidated revalidating hrespects))
    | true =>
      refine (state_judgeRevalidation hpending hrespects).imp_right fun ⟨hconfirmed, habsent⟩ ↦ ?_
      rw [staged_id revalidating.storedEnvelope (binding_judgeRevalidation _ _ _ _ _)]
      exact .revalidation revalidating hconfirmed habsent
  | shutdownEnvelope hfound hnamed =>
    exact absurd (same hnamed rfl hfind) (hok _ (.shutdown hfound hnamed))

theorem pending_step (hids : IdsAhead s) (hok : HonoursIntent s action)
    (habsent : ¬ ConfirmsAbsent s action.event k) (hstep : step s action = some t)
    (hfind : s.engine.tables.envelopes.find k = some old) (hold : old.state = .revokePending) :
    ∃ envelope, t.engine.tables.envelopes.find k = some envelope ∧
      envelope.state = .revokePending := by
  obtain ⟨envelope, hfind', -⟩ := binding_step hids hstep hfind
  refine ⟨envelope, hfind', ?_⟩
  obtain hsame | hcommits := same_or_commits hstep
  · rw [hsame, hfind] at hfind'
    cases hfind'
    exact hold
  obtain rfl | ⟨type, hstages, htype⟩ := replaced_step hids hstep hfind hfind'
  · exact hold
  · have hk := Registry.key_of_find hfind'
    rw [← hk] at hfind habsent
    exact (pending_of_stages (hok hcommits) hstages htype hfind hold).resolve_right habsent

end Step

/-- In every run that overrides no pending revocation, an envelope whose revocation is pending
stays so until a section commits a confirmed readback that its entry is gone. -/
theorem pending_until_confirmed (hreachable : Reachable s)
    (hrun : Reaches step
      (fun s action ↦ HonoursIntent s action ∧ ¬ ConfirmsAbsent s action.event k) s t)
    (hfind : s.engine.tables.envelopes.find k = some old) (hold : old.state = .revokePending) :
    ∃ envelope, t.engine.tables.envelopes.find k = some envelope ∧
      envelope.state = .revokePending := by
  have hinv := hrun.invariant
    (I := fun t ↦ IdsAhead t ∧ ∃ envelope, t.engine.tables.envelopes.find k = some envelope ∧
      envelope.state = .revokePending) ⟨hreachable.idsAhead, old, hfind, hold⟩
    fun s action t ⟨hids, stored, hfind, hold⟩ hok hstep ↦
      ⟨idsAhead_step hids hstep, pending_step hids hok.1 hok.2 hstep hfind hold⟩
  exact hinv.2

section Sample

/-- An envelope is opened and its revocation is dispatched. -/
def openSample : List Action := [⟨.openEnvelope sampleRequest actor 5, []⟩]

def revokeAction : Action := ⟨.revoke ⟨1⟩ .none actor 6 {}, []⟩

theorem pending_after_sessionLoss : ∃ s t envelope,
    run step sampleStart (openSample ++ [revokeAction]) = some s ∧
    run step s [⟨.authorize ⟨1⟩ actor 8, []⟩, ⟨.markSessionLost actor, []⟩] = some t ∧
    t.engine.tables.envelopes.find 1 = some envelope ∧ envelope.state = .revokePending := by
  obtain ⟨s, old, hrun, hfind, hold⟩ : ∃ s old,
      run step sampleStart (openSample ++ [revokeAction]) = some s ∧
      s.engine.tables.envelopes.find 1 = some old ∧ decide (old.state = .revokePending) = true :=
    of_observe (by decide +kernel)
  obtain ⟨t, left, hrun', -⟩ : ∃ t left, run step sampleStart ((openSample ++ [revokeAction]) ++
        [⟨.authorize ⟨1⟩ actor 8, []⟩, ⟨.markSessionLost actor, []⟩]) = some t ∧
      t.engine.tables.envelopes.find 1 = some left ∧ true = true :=
    of_observe (by decide +kernel)
  rw [run_append hrun] at hrun'
  have hguarded : Guarded step
      (fun s action ↦ HonoursIntent s action ∧ ¬ ConfirmsAbsent s action.event 1) s
      [⟨.authorize ⟨1⟩ actor 8, []⟩, ⟨.markSessionLost actor, []⟩] := by
    refine ⟨⟨fun _ _ h ↦ (nomatch h), fun h ↦ (nomatch h)⟩, ?_⟩
    split
    · trivial
    · refine ⟨⟨fun _ _ h ↦ (nomatch h), fun h ↦ (nomatch h)⟩, ?_⟩
      split <;> trivial
  obtain ⟨envelope, hfind', hpending⟩ := pending_until_confirmed
    (reachable_of_run fresh_sampleStart hrun) (reaches_of_run hguarded hrun') hfind
    (of_decide_eq_true hold)
  exact ⟨s, t, envelope, hrun, hrun', hfind', hpending⟩

/-- Abandoning the revoke attempt degrades the envelope, with no readback at all. -/
theorem pending_lost_by_abandon : ¬ ∀ r s t k old id reason actor now session io, Reachable r →
    step r ⟨.revoke id reason actor now session, io⟩ = some s → id.value = k →
    s.engine.tables.envelopes.find k = some old → old.state = .revokePending →
    Reaches step (fun s action ↦ ¬ ConfirmsAbsent s action.event k) s t →
    ∃ envelope, t.engine.tables.envelopes.find k = some envelope ∧
      envelope.state = .revokePending := by
  intro h
  obtain ⟨r, opened, hrun, -⟩ : ∃ r opened, run step sampleStart openSample = some r ∧
      r.engine.tables.envelopes.find 1 = some opened ∧ true = true :=
    of_observe (by decide +kernel)
  obtain ⟨s, old, hrevoke, hfind, hold⟩ : ∃ s old,
      run step sampleStart (openSample ++ [revokeAction]) = some s ∧
      s.engine.tables.envelopes.find 1 = some old ∧ decide (old.state = .revokePending) = true :=
    of_observe (by decide +kernel)
  obtain ⟨t, left, habandon, hfind', hleft⟩ : ∃ t left, run step sampleStart
        ((openSample ++ [revokeAction]) ++ [⟨.abandonAttempt ⟨1⟩ .none actor 7, []⟩]) = some t ∧
      t.engine.tables.envelopes.find 1 = some left ∧ decide (left.state = .degraded) = true :=
    of_observe (by decide +kernel)
  rw [run_append hrevoke] at habandon
  rw [run_append hrun, run_singleton] at hrevoke
  have hguarded : Guarded step (fun s action ↦ ¬ ConfirmsAbsent s action.event 1) s
      [⟨.abandonAttempt ⟨1⟩ .none actor 7, []⟩] := by
    refine ⟨fun h ↦ (nomatch h), ?_⟩
    split <;> trivial
  obtain ⟨envelope, hfind'', hpending⟩ := h r s t 1 old ⟨1⟩ .none actor 6 {} []
    (reachable_of_run fresh_sampleStart hrun) hrevoke rfl hfind (of_decide_eq_true hold)
    (reaches_of_run hguarded habandon)
  rw [hfind'] at hfind''
  cases hfind''
  rw [of_decide_eq_true hleft] at hpending
  cases hpending

end Sample

end RateGovernor.Safety.RevocationIntent
