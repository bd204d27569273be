import RateGovernor.Dynamics.Serials
import RateGovernor.Safety.ConfirmedRevokes

namespace RateGovernor.Safety.PendingRevokes

open Model.CheckedMath Model.Identity Model.Reason Model.Entities Model.Envelope
open Model.EngineState Model.JournalWriter Model.Durability Model.Authority Model.Calls
open Model.Lifecycle Model.Completion Model.Revocation Model.Execution Foundation.KeyedTable
open Foundation.GuardedRun Dynamics.Install Dynamics.Sections Dynamics.Staging Dynamics.Turns
open Dynamics.Evolution Dynamics.Halting Dynamics.Attempts Dynamics.Driving Dynamics.Start
open ConfirmedRevokes

variable {s t : System} {call : RevokeCall} {envelope : RateEnvelope} {backend : Backend}
  {engine : Engine} {k : U64} {id : RateEnvelopeId}

/-- The report that comes later, by `complete_revoke`, and what the readback then shows. -/
structure LateReport where
  report : CompletionReport
  actor : ActorContext
  completedNs : U64
  verification : VerificationOutcome
  acknowledging : Io := []
  recording : Io := []

/-- The call up to the answer of the dispatch, with nothing between its sections. -/
def dispatchActions (call : RevokeCall) (i : ℕ) : List Action :=
  [⟨.revoke call.id call.reason call.actor call.dispatchedNs call.session, call.dispatching⟩,
    ⟨.dispatched i call.outcome, []⟩, ⟨.readClock i call.completedNs, []⟩,
    ⟨.finish i, call.acknowledging⟩]

def LateReport.actions (late : LateReport) (k : U64) (i : ℕ) : List Action :=
  [⟨.completeRevoke ⟨k⟩ late.report late.actor, []⟩, ⟨.readClock i late.completedNs, []⟩,
    ⟨.finish i, late.acknowledging⟩, ⟨.readBack i late.verification late.completedNs, []⟩,
    ⟨.publish i late.completedNs, late.recording⟩]

/-- The attempt under the identity is in flight. -/
def LeftInFlight (t : System) (k : U64) : Prop :=
  ∃ attempt, t.engine.tables.attempts.find k = some attempt ∧
    attemptInflight attempt.state = true

section Over

def Over (s : System) (k : U64) : Prop :=
  ∀ attempt, s.engine.tables.attempts.find k = some attempt →
    attemptInflight attempt.state = false ∧ attempt.state ≠ .verified

def Frozen (s : System) (id : RateEnvelopeId) : Prop :=
  Stuck s.engine.config s.engine.durability ∧
    ∃ envelope, s.engine.tables.envelopes.find id.value = some envelope ∧ envelope.state ≠ .revoked

def creating : Event → Bool
  | .apply .. | .revoke .. => true
  | _ => false

theorem creating_of_stages {event : Event} {attempt : EnforcementAttempt}
    (h : Stages s event (.created attempt)) : creating event = true := by
  cases h <;> rfl

theorem over_step {action : Action} (hevent : creating action.event = false) (h : Over s k)
    (hstep : step s action = some t) : Over t k := by
  intro attempt hfind
  have hkey := Registry.key_of_find hfind
  obtain hold | hcreated | ⟨type, hstages⟩ := attempt_step hstep hfind
  · exact h attempt hold
  · rw [creating_of_stages hcreated] at hevent
    cases hevent
  · obtain ⟨old, hfound, hmoves⟩ := moves_of_stages hstages
    rw [hkey] at hfound
    obtain ⟨hdead, -⟩ := h old hfound
    constructor
    · refine Bool.eq_false_iff.2 fun hlive ↦ ?_
      rw [hmoves.live hlive] at hdead
      cases hdead
    · intro hverified
      rw [hmoves.verified hverified] at hdead
      cases hdead

theorem frozen_step {action : Action} (h : Frozen s id) (hstep : step s action = some t) :
    Frozen t id := by
  obtain ⟨hstuck, hfound⟩ := h
  obtain ⟨hstuck', htables⟩ := stuck_step hstuck hstep
  exact ⟨hstuck', by rw [htables]; exact hfound⟩

theorem not_endsRevoked_drive {actions : List Action}
    (hactions : ∀ action ∈ actions, creating action.event = false)
    (h : Over t s.engine.control.nextAttemptId ∨ Frozen t id) :
    ¬ EndsRevoked s id (drive step t actions) := by
  have hrun : Reaches step (fun _ action ↦ creating action.event = false) t
      (drive step t actions) := reaches_drive fun _ ↦ hactions
  have hend : Over (drive step t actions) s.engine.control.nextAttemptId ∨
      Frozen (drive step t actions) id := by
    refine hrun.invariant (I := fun u ↦ Over u s.engine.control.nextAttemptId ∨ Frozen u id) h
      fun _ _ _ hinv hok hstep ↦ ?_
    exact hinv.imp (fun hover ↦ over_step hok hover hstep) fun hfrozen ↦ frozen_step hfrozen hstep
  rintro ⟨attempt, found, hattempt, hverified, hfound, hrevoked⟩
  obtain hover | ⟨-, e, he, hstate⟩ := hend
  · exact (hover attempt hattempt).2 hverified
  · cases he.symm.trans hfound
    exact hstate hrevoked

end Over

section Pending

variable {task : RevokeTask} {updated : RateEnvelope} {next : Call} {io : Io}

theorem over_of_ended {d : Decision (Answer CompletionOutcome)} {attempt : EnforcementAttempt}
    (hd : d.records ≠ []) (hinstalled : (installed engine.config engine.tables d.records).attempts =
      engine.tables.attempts.put attempt) (hid : attempt.id.value = k)
    (hterminal : attemptStateIsTerminal attempt.state = true) (hverified : attempt.state ≠ .verified)
    (hfound : engine.tables.envelopes.find id.value = some updated)
    (hlive : updated.state ≠ .revoked) :
    let decision := resumed (staged s engine next) s.calls.length d
    ((decision.records ≠ [] → (decision.commit (staged s engine next).engine io).status = none) →
        Over (performed (staged s engine next) io decision) k) ∧
      (Over (performed (staged s engine next) io decision) k ∨
        Frozen (performed (staged s engine next) io decision) id) := by
  intro decision
  have hturn := turn_performed (staged s engine next) io decision
  generalize performed (staged s engine next) io decision = w at hturn
  cases hturn with
  | quiet hnone => exact absurd hnone hd
  | failed hrecords hstatus =>
    refine ⟨fun hwritten ↦ ?_, .inr ⟨stuck_of_commit hstatus, updated, hfound, hlive⟩⟩
    rw [hwritten hrecords] at hstatus
    cases hstatus
  | committed =>
    suffices hover : Over _ k from ⟨fun _ ↦ hover, .inl hover⟩
    intro found hfind
    have hput : (engine.tables.attempts.put attempt).find k = some found := hinstalled ▸ hfind
    rw [Registry.find_put, if_pos hid] at hput
    cases hput
    exact ⟨not_inflight_of_terminal hterminal, hverified⟩

/-- The completion of a call the backend has not acknowledged ends its attempt. -/
theorem over_finish {report : CompletionReport} {now : U64}
    (hdispatched : Dispatched s call envelope backend engine)
    (htask : task.envelope.value = call.id.value ∧
      task.attempt.value = s.engine.control.nextAttemptId)
    (hpending : report.acknowledged = false) :
    let decision := resumed (staged s engine next) s.calls.length
      (finishRevoke engine task report now)
    ((decision.records ≠ [] → (decision.commit (staged s engine next).engine io).status = none) →
        Over (performed (staged s engine next) io decision) s.engine.control.nextAttemptId) ∧
      (Over (performed (staged s engine next) io decision) s.engine.control.nextAttemptId ∨
        Frozen (performed (staged s engine next) io decision) call.id) := by
  have hlive : (revokingEnvelope envelope (call.attempt s envelope).reason
      call.dispatchedNs).state ≠ .revoked := nofun
  have henvelope := hdispatched.envelope
  rw [← htask.1] at henvelope
  obtain ⟨hmissing, -⟩ | ⟨hattempt, -⟩ := hdispatched.attempt
  · intro decision
    have hmissing' := hmissing
    rw [← htask.2] at hmissing'
    have hnone : decision.records = [] := by
      simp only [decision, finish_missing hmissing']
      rfl
    suffices hover : Over (performed (staged s engine next) io decision) _ from
      ⟨fun _ ↦ hover, .inl hover⟩
    have hsettled := @performed_settled (staged s engine next) io decision fun h ↦ absurd hnone h
    intro found hfind
    rw [hsettled.tables, hnone] at hfind
    cases hmissing.symm.trans hfind
  · rw [← htask.2] at hattempt
    obtain ⟨⟨reason, hfinish⟩, -⟩ | ⟨hfinish, -⟩ :=
      @finish_created _ call envelope _ _ _ report now hattempt henvelope
    · rw [hfinish]
      exact over_of_ended (List.cons_ne_nil _ _) rfl rfl rfl nofun hdispatched.envelope hlive
    · have hrefused : (acceptRevoke engine task (revokingEnvelope envelope
          (call.attempt s envelope).reason call.dispatchedNs) (call.attempt s envelope) report
            now).records = [.attempt .attemptTerminated
              (refusedRevokeAttempt (call.attempt s envelope) report now),
            .envelope .envelopeStateChange (refusedRevokeEnvelope (revokingEnvelope envelope
              (call.attempt s envelope).reason call.dispatchedNs) report now)] := by
        rw [acceptRevoke, hpending]
        rfl
      obtain ⟨hterminal, hverified⟩ := refusedState_terminal report
      rw [hfinish]
      exact over_of_ended (by rw [hrefused]; exact List.cons_ne_nil _ _)
        (by rw [hrefused]; rfl) rfl hterminal hverified hdispatched.envelope hlive

theorem over_dispatch (h : Callable s call envelope backend)
    (hpending : call.outcome.status = .pending) :
    (Recorded s (dispatchActions call s.calls.length) →
        Over (drive step s (dispatchActions call s.calls.length))
          s.engine.control.nextAttemptId) ∧
      (Over (drive step s (dispatchActions call s.calls.length))
          s.engine.control.nextAttemptId ∨
        Frozen (drive step s (dispatchActions call s.calls.length)) call.id) := by
  have hsection := section_started h
  have hne : (call.started s envelope backend).records ≠ [] := List.cons_ne_nil _ _
  rw [dispatchActions, drive_section hsection, recorded_section hsection]
  simp only
  by_cases hwrite : ((call.started s envelope backend).commit s.engine call.dispatching).status =
      none
  · have hsettled := @performed_settled s call.dispatching _ fun _ ↦ hwrite
    rw [and_iff_right fun _ ↦ hwrite]
    generalize performed s call.dispatching (call.started s envelope backend) = t at hsettled
    obtain ⟨hdispatched, task, htask, hid, hcalls⟩ := dispatched_of_settled h hsettled
    obtain ⟨hdrive, hrecorded⟩ := drive_moved ⟨.dispatched s.calls.length call.outcome, []⟩
      [⟨.readClock s.calls.length call.completedNs, []⟩,
        ⟨.finish s.calls.length, call.acknowledging⟩]
      (.revokeReported task (revokeReport call.outcome)) hcalls (by
        simp only [sectionOf, hcalls, find_last, Option.bind_eq_bind, Option.bind_some,
          onDispatched])
    have hreported : (staged s t.engine (.revokeReported task (revokeReport call.outcome))).calls =
        s.calls ++ [.revokeReported task (revokeReport call.outcome)] := rfl
    obtain ⟨hdrive', hrecorded'⟩ := drive_moved
      ⟨.readClock s.calls.length call.completedNs, []⟩
      [⟨.finish s.calls.length, call.acknowledging⟩]
      (.revokeFinishing task (revokeReport call.outcome) call.completedNs) hreported (by
        simp only [sectionOf, hreported, find_last, Option.bind_eq_bind, Option.bind_some,
          onReadClock])
    have hfinish : sectionOf (staged s t.engine
        (.revokeFinishing task (revokeReport call.outcome) call.completedNs))
        (.finish s.calls.length) = some (resumed (staged s t.engine
          (.revokeFinishing task (revokeReport call.outcome) call.completedNs)) s.calls.length
          (finishRevoke t.engine task (revokeReport call.outcome) call.completedNs)) := by
      simp only [sectionOf, staged, find_last, Option.bind_eq_bind, Option.bind_some, onFinish]
    have hacknowledged : (revokeReport call.outcome).acknowledged = false := by
      simp only [revokeReport, hpending]
      rfl
    obtain ⟨hover, hend⟩ := @over_finish _ _ _ _ _ task
      (.revokeFinishing task (revokeReport call.outcome) call.completedNs) call.acknowledging
      (revokeReport call.outcome) call.completedNs hdispatched ⟨htask, hid⟩ hacknowledged
    have hlast : drive step t [⟨.dispatched s.calls.length call.outcome, []⟩,
        ⟨.readClock s.calls.length call.completedNs, []⟩,
        ⟨.finish s.calls.length, call.acknowledging⟩] = performed (staged s t.engine
          (.revokeFinishing task (revokeReport call.outcome) call.completedNs)) call.acknowledging
          (resumed (staged s t.engine (.revokeFinishing task (revokeReport call.outcome)
            call.completedNs)) s.calls.length
            (finishRevoke t.engine task (revokeReport call.outcome) call.completedNs)) :=
      hdrive.trans (hdrive'.trans (drive_section hfinish))
    rw [hlast]
    refine ⟨fun hall ↦ hover ?_, hend⟩
    exact ((recorded_section hfinish).1 (hrecorded'.1 (hrecorded.1 hall))).1
  · refine ⟨fun hall ↦ absurd (hall.1 hne) hwrite, .inr ?_⟩
    have hturn := turn_performed s call.dispatching (call.started s envelope backend)
    generalize performed s call.dispatching (call.started s envelope backend) = t at hturn
    cases hturn with
    | quiet hnone => exact absurd hnone hne
    | committed _ hstatus => exact absurd hstatus hwrite
    | failed _ hstatus =>
      rw [drive_idle]
      · exact ⟨stuck_of_commit hstatus, envelope, h.found, h.live⟩
      · intro action haction
        refine step_disabled (not_enabled_of_past ?_
          (Nat.le_of_eq (congrArg List.length (List.append_nil s.calls))))
        simp only [List.mem_cons, List.not_mem_nil, or_false] at haction
        obtain rfl | rfl | rfl := haction
        · exact .inl rfl
        · exact .inl rfl
        · exact .inr rfl

/-- A revoke whose dispatch is answered with pending is never verified by its later completion, and
its attempt is not left in flight once the answer has been recorded. -/
theorem pending_never_completes (h : Callable s call envelope backend)
    (hpending : call.outcome.status = .pending) (late : LateReport) :
    ¬ EndsRevoked s call.id
        (drive step (drive step s (dispatchActions call s.calls.length))
          (late.actions s.engine.control.nextAttemptId s.calls.length)) ∧
      (Recorded s (dispatchActions call s.calls.length) →
        ¬ LeftInFlight (drive step s (dispatchActions call s.calls.length))
          s.engine.control.nextAttemptId) := by
  obtain ⟨hover, hend⟩ := over_dispatch h hpending
  constructor
  · refine not_endsRevoked_drive ?_ hend
    intro action haction
    simp only [LateReport.actions, List.mem_cons, List.not_mem_nil, or_false] at haction
    obtain rfl | rfl | rfl | rfl | rfl := haction <;> rfl
  · rintro hrecorded ⟨attempt, hfind, hlive⟩
    rw [(hover hrecorded attempt hfind).1] at hlive
    cases hlive

end Pending

section Sample

/-- The sample revoke, answered asynchronously. -/
def pendingCall : RevokeCall :=
  { sampleCall ⟨1⟩ with outcome := { status := .pending, epoch := ⟨1⟩, boot := ⟨1⟩ } }

def lateSample : LateReport where
  report := { status := .completed, acknowledged := true, epoch := ⟨1⟩, boot := ⟨1⟩ }
  actor := actor
  completedNs := 12
  verification := sampleAbsent

theorem callable_pendingCall : ∃ envelope backend,
    Callable sampleApplied pendingCall envelope backend := by
  obtain ⟨envelope, backend, hrevocable, -⟩ := of_revocable (P := fun _ ↦ true)
    (show revocable sampleApplied (sampleCall ⟨1⟩) _ = true by decide +kernel)
  exact ⟨envelope, backend, { hrevocable.toRevokeAdmitted with
    actor := hrevocable.actor
    session := hrevocable.session }⟩

theorem pending_never_completes_sample : ¬ LeftInFlight
    (drive step sampleApplied (dispatchActions pendingCall sampleApplied.calls.length))
    sampleApplied.engine.control.nextAttemptId := by
  obtain ⟨envelope, backend, hcallable⟩ := callable_pendingCall
  exact (pending_never_completes hcallable rfl lateSample).2
    (recorded_of_none (by decide +kernel))

/-- Neither half of the asynchronous protocol is kept. -/
theorem pending_revoke_lost : ¬ ∀ s call envelope backend (late : LateReport), Reachable s →
    Callable s call envelope backend → call.outcome.status = .pending →
    late.report.acknowledged = true → late.report.status = .completed →
    late.report.boot = (call.attempt s envelope).boot → checkActor s.engine late.actor = none →
    late.verification.status = .confirmed → late.verification.observedPresent = false →
    LeftInFlight (drive step s (dispatchActions call s.calls.length))
        s.engine.control.nextAttemptId ∧
      EndsRevoked s call.id (drive step (drive step s (dispatchActions call s.calls.length))
        (late.actions s.engine.control.nextAttemptId s.calls.length)) := by
  intro h
  obtain ⟨envelope, backend, hcallable⟩ := callable_pendingCall
  obtain ⟨⟨attempt, hfind, hlive⟩, -⟩ := h sampleApplied pendingCall envelope backend lateSample
    ⟨sampleStart, fresh_sampleStart, reaches_drive fun _ _ _ ↦ trivial⟩ hcallable rfl rfl rfl rfl
    (by decide +kernel) rfl rfl
  have hfailed : ((drive step sampleApplied (dispatchActions pendingCall
      sampleApplied.calls.length)).engine.tables.attempts.find
        sampleApplied.engine.control.nextAttemptId).map (·.state) = some .failed := by
    decide +kernel
  rw [hfind, Option.map_some] at hfailed
  rw [Option.some.inj hfailed] at hlive
  cases hlive

end Sample

end RateGovernor.Safety.PendingRevokes
