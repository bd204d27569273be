import RateGovernor.Dynamics.Driving
import RateGovernor.Dynamics.Shelving
import RateGovernor.Dynamics.Start

namespace RateGovernor.Safety.ConfirmedRevokes

open Model.CheckedMath Model.Identity Model.Reason Model.Entities Model.Envelope
open Model.EngineState Model.JournalWriter Model.Durability Model.Authority Model.Calls
open Model.Lifecycle Model.Completion Model.Revocation Model.Execution Foundation.KeyedTable
open Foundation.GuardedRun Dynamics.Install Dynamics.Sections Dynamics.Staging Dynamics.Turns
open Dynamics.Driving Dynamics.Shelving Dynamics.Start

/-- A call of `revoke`, with all that it is told from outside while it runs. -/
structure RevokeCall where
  id : RateEnvelopeId
  reason : ReasonCode
  actor : ActorContext
  session : Session
  dispatchedNs : U64
  outcome : DispatchOutcome
  completedNs : U64
  verification : VerificationOutcome
  dispatching : Io := []
  acknowledging : Io := []
  recording : Io := []

/-- The sections of the call once it has dispatched, as the `i`-th of those outstanding. -/
def RevokeCall.completion (call : RevokeCall) (i : ℕ) : List Action :=
  [⟨.finish i, call.acknowledging⟩, ⟨.readBack i call.verification call.completedNs, []⟩,
    ⟨.publish i call.completedNs, call.recording⟩]

/-- The whole call, with nothing between its sections. -/
def RevokeCall.actions (call : RevokeCall) (i : ℕ) : List Action :=
  [⟨.revoke call.id call.reason call.actor call.dispatchedNs call.session, call.dispatching⟩,
    ⟨.dispatched i call.outcome, []⟩, ⟨.readClock i call.completedNs, []⟩] ++ call.completion i

variable {s : System} {call : RevokeCall} {envelope : RateEnvelope} {backend : Backend}

/-- The attempt a call of `revoke` creates. -/
def RevokeCall.attempt (call : RevokeCall) (s : System) (envelope : RateEnvelope) :
    EnforcementAttempt :=
  revokeAttempt s.engine envelope call.reason call.session.boot call.dispatchedNs

/-- A live backend is bound, the envelope may be revoked and the actor is admitted. -/
structure Callable (s : System) (call : RevokeCall) (envelope : RateEnvelope)
    (backend : Backend) : Prop extends RevokeAdmitted s call.id envelope backend where
  actor : checkActor s.engine call.actor = none
  session : call.session.live = true

/-- The backend answers for the attempt's incarnation that it has removed the effect, and then
shows none. -/
structure Revocable (s : System) (call : RevokeCall) (envelope : RateEnvelope)
    (backend : Backend) : Prop extends Callable s call envelope backend where
  completed : call.outcome.status = .completed
  boot : call.outcome.boot = (call.attempt s envelope).boot
  epoch : call.outcome.epoch = s.engine.tables.epoch
  confirmed : call.verification.status = .confirmed
  absent : call.verification.observedPresent = false

/-- The attempt of the call has been verified, and its envelope is revoked. -/
def EndsRevoked (s : System) (id : RateEnvelopeId) (t : System) : Prop :=
  ∃ attempt envelope,
    t.engine.tables.attempts.find s.engine.control.nextAttemptId = some attempt ∧
    attempt.state = .verified ∧ t.engine.tables.envelopes.find id.value = some envelope ∧
    envelope.state = .revoked

/-- The stored plan carries no epoch or the current one. -/
def PlanCurrent (s : System) (envelope : RateEnvelope) : Prop :=
  envelope.hasPlan = true → envelope.plan.fingerprint.epoch.valid = true →
    envelope.plan.fingerprint.epoch = s.engine.tables.epoch

/-- The limits on stored attempts leave room for the newest one. -/
def Retained (s : System) (attempt : EnforcementAttempt) : Prop :=
  (s.engine.tables.retainAttempt s.engine.config attempt).attempts.find attempt.id.value ≠ none

theorem not_endsRevoked {t : System} {id : RateEnvelopeId} {e : RateEnvelope}
    (hfind : t.engine.tables.envelopes.find id.value = some e) (hstate : e.state ≠ .revoked) :
    ¬ EndsRevoked s id t := by
  rintro ⟨attempt, e', -, -, hfind', hrevoked⟩
  cases hfind.symm.trans hfind'
  exact hstate hrevoked

section Retention

end Retention

section Dispatch

def RevokeCall.started (call : RevokeCall) (s : System) (envelope : RateEnvelope)
    (backend : Backend) : Section :=
  begun s (dispatchRevoke s.engine envelope call.reason backend call.session call.dispatchedNs)

theorem section_started (h : Callable s call envelope backend) :
    sectionOf s (.revoke call.id call.reason call.actor call.dispatchedNs call.session) =
      some (call.started s envelope backend) := by
  simp only [sectionOf, RevokeCall.started]
  rw [Model.Revocation.revoke]
  simp only [h.running, h.actor, h.found, h.live, h.idle, h.bound, h.admitted, h.session,
    Bool.false_eq_true, if_false, Bool.not_true]

/-- A dispatched call: its attempt is stored unless the limits dropped it, and its envelope waits
for the revoke. -/
structure Dispatched (s : System) (call : RevokeCall) (envelope : RateEnvelope)
    (backend : Backend) (engine : Engine) : Prop where
  bound : engine.control.backend = some backend
  epoch : engine.tables.epoch = s.engine.tables.epoch
  config : engine.config = s.engine.config
  attempt : engine.tables.attempts.find s.engine.control.nextAttemptId = none ∧
      ¬ Retained s (call.attempt s envelope) ∨
    engine.tables.attempts.find s.engine.control.nextAttemptId =
      some (call.attempt s envelope) ∧ Retained s (call.attempt s envelope)
  envelope : engine.tables.envelopes.find call.id.value =
    some (revokingEnvelope envelope (call.attempt s envelope).reason call.dispatchedNs)

theorem retained_find (config : EngineConfig) (tables : Tables) (attempt : EnforcementAttempt) :
    (tables.retainAttempt config attempt).attempts.find attempt.id.value = none ∨
      (tables.retainAttempt config attempt).attempts.find attempt.id.value = some attempt := by
  cases hfind : (tables.retainAttempt config attempt).attempts.find attempt.id.value with
  | none => exact .inl rfl
  | some found =>
    have hput : (tables.attempts.put attempt).find attempt.id.value = some found :=
      find_retain hfind
    rw [Registry.find_put, if_pos rfl] at hput
    exact .inr (by rw [hput])

theorem dispatched_of_settled {t : System} (h : Callable s call envelope backend)
    (ht : Settled s (call.started s envelope backend) t) :
    Dispatched s call envelope backend t.engine ∧ ∃ task : RevokeTask,
      task.envelope.value = call.id.value ∧
      task.attempt.value = s.engine.control.nextAttemptId ∧
      t.calls = s.calls ++ [.revoking task backend] := by
  have hkey := Registry.key_of_find h.found
  have htables : t.engine.tables = { s.engine.tables.retainAttempt s.engine.config
      (call.attempt s envelope) with
      envelopes := (s.engine.tables.retainAttempt s.engine.config
        (call.attempt s envelope)).envelopes.put (revokingEnvelope envelope
          (call.attempt s envelope).reason call.dispatchedNs) } := ht.tables
  obtain ⟨attempts, order, lists, hretain, -⟩ :=
    retainAttempt_tables s.engine.config s.engine.tables (call.attempt s envelope)
  refine ⟨⟨?_, ?_, ht.config, ?_, ?_⟩, dispatchedRevoke s envelope call.reason call.session.boot
    call.dispatchedNs, hkey, rfl, ht.calls⟩
  · rw [ht.control]
    exact h.bound
  · rw [htables, hretain]
  · rw [htables]
    obtain hnone | hsome := retained_find s.engine.config s.engine.tables (call.attempt s envelope)
    · exact .inl ⟨hnone, fun hretained ↦ hretained hnone⟩
    · exact .inr ⟨hsome, fun hnone ↦ nomatch hsome.symm.trans hnone⟩
  · rw [htables, ← hkey]
    exact Registry.find_put_self _ _

end Dispatch

section Completion

variable {engine : Engine} {task : RevokeTask}

def staged (s : System) (engine : Engine) (next : Call) : System :=
  { engine, calls := s.calls ++ [next] }

variable (call) in
/-- The completion compares the epoch of the plan, not the one the attempt was dispatched in. -/
theorem planCurrent_iff (hengine : engine.tables.epoch = s.engine.tables.epoch) :
    ((call.attempt s envelope).fingerprint.epoch.valid &&
      (call.attempt s envelope).fingerprint.epoch ≠ engine.tables.epoch) = true ↔
        ¬ PlanCurrent s envelope := by
  have hfingerprint : (call.attempt s envelope).fingerprint =
      if envelope.hasPlan then envelope.plan.fingerprint else {} := rfl
  rw [hfingerprint, hengine, PlanCurrent]
  cases envelope.hasPlan with
  | false => exact iff_of_false nofun (not_not.2 nofun)
  | true =>
    simp only [if_true, forall_const, Bool.and_eq_true, decide_eq_true_eq, ne_eq, Classical.not_imp]

theorem unfenced (h : Revocable s call envelope backend) :
    fencingBoot (call.attempt s envelope) (revokeReport call.outcome) = false := by
  have hboot : (revokeReport call.outcome).boot = (call.attempt s envelope).boot := h.boot
  simp only [fencingBoot, hboot, ne_eq, not_true, decide_false, Bool.and_false]

theorem finish_missing (hmissing : engine.tables.attempts.find task.attempt.value = none)
    (report : CompletionReport) (now : U64) :
    finishRevoke engine task report now = refuse engine.control unknownAttemptOrEnvelope := by
  unfold finishRevoke
  simp only [hmissing]

variable {updated : RateEnvelope}

theorem finish_created {report : CompletionReport} {now : U64}
    (hattempt : engine.tables.attempts.find task.attempt.value = some (call.attempt s envelope))
    (henvelope : engine.tables.envelopes.find task.envelope.value = some updated) :
    (∃ reason, finishRevoke engine task report now =
        rejectLateRevoke engine { attempt := task.attempt, resultingState := updated.state }
          (call.attempt s envelope) reason
          (ascii "revoke completion arrived after the attempt stopped being in flight") now) ∧
        (fencingBoot (call.attempt s envelope) report ||
          (call.attempt s envelope).fingerprint.epoch.valid &&
            (call.attempt s envelope).fingerprint.epoch ≠ engine.tables.epoch) = true ∨
      finishRevoke engine task report now =
          acceptRevoke engine task updated (call.attempt s envelope) report now ∧
        (fencingBoot (call.attempt s envelope) report ||
          (call.attempt s envelope).fingerprint.epoch.valid &&
            (call.attempt s envelope).fingerprint.epoch ≠ engine.tables.epoch) = false := by
  have hkind : (call.attempt s envelope).kind = .revoke := rfl
  have hstate : (call.attempt s envelope).state = .created := rfl
  unfold finishRevoke
  simp only [hattempt, henvelope, hkind, hstate]
  cases fencingBoot (call.attempt s envelope) report <;>
    cases (call.attempt s envelope).fingerprint.epoch.valid &&
      (call.attempt s envelope).fingerprint.epoch ≠ engine.tables.epoch
  · exact .inr ⟨rfl, rfl⟩
  · exact .inl ⟨⟨_, rfl⟩, rfl⟩
  · exact .inl ⟨⟨_, rfl⟩, rfl⟩
  · exact .inl ⟨⟨_, rfl⟩, rfl⟩

theorem closed_performed {α : Type} {next : Call} {io : Io} {d : Decision (Answer α)}
    (hnext : ∀ status, (d.reply status).2 = none) (hrecords : ∀ r ∈ d.records, envelope? r = none) :
    (performed (staged s engine next) io (resumed (staged s engine next) s.calls.length d)).calls =
        s.calls ∧
      (performed (staged s engine next) io
        (resumed (staged s engine next) s.calls.length d)).engine.tables.envelopes =
          engine.tables.envelopes := by
  have hcalls (status : Status) :
      (resumed (staged s engine next) s.calls.length d).reply status = s.calls := by
    simp only [resumed, Decision.map, hnext, staged, replace_last, Option.toList_none,
      List.append_nil]
  have hturn := turn_performed (staged s engine next) io
    (resumed (staged s engine next) s.calls.length d)
  generalize performed (staged s engine next) io
    (resumed (staged s engine next) s.calls.length d) = w at hturn
  cases hturn with
  | quiet => exact ⟨hcalls none, rfl⟩
  | failed => exact ⟨hcalls _, rfl⟩
  | committed =>
    obtain ⟨-, -, -, -, -, -, henvelopes⟩ := @installed_registries engine.config engine.tables
      (resumed (staged s engine next) s.calls.length d).records
    exact ⟨hcalls none, henvelopes.trans (Registry.putAll_of_none hrecords)⟩

theorem not_ended_of_closed {w : System} {actions : List Action} {id : RateEnvelopeId}
    (hactions : ∀ action ∈ actions, siteOf action.event = .waiting s.calls.length ∨
      siteOf action.event = .resuming s.calls.length)
    (hcalls : w.calls = s.calls) (hfind : w.engine.tables.envelopes.find id.value = some updated)
    (hstate : updated.state ≠ .revoked) : ¬ EndsRevoked s id (drive step w actions) := by
  have hidle : drive step w actions = w := drive_idle fun action haction ↦ step_disabled
    (not_enabled_of_past (hactions action haction) (Nat.le_of_eq (by rw [hcalls])))
  rw [hidle]
  exact not_endsRevoked hfind hstate

theorem judged_verified {attempt : EnforcementAttempt} {verification : VerificationOutcome}
    {now : U64} {detail : Text} (h : revokeConfirmed verification = true) :
    (withDetail (judgedRevokeAttempt attempt verification now) detail).state = .verified := by
  unfold withDetail judgedRevokeAttempt
  simp only [h, if_true]

theorem judged_id {attempt : EnforcementAttempt} {verification : VerificationOutcome}
    {now : U64} {detail : Text} :
    (withDetail (judgedRevokeAttempt attempt verification now) detail).id = attempt.id := by
  unfold withDetail judgedRevokeAttempt
  simp only
  split <;> rfl

theorem judged_envelope_id {reason : ReasonCode} {verification : VerificationOutcome} {now : U64} :
    (judgedRevokeEnvelope updated reason verification now).id = updated.id := by
  unfold judgedRevokeEnvelope
  simp only
  split <;> rfl

theorem judged_revoked {reason : ReasonCode} {verification : VerificationOutcome} {now : U64}
    (h : revokeConfirmed verification = true) :
    (judgedRevokeEnvelope updated reason verification now).state = .revoked := by
  unfold judgedRevokeEnvelope
  simp only [h, if_true]

theorem publication_iff {w : System} {seen : EnvelopeState} {attempt : EnforcementAttempt}
    (h : Revocable s call envelope backend) (hcalls : w.calls = s.calls ++
      [.revokePublishing task call.completedNs (some backend) call.verification seen])
    (htask : task.envelope.value = call.id.value ∧
      task.attempt.value = s.engine.control.nextAttemptId)
    (hattempt : w.engine.tables.attempts.find task.attempt.value = some attempt)
    (hstate : attempt.state = .acknowledged)
    (henvelope : w.engine.tables.envelopes.find task.envelope.value = some updated)
    (hlive : updated.state ≠ .revoked) :
    EndsRevoked s call.id
        (drive step w [⟨.publish s.calls.length call.completedNs, call.recording⟩]) ↔
      Recorded w [⟨.publish s.calls.length call.completedNs, call.recording⟩] := by
  have hconfirmed : revokeConfirmed call.verification = true := by
    rw [revokeConfirmed, h.confirmed, h.absent]
    rfl
  have hsection : sectionOf w (.publish s.calls.length call.completedNs) =
      some (resumed w s.calls.length
        (publishRevoke w.engine task call.completedNs call.verification seen)) := by
    simp only [sectionOf, hcalls, find_last, Option.bind_eq_bind, Option.bind_some, onPublish]
  have hrecords : (publishRevoke w.engine task call.completedNs call.verification seen).records =
      [.attempt .attemptVerified (withDetail
          (judgedRevokeAttempt attempt call.verification call.completedNs)
          call.verification.detail),
        .envelope .envelopeEffectRecorded (judgedRevokeEnvelope updated
          (judgedRevokeAttempt attempt call.verification call.completedNs).reason
          call.verification call.completedNs)] := by
    unfold publishRevoke
    simp only [hattempt, henvelope, hstate, ne_eq, not_true, if_false]
    rfl
  have hne : (publishRevoke w.engine task call.completedNs call.verification seen).records ≠ [] := by
    rw [hrecords]
    exact List.cons_ne_nil _ _
  rw [drive_section hsection, recorded_section hsection]
  simp only [Recorded, and_true]
  by_cases hwrite : ((resumed w s.calls.length
      (publishRevoke w.engine task call.completedNs call.verification seen)).commit w.engine
        call.recording).status = none
  · have hsettled := @performed_settled w call.recording _ fun _ ↦ hwrite
    have htables := hsettled.tables
    have hjournal : (resumed w s.calls.length
        (publishRevoke w.engine task call.completedNs call.verification seen)).records = _ :=
      hrecords
    rw [hjournal] at htables
    have hattemptKey := Registry.key_of_find hattempt
    have henvelopeKey := Registry.key_of_find henvelope
    refine iff_of_true ?_ fun _ ↦ hwrite
    refine ⟨withDetail (judgedRevokeAttempt attempt call.verification call.completedNs)
      call.verification.detail, judgedRevokeEnvelope updated
      (judgedRevokeAttempt attempt call.verification call.completedNs).reason call.verification
      call.completedNs, ?_, judged_verified hconfirmed, ?_, judged_revoked hconfirmed⟩
    · rw [drive, htables, ← htask.2, ← hattemptKey]
      exact (Registry.find_put _ _ _).trans (if_pos (by rw [judged_id]))
    · rw [drive, htables, ← htask.1, ← henvelopeKey]
      exact (Registry.find_put _ _ _).trans (if_pos (by rw [judged_envelope_id]))
  · have hrefused := performed_refused hne hwrite
    refine iff_of_false (not_endsRevoked ?_ hlive) fun hall ↦ hwrite (hall hne)
    rw [drive, hrefused.tables, ← htask.1]
    exact henvelope

variable (task updated) in
theorem accept_spec (h : Revocable s call envelope backend)
    (hbound : engine.control.backend = some backend) :
    let acknowledged := acknowledgedRevoke (call.attempt s envelope) (revokeReport call.outcome)
      call.completedNs
    let d := acceptRevoke engine task updated (call.attempt s envelope)
      (revokeReport call.outcome) call.completedNs
    d.records = [.attempt .attemptAcknowledged acknowledged] ∧
      (∀ error, (d.reply (some error)).2 = none) ∧
      ∃ probe, (d.reply none).2 = some (.revokeVerifying task call.completedNs probe
        (some backend) updated.state) := by
  have hacknowledged : (revokeReport call.outcome).acknowledged = true := by
    simp only [revokeReport, h.completed, decide_true]
  simp only [acceptRevoke, hacknowledged, Bool.not_true, Bool.false_eq_true, if_false, hbound]
  exact ⟨rfl, fun _ ↦ rfl, _, rfl⟩

/-- From the acknowledgement on, the call ends with the envelope revoked exactly when the journal
takes its two transactions. -/
theorem acknowledgement_iff {next : Call} (h : Revocable s call envelope backend)
    (hbound : engine.control.backend = some backend)
    (htask : task.envelope.value = call.id.value ∧
      task.attempt.value = s.engine.control.nextAttemptId)
    (henvelope : engine.tables.envelopes.find task.envelope.value = some updated)
    (hlive : updated.state ≠ .revoked)
    (hsection : sectionOf (staged s engine next) (.finish s.calls.length) =
      some (resumed (staged s engine next) s.calls.length
        (acceptRevoke engine task updated (call.attempt s envelope) (revokeReport call.outcome)
          call.completedNs))) :
    EndsRevoked s call.id (drive step (staged s engine next) (call.completion s.calls.length)) ↔
      Recorded (staged s engine next) (call.completion s.calls.length) := by
  obtain ⟨hrecords, hfail, probe, hnext⟩ := accept_spec task updated h hbound
  generalize acceptRevoke engine task updated (call.attempt s envelope)
    (revokeReport call.outcome) call.completedNs = d at hsection hrecords hfail hnext
  have hne : (resumed (staged s engine next) s.calls.length d).records ≠ [] := by
    intro hnone
    rw [show (resumed (staged s engine next) s.calls.length d).records = d.records from rfl,
      hrecords] at hnone
    cases hnone
  rw [RevokeCall.completion, drive_section hsection, recorded_section hsection]
  simp only
  by_cases hwrite : ((resumed (staged s engine next) s.calls.length d).commit
      (staged s engine next).engine call.acknowledging).status = none
  · have hsettled := @performed_settled _ call.acknowledging _ fun _ ↦ hwrite
    rw [and_iff_right fun _ ↦ hwrite]
    generalize performed (staged s engine next) call.acknowledging
      (resumed (staged s engine next) s.calls.length d) = w at hsettled
    have hcalls : w.calls = s.calls ++
        [.revokeVerifying task call.completedNs probe (some backend) updated.state] := by
      rw [hsettled.calls]
      simp only [resumed, Decision.map, hnext, staged, replace_last, Option.toList_some]
    have htables : w.engine.tables = installed engine.config engine.tables d.records :=
      hsettled.tables
    rw [hrecords] at htables
    have hmoved := drive_moved ⟨.readBack s.calls.length call.verification call.completedNs, []⟩
      [⟨.publish s.calls.length call.completedNs, call.recording⟩]
      (.revokePublishing task call.completedNs (some backend) call.verification updated.state)
      hcalls (by
        simp only [sectionOf, hcalls, find_last, Option.bind_eq_bind, Option.bind_some, onReadBack]
        rfl)
    have hattempt : w.engine.tables.attempts.find task.attempt.value =
        some (acknowledgedRevoke (call.attempt s envelope) (revokeReport call.outcome)
          call.completedNs) := by
      rw [htables, htask.2]
      exact Registry.find_put_self _ _
    have hkept : w.engine.tables.envelopes.find task.envelope.value = some updated := by
      rw [htables]
      exact henvelope
    rw [hmoved.1, hmoved.2]
    exact publication_iff h rfl htask hattempt rfl hkept hlive
  · have hrefused := performed_refused hne hwrite
    refine iff_of_false ?_ fun hall ↦ hwrite (hall.1 hne)
    obtain ⟨error, hcalls⟩ := hrefused.calls
    rw [htask.1] at henvelope
    refine not_ended_of_closed ?_ ?_ (by rw [hrefused.tables]; exact henvelope) hlive
    · intro action haction
      obtain rfl | haction := List.mem_cons.1 haction
      · exact .inl rfl
      · rw [List.mem_singleton.1 haction]
        exact .inr rfl
    · rw [hcalls]
      simp only [resumed, Decision.map, hfail, staged, replace_last, Option.toList_none,
        List.append_nil]

/-- The completion of a dispatched call revokes the envelope exactly when the attempt was kept, the
plan is of the current epoch and the journal takes what is recorded. -/
theorem completion_iff (h : Revocable s call envelope backend)
    (hdispatched : Dispatched s call envelope backend engine)
    (htask : task.envelope.value = call.id.value ∧
      task.attempt.value = s.engine.control.nextAttemptId) :
    EndsRevoked s call.id (drive step (staged s engine
        (.revokeFinishing task (revokeReport call.outcome) call.completedNs))
        (call.completion s.calls.length)) ↔
      PlanCurrent s envelope ∧ Retained s (call.attempt s envelope) ∧
        Recorded (staged s engine
          (.revokeFinishing task (revokeReport call.outcome) call.completedNs))
          (call.completion s.calls.length) := by
  have hlive : (revokingEnvelope envelope (call.attempt s envelope).reason
      call.dispatchedNs).state ≠ .revoked := by
    intro hrevoked
    cases hrevoked
  have henvelope := hdispatched.envelope
  rw [← htask.1] at henvelope
  have hsection : sectionOf (staged s engine
      (.revokeFinishing task (revokeReport call.outcome) call.completedNs))
      (.finish s.calls.length) =
        some (resumed (staged s engine
          (.revokeFinishing task (revokeReport call.outcome) call.completedNs)) s.calls.length
          (finishRevoke engine task (revokeReport call.outcome) call.completedNs)) := by
    simp only [sectionOf, staged, find_last, Option.bind_eq_bind, Option.bind_some, onFinish]
  -- A section that ends the call early leaves the envelope waiting for the revoke.
  have closed (d : Decision (Answer CompletionOutcome))
      (hd : finishRevoke engine task (revokeReport call.outcome) call.completedNs = d)
      (hnext : ∀ status, (d.reply status).2 = none)
      (hrecords : ∀ r ∈ d.records, envelope? r = none) :
      ¬ EndsRevoked s call.id (drive step (staged s engine
        (.revokeFinishing task (revokeReport call.outcome) call.completedNs))
        (call.completion s.calls.length)) := by
    rw [hd] at hsection
    obtain ⟨hcalls, henvelopes⟩ := @closed_performed s engine _
      (.revokeFinishing task (revokeReport call.outcome) call.completedNs) call.acknowledging d
      hnext hrecords
    rw [RevokeCall.completion, drive_section hsection]
    refine not_ended_of_closed ?_ hcalls (by rw [henvelopes]; exact hdispatched.envelope) hlive
    intro action haction
    obtain rfl | haction := List.mem_cons.1 haction
    · exact .inl rfl
    · rw [List.mem_singleton.1 haction]
      exact .inr rfl
  obtain ⟨hmissing, hlost⟩ | ⟨hattempt, hkept⟩ := hdispatched.attempt
  · rw [← htask.2] at hmissing
    refine iff_of_false ?_ fun hall ↦ hlost hall.2.1
    refine closed _ (finish_missing hmissing _ _) (fun status ↦ rfl) fun r hr ↦ ?_
    cases hr
  · rw [← htask.2] at hattempt
    have hfence := @planCurrent_iff _ call envelope _ hdispatched.epoch
    obtain ⟨⟨reason, hfinish⟩, hfenced⟩ | ⟨hfinish, hunfenced⟩ :=
      @finish_created _ call envelope _ _ _ (revokeReport call.outcome) call.completedNs hattempt
        henvelope
    · rw [unfenced h, Bool.false_or, hfence] at hfenced
      refine iff_of_false ?_ fun hall ↦ hfenced hall.1
      refine closed _ hfinish (fun status ↦ by cases status <;> rfl) fun r hr ↦ ?_
      rw [List.mem_singleton.1 hr]
      rfl
    · rw [unfenced h, Bool.false_or, ← Bool.not_eq_true, hfence, not_not] at hunfenced
      rw [hfinish] at hsection
      rw [and_iff_right hunfenced, and_iff_right hkept]
      exact acknowledgement_iff h hdispatched.bound htask henvelope hlive hsection

/-- A revoke that the backend has confirmed is recorded exactly when the stored plan is of no epoch
or of the current one, the attempt is kept and the journal takes what the call writes. -/
theorem confirmed_recorded_iff (h : Revocable s call envelope backend) :
    EndsRevoked s call.id (drive step s (call.actions s.calls.length)) ↔
      PlanCurrent s envelope ∧ Retained s (call.attempt s envelope) ∧
        Recorded s (call.actions s.calls.length) := by
  have hsection := section_started h.toCallable
  have hne : (call.started s envelope backend).records ≠ [] := List.cons_ne_nil _ _
  rw [RevokeCall.actions, List.cons_append, drive_section hsection, recorded_section hsection]
  simp only
  by_cases hwrite : ((call.started s envelope backend).commit s.engine call.dispatching).status =
      none
  · have hsettled := @performed_settled s call.dispatching _ fun _ ↦ hwrite
    rw [and_iff_right fun _ ↦ hwrite]
    generalize performed s call.dispatching (call.started s envelope backend) = t at hsettled
    obtain ⟨hdispatched, task, htask, hid, hcalls⟩ := dispatched_of_settled h.toCallable hsettled
    obtain ⟨hdrive, hrecorded⟩ := drive_moved ⟨.dispatched s.calls.length call.outcome, []⟩
      (⟨.readClock s.calls.length call.completedNs, []⟩ :: call.completion s.calls.length)
      (.revokeReported task (revokeReport call.outcome)) hcalls (by
        simp only [sectionOf, hcalls, find_last, Option.bind_eq_bind, Option.bind_some,
          onDispatched])
    have hreported : (staged s t.engine (.revokeReported task (revokeReport call.outcome))).calls =
        s.calls ++ [.revokeReported task (revokeReport call.outcome)] := rfl
    obtain ⟨hdrive', hrecorded'⟩ := drive_moved
      ⟨.readClock s.calls.length call.completedNs, []⟩ (call.completion s.calls.length)
      (.revokeFinishing task (revokeReport call.outcome) call.completedNs) hreported (by
        simp only [sectionOf, hreported, find_last, Option.bind_eq_bind, Option.bind_some,
          onReadClock])
    simp only [List.cons_append, List.nil_append]
    rw [hdrive, hrecorded]
    refine (iff_of_eq (congrArg (EndsRevoked s call.id) hdrive')).trans ?_
    refine Iff.trans ?_ (and_congr_right' (and_congr_right' hrecorded')).symm
    exact completion_iff h hdispatched ⟨htask, hid⟩
  · have hrefused := performed_refused hne hwrite
    refine iff_of_false ?_ fun hall ↦ hwrite (hall.2.2.1 hne)
    obtain ⟨error, hcalls⟩ := hrefused.calls
    refine not_ended_of_closed ?_ (hcalls.trans (List.append_nil _)) (by
      rw [hrefused.tables]; exact h.found) h.live
    intro action haction
    simp only [RevokeCall.completion, List.cons_append, List.nil_append, List.mem_cons,
      List.not_mem_nil, or_false] at haction
    obtain rfl | rfl | rfl | rfl | rfl := haction
    · exact .inl rfl
    · exact .inl rfl
    · exact .inr rfl
    · exact .inl rfl
    · exact .inr rfl

end Completion

section Sample

variable {P : RateEnvelope → Bool}

/-- Whether the call may be made and is answered so, of an envelope that meets the test. -/
def revocable (s : System) (call : RevokeCall) (P : RateEnvelope → Bool) : Bool :=
  match s.engine.tables.envelopes.find call.id.value, s.engine.control.backend with
  | some envelope, some _ =>
    !s.engine.control.shuttingDown && envelope.state ≠ .revoked &&
      (inflightWithKey s.engine.tables
        (computeIdempotencyKey envelope.id envelope.generation .revoke)).isNone &&
      s.engine.control.backendBound && checkActor s.engine call.actor = none &&
      call.session.live && call.outcome.status = .completed &&
      call.outcome.boot = (call.attempt s envelope).boot &&
      call.outcome.epoch = s.engine.tables.epoch && call.verification.status = .confirmed &&
      !call.verification.observedPresent && P envelope
  | _, _ => false

theorem of_revocable (h : revocable s call P = true) :
    ∃ envelope backend, Revocable s call envelope backend ∧ P envelope = true := by
  unfold revocable at h
  split at h
  · next envelope backend hfound hbound =>
    simp only [Bool.and_eq_true, Bool.not_eq_true', decide_eq_true_eq, Option.isNone_iff_eq_none]
      at h
    obtain ⟨⟨⟨⟨⟨⟨⟨⟨⟨⟨⟨hrunning, hlive⟩, hidle⟩, hadmitted⟩, hactor⟩, hsession⟩, hcompleted⟩, hboot⟩,
      hepoch⟩, hconfirmed⟩, habsent⟩, hP⟩ := h
    exact ⟨envelope, backend, {
      running := hrunning
      found := hfound
      live := hlive
      idle := hidle
      bound := hbound
      admitted := hadmitted
      actor := hactor
      session := hsession
      completed := hcompleted
      boot := hboot
      epoch := hepoch
      confirmed := hconfirmed
      absent := habsent }, hP⟩
  · cases h

/-- The sample apply has been verified, in the first epoch. -/
def sampleApplied : System := drive step sampleStart applySample

def sampleAdvanced : System :=
  drive step sampleApplied [⟨.advanceEpoch ⟨2⟩ actor 7, []⟩,
    ⟨.bindBackend (some ⟨sampleBackend⟩) ⟨2⟩ { epoch := ⟨2⟩, boot := ⟨1⟩ }, []⟩]

def sampleCall (epoch : FabricEpoch) : RevokeCall where
  id := ⟨1⟩
  reason := .none
  actor := { actor with epoch }
  session := { epoch, boot := ⟨1⟩ }
  dispatchedNs := 9
  outcome := { status := .completed, epoch, boot := ⟨1⟩ }
  completedNs := 10
  verification := sampleAbsent

theorem confirmed_recorded_sample : EndsRevoked sampleApplied ⟨1⟩
    (drive step sampleApplied ((sampleCall ⟨1⟩).actions sampleApplied.calls.length)) := by
  obtain ⟨envelope, backend, hrevocable, hcurrent⟩ := of_revocable (P := fun envelope ↦
    envelope.plan.fingerprint.epoch = sampleApplied.engine.tables.epoch &&
      ((sampleApplied.engine.tables.retainAttempt sampleApplied.engine.config
        ((sampleCall ⟨1⟩).attempt sampleApplied envelope)).attempts.find
          ((sampleCall ⟨1⟩).attempt sampleApplied envelope).id.value).isSome)
    (show revocable sampleApplied (sampleCall ⟨1⟩) _ = true by decide +kernel)
  rw [Bool.and_eq_true, decide_eq_true_eq] at hcurrent
  exact (confirmed_recorded_iff hrevocable).2 ⟨fun _ _ ↦ hcurrent.1,
    Option.isSome_iff_ne_none.1 hcurrent.2, recorded_of_none (by decide +kernel)⟩

theorem reachable_sampleAdvanced : Reachable sampleAdvanced :=
  ⟨sampleStart, fresh_sampleStart, (reaches_drive fun _ _ _ ↦ trivial).trans
    (reaches_drive fun _ _ _ ↦ trivial)⟩

/-- The envelope of an earlier epoch is not revoked, although the backend confirms it. -/
theorem confirmed_revoke_lost :
    ¬ ∀ s call envelope backend, Reachable s → Revocable s call envelope backend →
      EndsRevoked s call.id (drive step s (call.actions s.calls.length)) := by
  intro h
  obtain ⟨envelope, backend, hrevocable, -⟩ := of_revocable (P := fun _ ↦ true)
    (show revocable sampleAdvanced (sampleCall ⟨2⟩) _ = true by decide +kernel)
  obtain ⟨attempt, envelope, -, -, hfind, hstate⟩ :=
    h _ _ envelope backend reachable_sampleAdvanced hrevocable
  have hpending : ((drive step sampleAdvanced
      ((sampleCall ⟨2⟩).actions sampleAdvanced.calls.length)).engine.tables.envelopes.find 1).map
        (·.state) = some .revokePending := by decide +kernel
  rw [show (drive step sampleAdvanced ((sampleCall ⟨2⟩).actions
    sampleAdvanced.calls.length)).engine.tables.envelopes.find 1 = some envelope from hfind,
    Option.map_some, hstate] at hpending
  cases hpending

end Sample

end RateGovernor.Safety.ConfirmedRevokes
