import RateGovernor.Dynamics.Staging

namespace RateGovernor.Dynamics.Turns

open Model.CheckedMath Model.Identity Model.Reason Model.Entities Model.Envelope Model.EngineState
open Model.JournalWriter Model.Durability Model.Authority Model.Calls Model.Lifecycle
open Model.Completion Model.Revocation Model.Maintenance Model.Execution
open Foundation.KeyedTable Install Sections Staging

variable {s t : System} {event : Event} {decision : Section} {status : Status} {call : Call}

/-- The task `apply` hands to the completion of the attempt it dispatches. -/
def dispatchedApply (s : System) (envelope : RateEnvelope) (boot : WorkerBootId) (now : U64) :
    ApplyTask :=
  let planned := plannedEnvelope envelope (planNow s envelope now)
  let attempt := applyAttempt s.engine planned boot now
  ⟨envelope.id, attempt.id, makeApplyRequest (dispatchingEnvelope planned now) attempt⟩

def dispatchedRevoke (s : System) (envelope : RateEnvelope) (reason : ReasonCode)
    (boot : WorkerBootId) (now : U64) : RevokeTask :=
  let attempt := revokeAttempt s.engine envelope reason boot now
  ⟨envelope.id, attempt.id,
    makeRevokeRequest (revokingEnvelope envelope attempt.reason now) attempt attempt.reason⟩

/-- The calls each event can add or move on, given how its commit went. -/
inductive Begins (s : System) : Event → Status → Call → Prop
  | applying {id : RateEnvelopeId} {actor : ActorContext} {now : U64} {session : Session}
      {envelope : RateEnvelope} {backend : Backend}
      (admitted : ApplyAdmitted s id now session envelope backend)
      (plan : (derivePlanLocked s.engine envelope now).authorized = true) :
      Begins s (.apply id actor now session) none
        (.applying (dispatchedApply s envelope session.boot now) backend)
  | applyAnswered {i : ℕ} {outcome : DispatchOutcome} {task : ApplyTask} {backend : Backend}
      {status : Status} (found : s.calls[i]? = some (.applying task backend)) :
      Begins s (.dispatched i outcome) status (.applyReported task (applyReport outcome))
  | applyCompleted {id : EnforcementAttemptId} {report : CompletionReport} {actor : ActorContext}
      {attempt : EnforcementAttempt} {envelope : RateEnvelope} {status : Status}
      (found : s.engine.tables.attempts.find id.value = some attempt)
      (kind : attempt.kind = .apply)
      (named : s.engine.tables.envelopes.find attempt.envelope.value = some envelope) :
      Begins s (.completeApply id report actor) status
        (.applyReported ⟨attempt.envelope, id, makeApplyRequest envelope attempt⟩ report)
  | applyTimed {i : ℕ} {now : U64} {task : ApplyTask} {report : CompletionReport} {status : Status}
      (found : s.calls[i]? = some (.applyReported task report)) :
      Begins s (.readClock i now) status (.applyFinishing task report now)
  | applyAcknowledged {i : ℕ} {task : ApplyTask} {report : CompletionReport} {now : U64}
      {attempt : EnforcementAttempt} {envelope : RateEnvelope}
      (accepted : ApplyAccepted s i task report now attempt envelope)
      (acknowledged : report.acknowledged = true) :
      Begins s (.finish i) none (.applyVerifying task now s.engine.control.backend)
  | applyVerified {i : ℕ} {verification : VerificationOutcome} {now clock : U64} {task : ApplyTask}
      {backend : Option Backend} {status : Status}
      (found : s.calls[i]? = some (.applyVerifying task now backend)) :
      Begins s (.readBack i verification clock) status
        (.applyPublishing task now backend (verificationBy backend verification))
  | revoking {id : RateEnvelopeId} {reason : ReasonCode} {actor : ActorContext} {now : U64}
      {session : Session} {envelope : RateEnvelope} {backend : Backend}
      (admitted : RevokeAdmitted s id envelope backend) :
      Begins s (.revoke id reason actor now session) none
        (.revoking (dispatchedRevoke s envelope reason session.boot now) backend)
  | revokeAnswered {i : ℕ} {outcome : DispatchOutcome} {task : RevokeTask} {backend : Backend}
      {status : Status} (found : s.calls[i]? = some (.revoking task backend)) :
      Begins s (.dispatched i outcome) status (.revokeReported task (revokeReport outcome))
  | revokeCompleted {id : EnforcementAttemptId} {report : CompletionReport} {actor : ActorContext}
      {attempt : EnforcementAttempt} {envelope : RateEnvelope} {status : Status}
      (found : s.engine.tables.attempts.find id.value = some attempt)
      (kind : attempt.kind = .revoke)
      (named : s.engine.tables.envelopes.find attempt.envelope.value = some envelope) :
      Begins s (.completeRevoke id report actor) status
        (.revokeReported
          ⟨attempt.envelope, id, makeRevokeRequest envelope attempt attempt.reason⟩ report)
  | revokeTimed {i : ℕ} {now : U64} {task : RevokeTask} {report : CompletionReport}
      {status : Status} (found : s.calls[i]? = some (.revokeReported task report)) :
      Begins s (.readClock i now) status (.revokeFinishing task report now)
  | revokeAcknowledged {i : ℕ} {task : RevokeTask} {report : CompletionReport} {now : U64}
      {attempt : EnforcementAttempt} {envelope : RateEnvelope}
      (finishing : RevokeFinishing s i task report now attempt envelope)
      (inflight : attemptInflight attempt.state = true)
      (acknowledged : report.acknowledged = true) :
      Begins s (.finish i) none (.revokeVerifying task now
        { makeApplyRequest envelope (acknowledgedRevoke attempt report now) with
          rateUps := 0, burstTokens := 0 }
        s.engine.control.backend envelope.state)
  | revokeVerified {i : ℕ} {verification : VerificationOutcome} {now clock : U64}
      {task : RevokeTask} {probe : ApplyRequest} {backend : Option Backend} {seen : EnvelopeState}
      {status : Status} (found : s.calls[i]? = some (.revokeVerifying task now probe backend seen)) :
      Begins s (.readBack i verification clock) status
        (.revokePublishing task now backend (verificationBy backend verification) seen)
  | selected {actor : ActorContext} {now : U64} {candidates : List U64} {backend : Backend}
      {report : RevalidationReport} {status : Status}
      (bound : s.engine.control.backend = some backend)
      (admitted : s.engine.control.backendBound = true)
      (wanted : ∀ id ∈ candidates, ∃ envelope, s.engine.tables.envelopes.find id = some envelope ∧
        envelope.state ≠ .revoked ∧ needsRevalidation envelope now = true)
      (allowed : checkActor s.engine actor = none) :
      Begins s (.revalidateAll actor now) status
        (.sweeping ⟨candidates, backend, s.engine.tables.epoch, report⟩)
  | skipped {i : ℕ} {now : U64} {session : Session} {sweep : Sweep} {rest : List U64} {id : U64}
      {status : Status} (found : s.calls[i]? = some (.sweeping sweep))
      (next : sweep.candidates = id :: rest) :
      Begins s (.revalidateNext i now session) status
        (.sweeping { sweep with candidates := rest })
  | probing {i : ℕ} {now : U64} {session : Session} {sweep : Sweep} {rest : List U64} {id : U64}
      {envelope : RateEnvelope} {status : Status}
      (found : s.calls[i]? = some (.sweeping sweep)) (next : sweep.candidates = id :: rest)
      (candidate : s.engine.tables.envelopes.find id = some envelope)
      (wanted : needsRevalidation envelope now = true) :
      Begins s (.revalidateNext i now session) status
        (.probing { sweep with candidates := rest }
          (makeProbe { sweep with candidates := rest } envelope session.boot))
  | probed {i : ℕ} {verification : VerificationOutcome} {clock : U64} {sweep : Sweep}
      {probe : Probe} {status : Status} (found : s.calls[i]? = some (.probing sweep probe)) :
      Begins s (.readBack i verification clock) status (.recording sweep probe verification clock)
  | recorded {i : ℕ} {verification : VerificationOutcome} {now clock : U64} {sweep : Sweep}
      {probe : Probe} {report : RevalidationReport} {status : Status}
      (found : s.calls[i]? = some (.recording sweep probe verification now)) :
      Begins s (.publish i clock) status (.sweeping { sweep with report })

section Inversion

theorem mem_replaceCall {calls : List Call} {i : ℕ} {next : Option Call}
    (h : call ∈ replaceCall calls i next) : call ∈ calls ∨ next = some call := by
  cases next with
  | none => exact .inl (List.mem_of_mem_eraseIdx h)
  | some next =>
    obtain h | rfl := List.mem_or_eq_of_mem_set h
    · exact .inl h
    · exact .inr rfl

theorem mem_begun {ρ : Type} {d : Decision (ρ × Option Call)}
    (h : call ∈ (begun s d).reply status) : call ∈ s.calls ∨ (d.reply status).2 = some call := by
  obtain h | h := List.mem_append.1 h
  · exact .inl h
  · exact .inr (Option.mem_toList.1 h)

theorem mem_resumed {ρ : Type} {i : ℕ} {d : Decision (ρ × Option Call)}
    (h : call ∈ (resumed s i d).reply status) : call ∈ s.calls ∨ (d.reply status).2 = some call :=
  mem_replaceCall h

theorem publish_next {α : Type} {failing settled : Control} {records : List Staged} {result : α}
    {next : Option Call} (h : ((publish failing settled records result next).reply status).2 =
      some call) : status = none ∧ next = some call := by
  cases status with
  | none => exact ⟨rfl, h⟩
  | some error => cases h

theorem rejectLate_next {engine : Engine} {envelope : RateEnvelope} {attempt : EnforcementAttempt}
    {reason : ReasonCode} {effect : Bool} {detail : Text} {now : U64} :
    ((rejectLate engine envelope attempt reason effect detail now).reply status).2 = none := by
  cases status <;> rfl

theorem not_next_of_concluded {α : Type} {d : Decision (Answer α)} (h : Concluded s.engine d) :
    (d.reply status).2 ≠ some call := by
  obtain ⟨counters, result, rfl⟩ := h
  exact nofun

theorem begins_apply {id : RateEnvelopeId} {actor : ActorContext} {now : U64} {session : Session}
    (h : ((apply s.engine id actor now session).reply status).2 = some call) :
    Begins s (.apply id actor now session) status call := by
  obtain hnone | ⟨envelope, backend, admitted, heq⟩ := apply_cases s id actor now session
  · exact absurd h (not_next_of_concluded hnone)
  · rw [heq] at h
    unfold dispatchApply at h
    simp only at h
    split at h
    · cases status <;> cases h
    · next hplan =>
      obtain ⟨rfl, hnext⟩ := publish_next h
      cases hnext
      exact .applying admitted (by simpa using hplan)

theorem begins_finishApply {i : ℕ} {task : ApplyTask} {report : CompletionReport} {now : U64}
    (hcall : s.calls[i]? = some (.applyFinishing task report now))
    (h : ((finishApply s.engine task report now).reply status).2 = some call) :
    Begins s (.finish i) status call := by
  obtain hnone | ⟨attempt, envelope, finishing, ⟨reason, detail, heq⟩ | ⟨accepted, heq⟩⟩ :=
    finishApply_cases hcall
  · exact absurd h (not_next_of_concluded hnone)
  · rw [heq, rejectLate_next] at h
    cases h
  · rw [heq] at h
    unfold acceptApply at h
    simp only at h
    split at h
    · cases (publish_next h).2
    · split at h
      · cases (publish_next h).2
      · next hacknowledged =>
        obtain ⟨rfl, hnext⟩ := publish_next h
        cases hnext
        exact .applyAcknowledged accepted (by simpa using hacknowledged)

theorem publishApply_next {task : ApplyTask} {now : U64} {verification : VerificationOutcome} :
    ((publishApply s.engine task now verification).reply status).2 = none := by
  unfold publishApply
  simp only
  repeat' split
  all_goals cases status <;> rfl

theorem begins_revoke {id : RateEnvelopeId} {reason : ReasonCode} {actor : ActorContext} {now : U64}
    {session : Session}
    (h : ((revoke s.engine id reason actor now session).reply status).2 = some call) :
    Begins s (.revoke id reason actor now session) status call := by
  obtain hnone | ⟨envelope, backend, admitted, heq⟩ := revoke_cases s id reason actor now session
  · exact absurd h (not_next_of_concluded hnone)
  · rw [heq] at h
    obtain ⟨rfl, hnext⟩ := publish_next h
    cases hnext
    exact .revoking admitted

theorem begins_finishRevoke {i : ℕ} {task : RevokeTask} {report : CompletionReport} {now : U64}
    (hcall : s.calls[i]? = some (.revokeFinishing task report now))
    (h : ((finishRevoke s.engine task report now).reply status).2 = some call) :
    Begins s (.finish i) status call := by
  obtain hnone | ⟨attempt, envelope, finishing, ⟨outcome, reason, detail, heq⟩ | ⟨hinflight, heq⟩⟩ :=
    finishRevoke_cases hcall
  · exact absurd h (not_next_of_concluded hnone)
  · rw [heq] at h
    cases (publish_next h).2
  · rw [heq] at h
    unfold acceptRevoke at h
    simp only at h
    split at h
    · cases (publish_next h).2
    · next hacknowledged =>
      obtain ⟨rfl, hnext⟩ := publish_next h
      cases hnext
      exact .revokeAcknowledged finishing hinflight (by simpa using hacknowledged)

theorem publishRevoke_next {task : RevokeTask} {now : U64} {verification : VerificationOutcome}
    {seen : EnvelopeState} :
    ((publishRevoke s.engine task now verification seen).reply status).2 = none := by
  unfold publishRevoke
  simp only
  repeat' split
  all_goals cases status <;> rfl

theorem begins_completeApply {id : EnforcementAttemptId} {report : CompletionReport}
    {actor : ActorContext} (h : ((completeApply s.engine id report actor).reply status).2 = some call) :
    Begins s (.completeApply id report actor) status call := by
  unfold completeApply at h
  simp only at h
  split at h
  · cases h
  · split at h
    · cases h
    · next attempt hfound =>
      split at h
      · cases h
      · next hkind =>
        split at h
        · cases h
        · next envelope hnamed =>
          cases h
          exact .applyCompleted hfound (by simpa using hkind) hnamed

theorem begins_completeRevoke {id : EnforcementAttemptId} {report : CompletionReport}
    {actor : ActorContext}
    (h : ((completeRevoke s.engine id report actor).reply status).2 = some call) :
    Begins s (.completeRevoke id report actor) status call := by
  unfold completeRevoke at h
  simp only at h
  split at h
  · cases h
  · split at h
    · cases h
    · next attempt hfound =>
      split at h
      · cases h
      · next hkind =>
        split at h
        · cases h
        · next envelope hnamed =>
          cases h
          exact .revokeCompleted hfound (by simpa using hkind) hnamed

theorem begins_revalidateAll {actor : ActorContext} {now : U64}
    (h : ((revalidateAll s.engine actor now).reply status).2 = some call) :
    Begins s (.revalidateAll actor now) status call := by
  unfold revalidateAll at h
  simp only at h
  split at h
  · cases h
  · next hactor =>
    split at h
    · next backend hbackend =>
      split at h
      · next hbound =>
        cases h
        refine .selected hbackend hbound (fun id hid ↦ ?_) hactor
        obtain ⟨envelope, hmem, rfl⟩ := List.mem_map.1 hid
        obtain ⟨hstored, hwanted⟩ := List.mem_filter.1 (List.mem_of_mem_take hmem)
        simp only [ne_eq, Bool.and_eq_true, decide_eq_true_eq] at hwanted
        exact ⟨envelope, Registry.mem_entries.1 hstored, by simpa using hwanted.1, hwanted.2⟩
      · cases h
    · cases h

theorem begins_revalidateNext {i : ℕ} {sweep : Sweep} {now : U64} {session : Session}
    (hcall : s.calls[i]? = some (.sweeping sweep))
    (h : ((revalidateNext s.engine sweep now session).reply status).2 = some call) :
    Begins s (.revalidateNext i now session) status call := by
  unfold Model.Maintenance.revalidateNext at h
  simp only at h
  split at h
  · cases h
  · next hnext =>
    split at h
    · cases h
      exact .skipped hcall hnext
    · next envelope hfound =>
      split at h
      · cases h
        exact .skipped hcall hnext
      · next hwanted =>
        cases h
        exact .probing hcall hnext hfound (by simpa using hwanted)

theorem begins_revalidateRecord {i : ℕ} {sweep : Sweep} {probe : Probe}
    {verification : VerificationOutcome} {now clock : U64}
    (hcall : s.calls[i]? = some (.recording sweep probe verification now))
    (h : ((revalidateRecord s.engine sweep probe verification now clock).reply status).2 =
      some call) :
    Begins s (.publish i clock) status call := by
  unfold revalidateRecord at h
  simp only at h
  split at h
  · cases h
    exact .recorded hcall
  · split at h
    · cases h
      exact .recorded hcall
    · cases status <;> cases h <;> exact .recorded hcall

end Inversion

/-- Where an event acts: it may begin a call, runs a section of one, or is what one waits for. -/
inductive Site
  | opening | resuming (call : ℕ) | waiting (call : ℕ)

def siteOf : Event → Site
  | .dispatched i _ | .readClock i _ | .readBack i .. => .waiting i
  | .finish i | .publish i _ | .revalidateNext i .. => .resuming i
  | _ => .opening

inductive Outstanding (s : System) (event : Event) (status : Status) : List Call → Prop
  | opening {next : Option Call} (site : siteOf event = .opening)
      (begins : ∀ call, next = some call → Begins s event status call) :
      Outstanding s event status (s.calls ++ next.toList)
  | resuming {i : ℕ} {next : Option Call} (site : siteOf event = .resuming i)
      (found : i < s.calls.length)
      (begins : ∀ call, next = some call → Begins s event status call) :
      Outstanding s event status (replaceCall s.calls i next)
  | waiting {i : ℕ} {call : Call} (site : siteOf event = .waiting i) (found : i < s.calls.length)
      (begins : Begins s event status call) : Outstanding s event status (s.calls.set i call)

theorem lt_of_call {i : ℕ} (h : s.calls[i]? = some call) : i < s.calls.length :=
  (List.getElem?_eq_some_iff.1 h).1

theorem outstanding_once (hsite : siteOf event = .opening) :
    Outstanding s event status s.calls := by
  have hkept : Outstanding s event status (s.calls ++ (none : Option Call).toList) :=
    .opening hsite fun _ h ↦ absurd h (Option.some_ne_none _).symm
  rwa [Option.toList_none, List.append_nil] at hkept

theorem outstanding_begun {ρ : Type} {d : Decision (ρ × Option Call)}
    (hsite : siteOf event = .opening)
    (h : ∀ {call}, (d.reply status).2 = some call → Begins s event status call) :
    Outstanding s event status ((begun s d).reply status) :=
  .opening hsite fun _ hnext ↦ h hnext

theorem outstanding_resumed {ρ : Type} {d : Decision (ρ × Option Call)} {i : ℕ}
    (hsite : siteOf event = .resuming i) (hfound : s.calls[i]? = some call)
    (h : ∀ {call}, (d.reply status).2 = some call → Begins s event status call) :
    Outstanding s event status ((resumed s i d).reply status) :=
  .resuming hsite (lt_of_call hfound) fun _ hnext ↦ h hnext

theorem outstanding_of_sectionOf (hsection : sectionOf s event = some decision) (status : Status) :
    Outstanding s event status (decision.reply status) := by
  cases event with
  | openEnvelope request actor now =>
    cases hsection
    refine outstanding_begun rfl fun h ↦ ?_
    unfold openEnvelope at h
    simp only at h
    repeat' split at h
    all_goals first
      | cases h
      | cases (publish_next h).2
  | authorize id actor now =>
    cases hsection
    refine outstanding_begun rfl fun h ↦ ?_
    unfold authorize at h
    simp only at h
    repeat' split at h
    all_goals first
      | cases h
      | cases (publish_next h).2
  | apply id actor now session =>
    cases hsection
    exact outstanding_begun rfl begins_apply
  | completeApply attempt report actor =>
    cases hsection
    exact outstanding_begun rfl begins_completeApply
  | revoke id reason actor now session =>
    cases hsection
    exact outstanding_begun rfl begins_revoke
  | completeRevoke attempt report actor =>
    cases hsection
    exact outstanding_begun rfl begins_completeRevoke
  | consumeBurst id tokens now =>
    cases hsection
    refine outstanding_begun rfl fun h ↦ ?_
    unfold consumeBurst at h
    simp only at h
    repeat' split at h
    all_goals first
      | cases h
      | cases (publish_next h).2
      | cases status <;> cases h
  | revalidateAll actor now =>
    cases hsection
    exact outstanding_begun rfl begins_revalidateAll
  | dispatched i outcome =>
    obtain ⟨found, hfound, hsection⟩ := Option.bind_eq_some_iff.1 hsection
    cases found <;> cases hsection
    · exact .waiting rfl (lt_of_call hfound) (.applyAnswered hfound)
    · exact .waiting rfl (lt_of_call hfound) (.revokeAnswered hfound)
  | readClock i now =>
    obtain ⟨found, hfound, hsection⟩ := Option.bind_eq_some_iff.1 hsection
    cases found <;> cases hsection
    · exact .waiting rfl (lt_of_call hfound) (.applyTimed hfound)
    · exact .waiting rfl (lt_of_call hfound) (.revokeTimed hfound)
  | finish i =>
    obtain ⟨found, hfound, hsection⟩ := Option.bind_eq_some_iff.1 hsection
    cases found <;> cases hsection
    · exact outstanding_resumed rfl hfound (begins_finishApply hfound)
    · exact outstanding_resumed rfl hfound (begins_finishRevoke hfound)
  | readBack i verification clock =>
    obtain ⟨found, hfound, hsection⟩ := Option.bind_eq_some_iff.1 hsection
    cases found <;> cases hsection
    · exact .waiting rfl (lt_of_call hfound) (.applyVerified hfound)
    · exact .waiting rfl (lt_of_call hfound) (.revokeVerified hfound)
    · exact .waiting rfl (lt_of_call hfound) (.probed hfound)
  | publish i clock =>
    obtain ⟨found, hfound, hsection⟩ := Option.bind_eq_some_iff.1 hsection
    cases found <;> cases hsection
    · refine outstanding_resumed rfl hfound fun h ↦ ?_
      rw [publishApply_next] at h
      cases h
    · refine outstanding_resumed rfl hfound fun h ↦ ?_
      rw [publishRevoke_next] at h
      cases h
    · exact outstanding_resumed rfl hfound (begins_revalidateRecord hfound)
  | revalidateNext i now session =>
    obtain ⟨found, hfound, hsection⟩ := Option.bind_eq_some_iff.1 hsection
    cases found <;> cases hsection
    exact outstanding_resumed rfl hfound (begins_revalidateNext hfound)
  | _ =>
    cases hsection
    exact outstanding_once rfl

theorem begins_of_sectionOf (hsection : sectionOf s event = some decision)
    (h : call ∈ decision.reply status) : call ∈ s.calls ∨ Begins s event status call := by
  have hcalls := outstanding_of_sectionOf hsection status
  generalize decision.reply status = calls at h hcalls
  cases hcalls with
  | opening _ hbegins =>
    obtain h | h := List.mem_append.1 h
    · exact .inl h
    · exact .inr (hbegins call (Option.mem_toList.1 h))
  | resuming _ _ hbegins => exact (mem_replaceCall h).imp_right (hbegins call)
  | waiting _ _ hbegins =>
    obtain h | rfl := List.mem_or_eq_of_mem_set h
    · exact .inl h
    · exact .inr hbegins

/-- How a section can end: with nothing to commit, with a failed commit, or with its objects
written. -/
inductive Turn (s : System) (io : Io) (decision : Section) : System → Prop
  | quiet (records : decision.records = []) : Turn s io decision
      { engine := { s.engine with control := decision.settled }, calls := decision.reply none }
  | failed {error : Error} (records : decision.records ≠ [])
      (status : (decision.commit s.engine io).status = some error) : Turn s io decision
      { engine := { s.engine with
          control := decision.failing
          durability := (decision.commit s.engine io).durability }
        calls := decision.reply (some error) }
  | committed (records : decision.records ≠ [])
      (status : (decision.commit s.engine io).status = none) : Turn s io decision
      { engine := { s.engine with
          control := decision.settled
          tables := installed s.engine.config s.engine.tables decision.records
          durability := (decision.commit s.engine io).durability }
        calls := decision.reply none }

theorem turn_performed (s : System) (io : Io) (decision : Section) :
    Turn s io decision (performed s io decision) := by
  unfold performed Decision.perform
  split
  · next hempty => exact .quiet (by simpa using hempty)
  · next hrecords =>
    have hrecords : decision.records ≠ [] := by simpa using hrecords
    cases hstatus : (decision.commit s.engine io).status with
    | none =>
      simp only [hstatus]
      exact .committed hrecords hstatus
    | some error =>
      simp only [hstatus]
      exact .failed hrecords hstatus

theorem turn_of_step {action : Action} (h : step s action = some t) :
    ∃ decision, sectionOf s action.event = some decision ∧ Turn s action.io decision t := by
  obtain ⟨decision, hsection, rfl⟩ := Option.map_eq_some_iff.1 h
  exact ⟨decision, hsection, turn_performed s action.io decision⟩

/-- The section of the action stages objects, and their commit is done. -/
def commits (s : System) (action : Action) : Bool :=
  match sectionOf s action.event with
  | some decision => !decision.records.isEmpty &&
      (decision.commit s.engine action.io).status.isNone
  | none => false

theorem commits_of_committed {action : Action} (hsection : sectionOf s action.event = some decision)
    (hrecords : decision.records ≠ [])
    (hstatus : (decision.commit s.engine action.io).status = none) : commits s action = true := by
  unfold commits
  simp only [hsection, hstatus, List.isEmpty_eq_false_iff.2 hrecords, Bool.not_false,
    Option.isNone_none, Bool.and_self]

theorem same_or_commits {action : Action} (hstep : step s action = some t) :
    t.engine.tables = s.engine.tables ∨ commits s action = true := by
  obtain ⟨decision, hsection, hturn⟩ := turn_of_step hstep
  cases hturn with
  | quiet => exact .inl rfl
  | failed => exact .inl rfl
  | committed hrecords hstatus => exact .inr (commits_of_committed hsection hrecords hstatus)

theorem outstanding_step {action : Action} (h : step s action = some t) :
    ∃ status, Outstanding s action.event status t.calls := by
  obtain ⟨decision, hsection, hturn⟩ := turn_of_step h
  cases hturn with
  | quiet => exact ⟨_, outstanding_of_sectionOf hsection _⟩
  | failed => exact ⟨_, outstanding_of_sectionOf hsection _⟩
  | committed => exact ⟨_, outstanding_of_sectionOf hsection _⟩

end RateGovernor.Dynamics.Turns
