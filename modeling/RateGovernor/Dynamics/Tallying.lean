import RateGovernor.Dynamics.Issue
import RateGovernor.Dynamics.Attempts

namespace RateGovernor.Dynamics.Tallying

open Model.CheckedMath Model.Identity Model.Reason Model.Entities Model.Envelope Model.EngineState
open Model.JournalWriter Model.Durability Model.Authority Model.Calls Model.Lifecycle
open Model.Completion Model.Revocation Model.Maintenance Model.Execution
open Foundation.KeyedTable Install Sections Staging Turns Issue Attempts

variable {s : System} {event : Event} {decision : Section}

structure Tally where
  dispatched : U64
  verified : U64
  degraded : U64

def tally (counters : EngineCounters) : Tally where
  dispatched := counters.appliesDispatched
  verified := counters.appliesVerified
  degraded := counters.appliesDegraded

theorem toNat_succ {n : U64} (h : n.toNat < 0xFFFFFFFFFFFFFFFF) :
    (n + 1).toNat = n.toNat + 1 := by
  have hone : (1 : U64).toNat = 1 := rfl
  rw [UInt64.toNat_add, hone]
  omega

def NoApply (decision : Section) : Prop :=
  ∀ attempt, .created attempt ∈ decision.records → attempt.kind ≠ .apply

def Ends (decision : Section) (k : U64) : Prop :=
  ∃ type type' attempt envelope,
    decision.records = [.attempt type attempt, .envelope type' envelope] ∧
      attempt.id.value = k ∧ attemptInflight attempt.state = false

/-- How a section, once it is committed, has moved what is reported of the applies. -/
inductive Accounts (s : System) (decision : Section) : Event → Prop
  | same {event : Event}
      (tally : tally decision.settled.counters = tally s.engine.control.counters)
      (none : NoApply decision) : Accounts s decision event
  | dispatched {event : Event}
      (tally : tally decision.settled.counters = { tally s.engine.control.counters with
        dispatched := (tally s.engine.control.counters).dispatched + 1 })
      (next : decision.settled.nextAttemptId = s.engine.control.nextAttemptId + 1)
      (records : decision.records ≠ []) : Accounts s decision event
  | refused {i : ℕ} {task : ApplyTask} {report : CompletionReport} {now : U64}
      {attempt : EnforcementAttempt} {envelope : RateEnvelope}
      (accepted : ApplyAccepted s i task report now attempt envelope)
      (ends : Ends decision task.attempt.value)
      (tally : tally decision.settled.counters = { tally s.engine.control.counters with
        degraded := (tally s.engine.control.counters).degraded + 1 }) :
      Accounts s decision (.finish i)
  | judged {i : ℕ} {task : ApplyTask} {now clock : U64} {backend : Option Backend}
      {verification : VerificationOutcome} {attempt : EnforcementAttempt} {envelope : RateEnvelope}
      (judged : ApplyJudged s i task now backend verification attempt envelope)
      (ends : Ends decision task.attempt.value)
      (tally : tally decision.settled.counters = { tally s.engine.control.counters with
          verified := (tally s.engine.control.counters).verified + 1 } ∨
        tally decision.settled.counters = { tally s.engine.control.counters with
          degraded := (tally s.engine.control.counters).degraded + 1 }) :
      Accounts s decision (.publish i clock)

theorem tally_ingest {engine : Engine} {names : Ingest} {shape : ReasonCode}
    {existing : Option Generation} {generation : Generation} {size : ℕ} {limit : U64}
    {staged : Staged} :
    tally (ingest engine names shape existing generation size limit staged).settled.counters =
      tally engine.control.counters := by
  unfold ingest
  repeat' split
  all_goals rfl

theorem tally_changeState {α : Type} {engine : Engine} {actor : ActorContext} {found : Option α}
    {missing mismatch : Error} {current : α → Bool} {staged : α → Staged} :
    tally (changeState engine actor found missing mismatch current staged).settled.counters =
      tally engine.control.counters := by
  unfold changeState
  repeat' split
  all_goals rfl

theorem tally_finishRevoke {engine : Engine} {task : RevokeTask} {report : CompletionReport}
    {now : U64} : tally (finishRevoke engine task report now).settled.counters =
      tally engine.control.counters := by
  unfold finishRevoke acceptRevoke
  simp only
  repeat' split
  all_goals rfl

theorem tally_publishRevoke {engine : Engine} {task : RevokeTask} {now : U64}
    {verification : VerificationOutcome} {seen : EnvelopeState} :
    tally (publishRevoke engine task now verification seen).settled.counters =
      tally engine.control.counters := by
  unfold publishRevoke
  simp only
  repeat' split
  all_goals rfl

theorem tally_tickPasses (engine : Engine) (now : U64) (sessionLost : Bool) :
    tally (tickPasses engine now sessionLost).counters = tally engine.control.counters := by
  have envelopes (list : List RateEnvelope) (state : TickState) :
      tally (list.foldl (tickEnvelope engine.tables now) state).counters =
        tally state.counters := by
    induction list generalizing state with
    | nil => rfl
    | cons envelope list ih => exact ih _
  have attempts (list : List EnforcementAttempt) (state : TickState) :
      tally (list.foldl (tickAttempt engine.tables now) state).counters = tally state.counters := by
    induction list generalizing state with
    | nil => rfl
    | cons attempt list ih =>
      refine (ih _).trans ?_
      unfold tickAttempt
      simp only
      repeat' split
      all_goals rfl
  exact (attempts _ _).trans (envelopes _ _)

def counting : Event → Bool
  | .apply .. | .finish _ | .publish .. => true
  | _ => false

theorem tally_of_sectionOf (hsection : sectionOf s event = some decision)
    (hevent : counting event = false) :
    tally decision.settled.counters = tally s.engine.control.counters := by
  cases event with
  | apply | finish | publish => cases hevent
  | putFlow | putGrant | putReservation | putPolicy | putResource | putBackend =>
    cases hsection
    exact tally_ingest
  | changeGrantState | changeReservationState | changePolicyState | changeResourceState =>
    cases hsection
    exact tally_changeState
  | advanceEpoch =>
    cases hsection
    unfold once Model.Authority.advanceEpoch
    simp only [Decision.map]
    repeat' split
    all_goals rfl
  | bindBackend =>
    cases hsection
    unfold once Model.Authority.bindBackend
    simp only [Decision.map, conclude]
    repeat' split
    all_goals rfl
  | openEnvelope =>
    cases hsection
    unfold begun Model.Lifecycle.openEnvelope
    simp only [Decision.map]
    repeat' split
    all_goals rfl
  | authorize =>
    cases hsection
    unfold begun Model.Lifecycle.authorize
    simp only [Decision.map]
    repeat' split
    all_goals rfl
  | completeApply =>
    cases hsection
    unfold begun Model.Completion.completeApply
    simp only [Decision.map]
    repeat' split
    all_goals rfl
  | revoke =>
    cases hsection
    unfold begun Model.Revocation.revoke
    simp only [Decision.map]
    repeat' split
    all_goals rfl
  | completeRevoke =>
    cases hsection
    unfold begun Model.Revocation.completeRevoke
    simp only [Decision.map]
    repeat' split
    all_goals rfl
  | cancelAttempt =>
    cases hsection
    unfold once Model.Revocation.cancelAttempt
    simp only [Decision.map]
    repeat' split
    all_goals rfl
  | abandonAttempt =>
    cases hsection
    unfold once Model.Revocation.abandonAttempt
    simp only [Decision.map]
    repeat' split
    all_goals rfl
  | consumeBurst =>
    cases hsection
    unfold begun Model.Revocation.consumeBurst
    simp only [Decision.map]
    repeat' split
    all_goals rfl
  | tick now session =>
    cases hsection
    exact tally_tickPasses _ _ _
  | revalidateAll =>
    cases hsection
    unfold begun Model.Maintenance.revalidateAll
    simp only [Decision.map]
    repeat' split
    all_goals rfl
  | markSessionLost =>
    cases hsection
    unfold once Model.Maintenance.markSessionLost
    simp only [Decision.map]
    split <;> rfl
  | shutdown =>
    cases hsection
    rfl
  | dispatched =>
    obtain ⟨found, hfound, hsection⟩ := Option.bind_eq_some_iff.1 hsection
    cases found <;> cases hsection <;> rfl
  | readClock =>
    obtain ⟨found, hfound, hsection⟩ := Option.bind_eq_some_iff.1 hsection
    cases found <;> cases hsection <;> rfl
  | readBack =>
    obtain ⟨found, hfound, hsection⟩ := Option.bind_eq_some_iff.1 hsection
    cases found <;> cases hsection <;> rfl
  | revalidateNext =>
    obtain ⟨found, hfound, hsection⟩ := Option.bind_eq_some_iff.1 hsection
    cases found <;> cases hsection
    unfold resumed Model.Maintenance.revalidateNext
    simp only [Decision.map]
    repeat' split
    all_goals rfl

theorem noApply_of_sectionOf (hsection : sectionOf s event = some decision)
    (hevent : ∀ id actor now session, event ≠ .apply id actor now session) : NoApply decision := by
  intro attempt hmem
  have hstages := stages_of_sectionOf hsection hmem
  cases hstages with
  | createdApply => exact absurd rfl (hevent _ _ _ _)
  | createdRevoke => exact nofun

section Counting

variable {i : ℕ} {task : ApplyTask} {now : U64}

theorem accounts_dispatchApply (s : System) (envelope : RateEnvelope) (backend : Backend)
    (session : Session) (now : U64)
    (hnone : ∀ attempt,
      .created attempt ∈ (dispatchApply s.engine envelope backend session now).records →
        (derivePlanLocked s.engine envelope now).authorized = true) :
    Accounts s (begun s (dispatchApply s.engine envelope backend session now)) event := by
  cases hplan : (derivePlanLocked s.engine envelope now).authorized with
  | false =>
    refine .same ?_ fun attempt hmem ↦ ?_
    · simp only [begun, Decision.map, dispatchApply, hplan, Bool.not_false, if_true]
      rfl
    · rw [hnone attempt hmem] at hplan
      cases hplan
  | true =>
    refine .dispatched ?_ ?_ ?_ <;>
      simp only [begun, Decision.map, dispatchApply, hplan, Bool.not_true, Bool.false_eq_true,
        if_false, publish]
    · rfl
    · rfl
    · exact List.append_ne_nil_of_right_ne_nil _ (List.cons_ne_nil _ _)

theorem accounts_apply (s : System) (id : RateEnvelopeId) (actor : ActorContext) (now : U64)
    (session : Session) : Accounts s (begun s (apply s.engine id actor now session)) event := by
  unfold Model.Lifecycle.apply
  simp only
  repeat' split
  all_goals first
    | exact .same rfl fun _ h ↦ absurd h List.not_mem_nil
    | skip
  refine accounts_dispatchApply _ _ _ _ _ fun attempt hmem ↦ ?_
  cases hplan : (derivePlanLocked s.engine _ now).authorized with
  | true => rfl
  | false =>
    simp only [dispatchApply, hplan, Bool.not_false, if_true, List.mem_singleton] at hmem
    cases hmem

theorem tally_finishApply {engine : Engine} {report : CompletionReport}
    (h : (finishApply engine task report now).records = []) :
    tally (finishApply engine task report now).settled.counters =
      tally engine.control.counters := by
  revert h
  unfold finishApply acceptApply
  simp only
  repeat' split
  all_goals
    intro h
    first
      | rfl
      | cases h

theorem accounts_finishApply {report : CompletionReport}
    (hcall : s.calls[i]? = some (.applyFinishing task report now))
    (hnone : NoApply (resumed s i (finishApply s.engine task report now))) :
    Accounts s (resumed s i (finishApply s.engine task report now)) (.finish i) := by
  obtain hconcluded | ⟨attempt, envelope, finishing, ⟨reason, detail, heq⟩ | ⟨accepted, heq⟩⟩ :=
    finishApply_cases hcall
  · refine .same (tally_finishApply ?_) hnone
    obtain ⟨counters, result, heq⟩ := hconcluded
    rw [heq]
    rfl
  · refine .same ?_ hnone
    rw [heq]
    rfl
  · rw [heq] at hnone ⊢
    by_cases hpending : report.status = .pending
    · refine .same ?_ hnone
      simp only [resumed, Decision.map, acceptApply, hpending, if_true]
      rfl
    · by_cases hacknowledged : report.acknowledged = true
      · refine .same ?_ hnone
        simp only [resumed, Decision.map, acceptApply, hpending, hacknowledged, Bool.not_true,
          Bool.false_eq_true, if_false]
        rfl
      · rw [Bool.not_eq_true] at hacknowledged
        have hkey := Registry.key_of_find accepted.storedAttempt
        refine .refused accepted ?_ ?_ <;>
          simp only [Ends, resumed, Decision.map, acceptApply, hpending, hacknowledged,
            Bool.not_false, if_true, if_false, publish]
        · refine ⟨_, _, _, _, rfl, hkey, ?_⟩
          exact not_inflight_of_terminal (refusedState_terminal report).1
        · rfl

theorem tally_judgeApply (engine : Engine) (envelope : RateEnvelope) (attempt : EnforcementAttempt)
    (request : ApplyRequest) (verification : VerificationOutcome) (now : U64)
    (counters : EngineCounters) :
    let counted := (judgeApply engine envelope attempt request verification now).counted counters
    tally counted = { tally counters with verified := (tally counters).verified + 1 } ∨
      tally counted = { tally counters with degraded := (tally counters).degraded + 1 } := by
  unfold judgeApply
  simp only
  repeat' split
  all_goals first
    | exact .inl rfl
    | exact .inr rfl

theorem ended_judgeApply (engine : Engine) (envelope : RateEnvelope) (attempt : EnforcementAttempt)
    (request : ApplyRequest) (verification : VerificationOutcome) (now : U64) :
    (judgeApply engine envelope attempt request verification now).attempt.id = attempt.id ∧
      attemptInflight
        (judgeApply engine envelope attempt request verification now).attempt.state = false := by
  unfold judgeApply
  simp only
  repeat' split
  all_goals exact ⟨rfl, rfl⟩

theorem accounts_publishApply {backend : Option Backend} {verification : VerificationOutcome}
    (clock : U64)
    (hcall : s.calls[i]? = some (.applyPublishing task now backend verification))
    (hnone : NoApply (resumed s i (publishApply s.engine task now verification))) :
    Accounts s (resumed s i (publishApply s.engine task now verification)) (.publish i clock) := by
  revert hnone
  unfold publishApply
  simp only
  split
  · next attempt envelope hattempt henvelope =>
    split
    · intro hnone
      exact .same rfl hnone
    · next hacknowledged =>
      split
      · intro hnone
        exact .same rfl hnone
      · next hcurrent =>
        intro _
        simp only [ne_eq, Bool.or_eq_true, decide_eq_true_eq, not_or, Decidable.not_not]
          at hcurrent hacknowledged
        have hkey := Registry.key_of_find hattempt
        obtain ⟨hid, hended⟩ := ended_judgeApply s.engine envelope attempt task.request
          verification now
        refine .judged ⟨⟨hcall, hattempt, henvelope⟩, hacknowledged, hcurrent.1, hcurrent.2⟩ ?_ ?_
        · refine ⟨_, _, _, _, rfl, ?_, hended⟩
          exact (congrArg StrongId.value hid).trans hkey
        · exact tally_judgeApply s.engine envelope attempt task.request verification now _
  · intro hnone
    exact .same rfl hnone

theorem accounts_of_sectionOf (hsection : sectionOf s event = some decision) :
    Accounts s decision event := by
  cases hevent : counting event with
  | false =>
    refine .same (tally_of_sectionOf hsection hevent) (noApply_of_sectionOf hsection ?_)
    rintro id actor now session rfl
    cases hevent
  | true =>
    cases event with
    | apply id actor now session =>
      cases hsection
      exact accounts_apply s id actor now session
    | finish i =>
      have hnone := noApply_of_sectionOf hsection fun _ _ _ _ ↦ nofun
      obtain ⟨found, hfound, hsection⟩ := Option.bind_eq_some_iff.1 hsection
      cases found <;> cases hsection
      · exact accounts_finishApply hfound hnone
      · exact .same tally_finishRevoke hnone
    | publish i clock =>
      have hnone := noApply_of_sectionOf hsection fun _ _ _ _ ↦ nofun
      obtain ⟨found, hfound, hsection⟩ := Option.bind_eq_some_iff.1 hsection
      cases found <;> cases hsection
      · exact accounts_publishApply clock hfound hnone
      · exact .same tally_publishRevoke hnone
      · refine .same ?_ hnone
        unfold resumed revalidateRecord
        simp only [Decision.map]
        repeat' split
        all_goals rfl
    | _ => cases hevent

end Counting

end RateGovernor.Dynamics.Tallying
