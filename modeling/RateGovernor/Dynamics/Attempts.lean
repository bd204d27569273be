import RateGovernor.Dynamics.Bindings

namespace RateGovernor.Dynamics.Attempts

open Model.CheckedMath Model.Identity Model.Reason Model.Entities Model.Envelope Model.EngineState
open Model.Durability Model.Authority Model.Calls Model.Lifecycle Model.Completion Model.Revocation
open Model.Maintenance Model.Execution Foundation.KeyedTable Install Sections Staging Evolution
open Bindings

structure AttemptIdentity where
  id : EnforcementAttemptId
  envelope : RateEnvelopeId
  envelopeGeneration : Generation
  kind : AttemptKind
  fingerprint : PlanFingerprint
  idempotencyKey : U64

def identity (attempt : EnforcementAttempt) : AttemptIdentity where
  id := attempt.id
  envelope := attempt.envelope
  envelopeGeneration := attempt.envelopeGeneration
  kind := attempt.kind
  fingerprint := attempt.fingerprint
  idempotencyKey := attempt.idempotencyKey

/-- How a section may move an attempt on: one in flight anywhere, a finished one only to another
end, and to a verified end only from the acknowledged state. -/
structure Moves (old new : EnforcementAttempt) : Prop where
  same : identity new = identity old
  live : attemptInflight new.state = true → attemptInflight old.state = true
  settled : attemptInflight new.state = true ∨ attemptStateIsTerminal new.state = true
  verified : new.state = .verified → old.state = .acknowledged

variable {s : System} {event : Event} {attempt old : EnforcementAttempt}

section Updates

theorem not_inflight_of_terminal {state : AttemptState} (h : attemptStateIsTerminal state = true) :
    attemptInflight state = false := by
  cases state with
  | unknown | created | dispatched | acknowledged | unlisted => cases h
  | _ => rfl

theorem Moves.of_terminal (hsame : identity attempt = identity old)
    (hterminal : attemptStateIsTerminal attempt.state = true) (hverified : attempt.state ≠ .verified) :
    Moves old attempt where
  same := hsame
  live hinflight := by
    rw [not_inflight_of_terminal hterminal] at hinflight
    cases hinflight
  settled := .inr hterminal
  verified hstate := absurd hstate hverified

theorem refusedState_terminal (report : CompletionReport) :
    attemptStateIsTerminal (refusedState report) = true ∧ refusedState report ≠ .verified := by
  unfold refusedState
  split <;> exact ⟨rfl, nofun⟩

theorem moves_lateAttempt (config : EngineConfig) (reason : ReasonCode) (effect : Bool)
    (detail : Text) (now : U64) : Moves old (lateAttempt config old reason effect detail now) := by
  have hstate : (lateAttempt config old reason effect detail now).state = .lateRejected ∨
      (lateAttempt config old reason effect detail now).state = .ambiguous := by
    unfold lateAttempt
    simp only
    split
    · exact .inl rfl
    · next h => exact .inr (not_not.1 h)
  obtain hstate | hstate := hstate
  · exact .of_terminal rfl (by rw [hstate]; rfl) (by rw [hstate]; exact nofun)
  · exact .of_terminal rfl (by rw [hstate]; rfl) (by rw [hstate]; exact nofun)

theorem moves_judged (h : old.state = .acknowledged) (hsame : identity attempt = identity old)
    (hterminal : attemptStateIsTerminal attempt.state = true) : Moves old attempt where
  same := hsame
  live _ := by rw [h]; rfl
  settled := .inr hterminal
  verified _ := h

theorem judgeApply_attempt {engine : Engine} {envelope : RateEnvelope} {request : ApplyRequest}
    {verification : VerificationOutcome} {now : U64} :
    identity (judgeApply engine envelope old request verification now).attempt = identity old ∧
      attemptStateIsTerminal
        (judgeApply engine envelope old request verification now).attempt.state = true := by
  unfold judgeApply
  simp only
  repeat' split
  all_goals exact ⟨rfl, rfl⟩

theorem judgedRevoke_attempt {verification : VerificationOutcome} {now : U64} :
    identity (judgedRevokeAttempt old verification now) = identity old ∧
      attemptStateIsTerminal (judgedRevokeAttempt old verification now).state = true := by
  unfold judgedRevokeAttempt
  simp only
  split <;> exact ⟨rfl, rfl⟩

end Updates

theorem moves_of_stages {type} (h : Stages s event (.attempt type attempt)) :
    ∃ old, s.engine.tables.attempts.find attempt.id.value = some old ∧ Moves old attempt := by
  have kept {k : U64} {old attempt : EnforcementAttempt}
      (hfound : s.engine.tables.attempts.find k = some old) (hmoves : Moves old attempt) :
      ∃ old, s.engine.tables.attempts.find attempt.id.value = some old ∧ Moves old attempt := by
    refine ⟨old, ?_, hmoves⟩
    have hid : attempt.id = old.id := congrArg AttemptIdentity.id hmoves.same
    have hkey := Registry.key_of_find hfound
    rw [hid, hkey]
    exact hfound
  cases h with
  | lateFinishAttempt finishing =>
    exact kept finishing.storedAttempt (moves_lateAttempt _ _ _ _ _)
  | dispatchedAttempt accepted =>
    exact kept accepted.storedAttempt ⟨rfl, fun _ ↦ accepted.inflight, .inl rfl, nofun⟩
  | refusedApplyAttempt accepted =>
    exact kept accepted.storedAttempt
      (.of_terminal rfl (refusedState_terminal _).1 (refusedState_terminal _).2)
  | acknowledgedApply accepted =>
    exact kept accepted.storedAttempt ⟨rfl, fun _ ↦ accepted.inflight, .inl rfl, nofun⟩
  | latePublishAttempt publishing =>
    exact kept publishing.storedAttempt (moves_lateAttempt _ _ _ _ _)
  | judgedApplyAttempt judged =>
    exact kept judged.storedAttempt
      (moves_judged judged.acknowledged judgeApply_attempt.1 judgeApply_attempt.2)
  | lateFinishRevoke finishing =>
    exact kept finishing.storedAttempt (.of_terminal rfl rfl nofun)
  | refusedRevokeAttempt finishing =>
    exact kept finishing.storedAttempt
      (.of_terminal rfl (refusedState_terminal _).1 (refusedState_terminal _).2)
  | acknowledgedRevoke finishing hinflight =>
    exact kept finishing.storedAttempt ⟨rfl, fun _ ↦ hinflight, .inl rfl, nofun⟩
  | latePublishRevoke publishing =>
    exact kept publishing.storedAttempt (.of_terminal rfl rfl nofun)
  | judgedRevokeAttempt publishing hacknowledged =>
    exact kept publishing.storedAttempt
      (moves_judged hacknowledged judgedRevoke_attempt.1 judgedRevoke_attempt.2)
  | cancelled found => exact kept found.storedAttempt (.of_terminal rfl rfl nofun)
  | abandonedAttempt found => exact kept found.storedAttempt (.of_terminal rfl rfl nofun)
  | tickExpiredAttempt hfound => exact kept hfound (.of_terminal rfl rfl nofun)
  | shutdownAttempt found => exact kept found.storedAttempt (.of_terminal rfl rfl nofun)

/-- A new attempt: for a stored envelope that has none of its kind in flight. -/
structure Creates (s : System) (attempt : EnforcementAttempt) (envelope : RateEnvelope) : Prop where
  issued : attempt.id.value = s.engine.control.nextAttemptId
  found : s.engine.tables.envelopes.find envelope.id.value = some envelope
  envelopeId : attempt.envelope = envelope.id
  generation : attempt.envelopeGeneration = envelope.generation
  kind : attempt.kind = .apply ∨ attempt.kind = .revoke
  key : attempt.idempotencyKey =
    computeIdempotencyKey attempt.envelope attempt.envelopeGeneration attempt.kind
  idle : inflightWithKey s.engine.tables attempt.idempotencyKey = none
  state : attempt.state = .created

theorem creates_of_stages (h : Stages s event (.created attempt)) :
    ∃ envelope, Creates s attempt envelope := by
  cases h with
  | @createdApply _ _ now _ envelope _ admitted hplan =>
    have hbinding := binding_plannedEnvelope envelope (planNow s envelope now)
    have hid : (plannedEnvelope envelope (planNow s envelope now)).id = envelope.id :=
      congrArg Binding.id hbinding
    have hgeneration : (plannedEnvelope envelope (planNow s envelope now)).generation =
      envelope.generation := congrArg Binding.generation hbinding
    have hkey := Registry.key_of_find admitted.found
    refine ⟨envelope, rfl, ?_, hid, hgeneration, .inl rfl, rfl, ?_, rfl⟩
    · rw [hkey]
      exact admitted.found
    · simp only [applyAttempt, hid, hgeneration]
      exact admitted.idle
  | @createdRevoke _ _ _ _ _ envelope _ admitted =>
    have hkey := Registry.key_of_find admitted.found
    refine ⟨envelope, rfl, ?_, rfl, rfl, .inr rfl, rfl, admitted.idle, rfl⟩
    rw [hkey]
    exact admitted.found

section Sweeps

/-- The operations that commit what they stage in several transactions when it is long. -/
def sweeps : Event → Bool
  | .advanceEpoch .. | .tick .. | .markSessionLost .. | .shutdown .. => true
  | _ => false

theorem whole_of_sectionOf {decision : Section} (hsection : sectionOf s event = some decision)
    (hevent : sweeps event = false) : decision.chunked = false := by
  cases event with
  | advanceEpoch | tick | markSessionLost | shutdown => cases hevent
  | putFlow | putGrant | putReservation | putPolicy | putResource | putBackend =>
    cases hsection
    show (ingest ..).chunked = false
    unfold ingest
    repeat' split
    all_goals rfl
  | changeGrantState | changeReservationState | changePolicyState | changeResourceState =>
    cases hsection
    show (changeState ..).chunked = false
    unfold changeState
    repeat' split
    all_goals rfl
  | bindBackend =>
    cases hsection
    unfold once Model.Authority.bindBackend
    simp only [Decision.map, conclude]
  | openEnvelope =>
    cases hsection
    unfold begun Model.Lifecycle.openEnvelope
    simp only [Decision.map]
    repeat' split
    all_goals rfl
  | authorize =>
    cases hsection
    unfold begun Model.Lifecycle.authorize
    simp only [Decision.map]
    repeat' split
    all_goals rfl
  | apply id actor now session =>
    cases hsection
    obtain ⟨counters, result, heq⟩ | ⟨envelope, backend, admitted, heq⟩ :=
      apply_cases s id actor now session
    · rw [heq]
      rfl
    · rw [heq]
      unfold begun dispatchApply
      simp only [Decision.map]
      split <;> rfl
  | revoke id reason actor now session =>
    cases hsection
    obtain ⟨counters, result, heq⟩ | ⟨envelope, backend, admitted, heq⟩ :=
      revoke_cases s id reason actor now session <;>
    · rw [heq]
      rfl
  | completeApply =>
    cases hsection
    unfold begun Model.Completion.completeApply
    simp only [Decision.map]
    repeat' split
    all_goals rfl
  | completeRevoke =>
    cases hsection
    unfold begun Model.Revocation.completeRevoke
    simp only [Decision.map]
    repeat' split
    all_goals rfl
  | cancelAttempt =>
    cases hsection
    unfold once Model.Revocation.cancelAttempt
    simp only [Decision.map]
    repeat' split
    all_goals rfl
  | abandonAttempt =>
    cases hsection
    unfold once Model.Revocation.abandonAttempt
    simp only [Decision.map]
    repeat' split
    all_goals rfl
  | consumeBurst =>
    cases hsection
    unfold begun Model.Revocation.consumeBurst
    simp only [Decision.map]
    repeat' split
    all_goals rfl
  | revalidateAll =>
    cases hsection
    unfold begun Model.Maintenance.revalidateAll
    simp only [Decision.map]
    repeat' split
    all_goals rfl
  | dispatched =>
    obtain ⟨found, hfound, hsection⟩ := Option.bind_eq_some_iff.mp hsection
    cases found <;> cases hsection <;> rfl
  | readClock =>
    obtain ⟨found, hfound, hsection⟩ := Option.bind_eq_some_iff.mp hsection
    cases found <;> cases hsection <;> rfl
  | finish =>
    obtain ⟨found, hfound, hsection⟩ := Option.bind_eq_some_iff.mp hsection
    cases found <;> cases hsection
    · unfold resumed finishApply acceptApply
      simp only [Decision.map]
      repeat' split
      all_goals rfl
    · unfold resumed finishRevoke acceptRevoke
      simp only [Decision.map]
      repeat' split
      all_goals rfl
  | readBack =>
    obtain ⟨found, hfound, hsection⟩ := Option.bind_eq_some_iff.mp hsection
    cases found <;> cases hsection <;> rfl
  | publish =>
    obtain ⟨found, hfound, hsection⟩ := Option.bind_eq_some_iff.mp hsection
    cases found <;> cases hsection
    · unfold resumed publishApply
      simp only [Decision.map]
      repeat' split
      all_goals rfl
    · unfold resumed publishRevoke
      simp only [Decision.map]
      repeat' split
      all_goals rfl
    · unfold resumed revalidateRecord
      simp only [Decision.map]
      repeat' split
      all_goals rfl
  | revalidateNext =>
    obtain ⟨found, hfound, hsection⟩ := Option.bind_eq_some_iff.mp hsection
    cases found <;> cases hsection
    unfold resumed Model.Maintenance.revalidateNext
    simp only [Decision.map]
    repeat' split
    all_goals rfl

theorem inflight_of_sweep {record : Staged} (h : Stages s event record)
    (hevent : sweeps event = true) (hattempt : attempt? record = some attempt) :
    attempt.state ≠ .verified ∧ ∃ old,
      s.engine.tables.attempts.find attempt.id.value = some old ∧
      attemptInflight old.state = true := by
  cases h with
  | tickExpiredAttempt found passed =>
    cases hattempt
    refine ⟨?_, _, found, ?_⟩
    · rintro ⟨⟩
    · unfold deadlinePassed at passed
      simp only [Bool.and_eq_true] at passed
      exact passed.1.1
  | shutdownAttempt found =>
    cases hattempt
    refine ⟨?_, _, found.storedAttempt, found.inflight⟩
    rintro ⟨⟩
  | createdApply | createdRevoke | lateFinishAttempt | dispatchedAttempt | refusedApplyAttempt
  | acknowledgedApply | latePublishAttempt | judgedApplyAttempt | lateFinishRevoke
  | refusedRevokeAttempt | acknowledgedRevoke | latePublishRevoke | judgedRevokeAttempt | cancelled
  | abandonedAttempt => cases hevent
  | _ => cases hattempt

end Sweeps

end RateGovernor.Dynamics.Attempts
