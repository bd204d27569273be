import RateGovernor.Model.Completion

namespace RateGovernor.Model.Revocation

open CheckedMath Identity Reason Bucket Entities Envelope EngineState Durability Authority Calls
open Lifecycle Completion Foundation.KeyedTable

section Revoking

def makeRevokeRequest (envelope : RateEnvelope) (attempt : EnforcementAttempt)
    (reason : ReasonCode) : RevokeRequest where
  attempt := attempt.id
  envelope := envelope.id
  envelopeGeneration := envelope.generation
  fingerprint := attempt.fingerprint
  epoch := attempt.epoch
  boot := attempt.boot
  reason := reason
  issuedNs := attempt.dispatchedNs

def revokeAttempt (engine : Engine) (envelope : RateEnvelope) (reason : ReasonCode)
    (boot : WorkerBootId) (now : U64) : EnforcementAttempt where
  id := ⟨engine.control.nextAttemptId⟩
  envelope := envelope.id
  envelopeGeneration := envelope.generation
  kind := .revoke
  state := .created
  reason := if reason = .none then .revokeDispatched else reason
  fingerprint := if envelope.hasPlan then envelope.plan.fingerprint else {}
  backend := envelope.backend
  backendGeneration := envelope.backendGeneration
  epoch := engine.tables.epoch
  boot := if boot.valid then boot else engine.config.boot
  sequence := engine.control.attemptSequence + 1
  idempotencyKey := computeIdempotencyKey envelope.id envelope.generation .revoke
  createdNs := now
  dispatchedNs := now
  deadlineNs := deadlineAfter engine.config now
  detail := ascii "revoke dispatched"

def revokingEnvelope (envelope : RateEnvelope) (reason : ReasonCode) (now : U64) : RateEnvelope :=
  { envelope with
    state := .revokePending
    reason
    updatedNs := now
    attemptsIssued := envelope.attemptsIssued + 1 }

/-- The first section of `revoke` once the session has been admitted. -/
def dispatchRevoke (engine : Engine) (envelope : RateEnvelope) (reason : ReasonCode)
    (backend : Backend) (session : Session) (now : U64) : Decision (Answer Dispatch) :=
  let attempt := revokeAttempt engine envelope reason session.boot now
  let updated := revokingEnvelope envelope attempt.reason now
  let taken := takeAttemptId engine.control
  publish taken
    (Control.count taken fun c ↦ { c with revokesDispatched := c.revokesDispatched + 1 })
    [.created attempt, .envelope .envelopeStateChange updated]
    { attempt := attempt.id, dispatched := true, resultingState := updated.state,
      reason := attempt.reason }
    (some (.revoking
      ⟨envelope.id, attempt.id, makeRevokeRequest updated attempt attempt.reason⟩ backend))

/-- The first section of `revoke`. Unlike `apply` it does not compare the bound backend with the
envelope's. -/
def revoke (engine : Engine) (id : RateEnvelopeId) (reason : ReasonCode) (actor : ActorContext)
    (now : U64) (session : Session) : Decision (Answer Dispatch) :=
  let control := engine.control
  let replayed :=
    Control.count control fun c ↦ { c with idempotentReplays := c.idempotentReplays + 1 }
  if control.shuttingDown then refuse (workRejected control) shuttingDownError
  else match checkActor engine actor with
    | some fence => refuse (fencingRejected control) (fencedError fence)
    | none => match engine.tables.envelopes.find id.value with
      | none => refuse control unknownEnvelope
      | some envelope =>
        if envelope.state = .revoked then
          conclude replayed (.ok { duplicate := true, resultingState := envelope.state,
                                   reason := .envelopeRevoked }, none)
        else match inflightWithKey engine.tables
            (computeIdempotencyKey envelope.id envelope.generation .revoke) with
          | some attempt =>
            conclude replayed (.ok { attempt := attempt.id, duplicate := true,
                                     resultingState := envelope.state,
                                     reason := .attemptIdempotentReplay }, none)
          | none => match control.backend with
            | none => refuse control noBackendSession
            | some backend =>
              if !control.backendBound then refuse control noBackendSession
              else if !session.live then refuse control sessionNotLive
              else dispatchRevoke engine envelope reason backend session now

def notARevoke : Error := ⟨.invalidArgument, .malformedInput, "attempt is not a revoke attempt"⟩

def lateRevoke (attempt : EnforcementAttempt) (reason : ReasonCode) (detail : Text) (now : U64) :
    EnforcementAttempt :=
  { attempt with state := .lateRejected, reason, completedNs := now, detail }

def refusedRevokeAttempt (attempt : EnforcementAttempt) (report : CompletionReport) (now : U64) :
    EnforcementAttempt :=
  { attempt with
    state := refusedState report
    reason := refusalReason report .revokeBackendFailed
    completedNs := now
    detail := if report.detail = [] then ascii "backend refused the revoke" else report.detail }

def refusedRevokeEnvelope (envelope : RateEnvelope) (report : CompletionReport) (now : U64) :
    RateEnvelope :=
  { envelope with
    state := .revokePending
    reason := refusalReason report .revokeBackendFailed
    requiresRevalidation := true
    effectVerified := false
    updatedNs := now
    completionsRejected := envelope.completionsRejected + 1 }

def acknowledgedRevoke (attempt : EnforcementAttempt) (report : CompletionReport) (now : U64) :
    EnforcementAttempt :=
  { attempt with
    acknowledged := true
    state := .acknowledged
    reason := .revokeDispatched
    completedNs := now
    detail := if report.detail = [] then ascii "revoke acknowledged" else report.detail }

/-- A late revoke completion terminates the attempt and leaves the envelope alone. -/
def rejectLateRevoke (engine : Engine) (outcome : CompletionOutcome)
    (attempt : EnforcementAttempt) (reason : ReasonCode) (detail : Text) (now : U64) :
    Decision (Answer CompletionOutcome) :=
  publish engine.control
    (Control.count engine.control fun c ↦
      { c with completionsRejected := c.completionsRejected + 1 })
    [.attempt .attemptTerminated (lateRevoke attempt reason detail now)]
    { outcome with rejectedLate := true, reason } none

/-- Phase A of `finish_revoke`, for an attempt in flight. -/
def acceptRevoke (engine : Engine) (task : RevokeTask) (envelope : RateEnvelope)
    (attempt : EnforcementAttempt) (report : CompletionReport) (now : U64) :
    Decision (Answer CompletionOutcome) :=
  let control := engine.control
  if !report.acknowledged then
    let updated := refusedRevokeEnvelope envelope report now
    publish control control
      [.attempt .attemptTerminated (refusedRevokeAttempt attempt report now),
        .envelope .envelopeStateChange updated]
      { attempt := task.attempt, accepted := true, resultingState := updated.state,
        reason := refusalReason report .revokeBackendFailed } none
  else
    let acknowledged := acknowledgedRevoke attempt report now
    publish control control [.attempt .attemptAcknowledged acknowledged]
      { attempt := task.attempt, resultingState := envelope.state }
      (some (.revokeVerifying task now
        { makeApplyRequest envelope acknowledged with rateUps := 0, burstTokens := 0 }
        control.backend envelope.state))

/-- Phase A of `finish_revoke`. -/
def finishRevoke (engine : Engine) (task : RevokeTask) (report : CompletionReport) (now : U64) :
    Decision (Answer CompletionOutcome) :=
  let control := engine.control
  match engine.tables.attempts.find task.attempt.value,
      engine.tables.envelopes.find task.envelope.value with
  | some attempt, some envelope =>
    let fencingEpoch :=
      attempt.fingerprint.epoch.valid && attempt.fingerprint.epoch ≠ engine.tables.epoch
    if attempt.kind ≠ .revoke then refuse control notARevoke
    else if attempt.state = .verified || attempt.state = .duplicateIgnored then
      conclude
        (Control.count control fun c ↦ { c with completionsDuplicate := c.completionsDuplicate + 1 })
        (.ok { attempt := task.attempt, duplicate := true, reason := .attemptDuplicateIgnored,
               resultingState := envelope.state }, none)
    else if !attemptInflight attempt.state || fencingBoot attempt report || fencingEpoch then
      rejectLateRevoke engine { attempt := task.attempt, resultingState := envelope.state } attempt
        (if fencingBoot attempt report then .attemptFencedByBoot
          else if fencingEpoch then .attemptFencedByEpoch
          else .attemptLateCompletionRejected)
        (ascii "revoke completion arrived after the attempt stopped being in flight") now
    else acceptRevoke engine task envelope attempt report now
  | _, _ => refuse control unknownAttemptOrEnvelope

def revokeConfirmed (verification : VerificationOutcome) : Bool :=
  verification.status = .confirmed && !verification.observedPresent

def judgedRevokeAttempt (attempt : EnforcementAttempt) (verification : VerificationOutcome)
    (now : U64) : EnforcementAttempt :=
  let updated := { attempt with
    verifiedRateUps := verification.observedRateUps
    verifiedBurstTokens := verification.observedBurstTokens
    completedNs := now }
  if revokeConfirmed verification then
    { updated with
      state := .verified, verified := true, effectConfirmed := true, reason := .revokeVerified }
  else
    { updated with
      state := .ambiguous
      reason :=
        if verification.status = .failed then .applyVerificationUnknown
        else .applyVerificationMismatch }

def judgedRevokeEnvelope (envelope : RateEnvelope) (reason : ReasonCode)
    (verification : VerificationOutcome) (now : U64) : RateEnvelope :=
  let updated := { envelope with
    updatedNs := now, completionsApplied := envelope.completionsApplied + 1 }
  if revokeConfirmed verification then
    { updated with
      state := .revoked
      reason := .envelopeRevoked
      effectVerified := false
      requiresRevalidation := false
      appliedRateUps := 0
      appliedBurstTokens := 0
      bucket := { envelope.bucket with tokens := 0 }
      cooldownUntilNs := 0 }
  else
    { updated with
      state := .revokePending, reason, requiresRevalidation := true, effectVerified := false }

/-- Phase C of `finish_revoke`; a late one still reports the state phase A saw. -/
def publishRevoke (engine : Engine) (task : RevokeTask) (now : U64)
    (verification : VerificationOutcome) (seen : EnvelopeState) : Decision (Answer CompletionOutcome) :=
  let control := engine.control
  match engine.tables.attempts.find task.attempt.value,
      engine.tables.envelopes.find task.envelope.value with
  | some attempt, some envelope =>
    if attempt.state ≠ .acknowledged then
      rejectLateRevoke engine
        { attempt := task.attempt, resultingState := seen, verificationPerformed := true } attempt
        .attemptCancelled
        (ascii "revoke attempt left the in-flight state during readback") now
    else
      let confirmed := revokeConfirmed verification
      let updated := judgedRevokeAttempt attempt verification now
      let updatedEnvelope := judgedRevokeEnvelope envelope updated.reason verification now
      let counted :=
        if confirmed then
          Control.count control fun c ↦ { c with revokesVerified := c.revokesVerified + 1 }
        else control
      publish counted counted
        [.attempt .attemptVerified (withDetail updated verification.detail),
          .envelope .envelopeEffectRecorded updatedEnvelope]
        { attempt := task.attempt, verificationPerformed := true, accepted := true
          verified := confirmed, disputed := !confirmed, reason := updated.reason
          resultingState := updatedEnvelope.state }
        none
  | _, _ => refuse control unknownAttemptOrEnvelope

def completeRevoke (engine : Engine) (attempt : EnforcementAttemptId) (report : CompletionReport)
    (actor : ActorContext) : Decision (Answer CompletionOutcome) :=
  let control := engine.control
  match checkActor engine actor with
  | some fence => refuse (fencingRejected control) (fencedError fence)
  | none => match engine.tables.attempts.find attempt.value with
    | none => refuse control unknownAttempt
    | some found =>
      if found.kind ≠ .revoke then refuse control notARevoke
      else match engine.tables.envelopes.find found.envelope.value with
        | none => refuse control attemptWithoutEnvelope
        | some envelope =>
          conclude control (.ok { attempt },
            some (.revokeReported
              ⟨found.envelope, attempt, makeRevokeRequest envelope found found.reason⟩ report))

end Revoking

section Terminating

def cancelledAttempt (attempt : EnforcementAttempt) (reason : ReasonCode) (now : U64) :
    EnforcementAttempt :=
  { attempt with
    state := .cancelled
    reason := if reason = .none then .attemptCancelled else reason
    completedNs := now
    detail := ascii "cancelled by an operator; it can never publish success" }

def cancelAttempt (engine : Engine) (attempt : EnforcementAttemptId) (reason : ReasonCode)
    (actor : ActorContext) (now : U64) : Decision Status :=
  let control := engine.control
  match checkActor engine actor with
  | some fence => conclude (fencingRejected control) (some (fencedError fence))
  | none => match engine.tables.attempts.find attempt.value with
    | none => conclude control (some unknownAttempt)
    | some found =>
      if !attemptInflight found.state then
        conclude control (some ⟨.conflict, .attemptCancelled, "attempt is already terminal"⟩)
      else stage control [.attempt .attemptTerminated (cancelledAttempt found reason now)]

def abandonedAttempt (attempt : EnforcementAttempt) (reason : ReasonCode) (now : U64) :
    EnforcementAttempt :=
  { attempt with
    state := .abandoned
    reason := if reason = .none then .attemptAbandonedWorkerDeath else reason
    completedNs := now
    detail := ascii "abandoned; the effect is UNKNOWN until it is revalidated" }

/-- An effect nobody can vouch for: the envelope is degraded and has to be revalidated, whatever
state it was in. -/
def doubtedEnvelope (envelope : RateEnvelope) (reason : ReasonCode) (now : U64) : RateEnvelope :=
  { envelope with
    state := .degraded
    reason
    requiresRevalidation := true
    effectVerified := false
    updatedNs := now }

def abandonAttempt (engine : Engine) (attempt : EnforcementAttemptId) (reason : ReasonCode)
    (actor : ActorContext) (now : U64) : Decision Status :=
  let control := engine.control
  match checkActor engine actor with
  | some fence => conclude (fencingRejected control) (some (fencedError fence))
  | none => match engine.tables.attempts.find attempt.value with
    | none => conclude control (some unknownAttempt)
    | some found =>
      if !attemptInflight found.state then
        conclude control (some ⟨.conflict, .attemptDeadlineExceeded, "attempt is already terminal"⟩)
      else match engine.tables.envelopes.find found.envelope.value with
        | none => conclude control (some attemptWithoutEnvelope)
        | some envelope =>
          let updated := abandonedAttempt found reason now
          stage control
            [.attempt .attemptTerminated updated,
              .envelope .envelopeStateChange (doubtedEnvelope envelope updated.reason now)]

end Terminating

section Burst

/-- The whole envelope is staged, under the record type that is read back as a bucket patch. -/
def consumeBurst (engine : Engine) (id : RateEnvelopeId) (tokens : U64) (now : U64) :
    Decision (Answer U64) :=
  let control := engine.control
  if control.shuttingDown then refuse (workRejected control) shuttingDownError
  else match engine.tables.envelopes.find id.value with
    | none => refuse control unknownEnvelope
    | some envelope =>
      if envelope.state ≠ .applied && envelope.state ≠ .degraded then
        refuse control ⟨.denied, .envelopeFailed,
          "burst cannot be spent on an envelope without a verified effect"⟩
      else if authorityStatus engine.tables envelope now ≠ .none then
        refuse control ⟨.staleAuthority, .envelopeStaleNoLiveAuthority,
          "the funding authority for this envelope is no longer current"⟩
      else
        let refilled := refillBucket envelope.bucket now
        let control :=
          if refilled.2.clockRegressed then
            Control.count control fun c ↦ { c with clockRegressions := c.clockRegressions + 1 }
          else control
        match tryConsume refilled.1 tokens with
        | none =>
          let counted :=
            Control.count control fun c ↦ { c with tokenStarvations := c.tokenStarvations + 1 }
          { records := [.envelope .envelopeCounters { envelope with bucket := refilled.1 }]
            chunked := false
            failing := counted
            settled := counted
            reply
              | none =>
                (.error ⟨.denied, .tokenBucketEmpty, "burst allowance is exhausted"⟩, none)
              | some error => (.error error, none) }
        | some spent =>
          let counted :=
            Control.count control fun c ↦ { c with tokenConsumptions := c.tokenConsumptions + 1 }
          publish counted counted
            [.envelope .envelopeCounters { envelope with bucket := spent, updatedNs := now }]
            spent.tokens none

end Burst

end RateGovernor.Model.Revocation
