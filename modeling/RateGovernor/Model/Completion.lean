import RateGovernor.Model.Lifecycle

namespace RateGovernor.Model.Completion

open CheckedMath Identity Reason Bucket Entities Envelope EngineState Durability Authority Calls
open Lifecycle Foundation.KeyedTable

def truncateBounded (text : Text) (maxLength : ℕ) : Text :=
  if text.length ≤ maxLength then text
  else
    let marker := ascii "..."
    if maxLength ≤ marker.length then text.take maxLength
    else text.take (maxLength - marker.length) ++ marker

def unknownAttemptOrEnvelope : Error := ⟨.notFound, .malformedInput, "unknown attempt or envelope"⟩

def unknownAttempt : Error := ⟨.notFound, .malformedInput, "unknown attempt"⟩

def notAnApply : Error := ⟨.invalidArgument, .malformedInput, "attempt is not an apply attempt"⟩

def attemptWithoutEnvelope : Error :=
  ⟨.notFound, .malformedInput, "attempt references an unknown envelope"⟩

section RejectLate

/-- An ambiguous attempt keeps its state; any other becomes late-rejected. -/
def lateAttempt (config : EngineConfig) (attempt : EnforcementAttempt) (reason : ReasonCode)
    (reportsEffect : Bool) (detail : Text) (now : U64) : EnforcementAttempt :=
  { attempt with
    state := if attempt.state ≠ .ambiguous then .lateRejected else attempt.state
    reason
    completedNs := now
    compensating := reportsEffect
    detail := truncateBounded detail config.maxAttributeBytes.toNat }

def lateEnvelope (envelope : RateEnvelope) (reason : ReasonCode) (reportsEffect : Bool)
    (now : U64) : RateEnvelope :=
  let counted := { envelope with
    completionsRejected := envelope.completionsRejected + 1, updatedNs := now }
  if !reportsEffect then counted
  else
    let doubted := { counted with requiresRevalidation := true, effectVerified := false }
    if envelope.state = .revoked then doubted
    else { doubted with
      state := .revokePending
      reason := if reason = .none then .compensatingRevokeIssued else reason }

/-- A late completion answers with the rejection whether or not it could be recorded. -/
def rejectLate (engine : Engine) (envelope : RateEnvelope) (attempt : EnforcementAttempt)
    (reason : ReasonCode) (reportsEffect : Bool) (detail : Text) (now : U64) :
    Decision (Answer CompletionOutcome) :=
  let updated := lateEnvelope envelope reason reportsEffect now
  let rejected : CompletionOutcome :=
    { attempt := attempt.id, rejectedLate := true, reason,
      compensatingRevokeRequired := reportsEffect }
  { records :=
      [.attempt .attemptTerminated (lateAttempt engine.config attempt reason reportsEffect detail now),
        .envelope .envelopeStateChange updated]
    chunked := false
    failing := engine.control
    settled := Control.count engine.control fun c ↦ { c with
      completionsRejected := c.completionsRejected + 1
      staleTransitions := c.staleTransitions + 1 }
    reply
      | none => (.ok { rejected with resultingState := updated.state }, none)
      | some _ => (.ok { rejected with resultingState := envelope.state }, none) }

end RejectLate

section Acknowledging

def fencingBoot (attempt : EnforcementAttempt) (report : CompletionReport) : Bool :=
  report.boot.valid && attempt.boot.valid && report.boot ≠ attempt.boot

def fencingEpoch (epoch : FabricEpoch) (attempt : EnforcementAttempt) (report : CompletionReport) :
    Bool :=
  attempt.fingerprint.epoch ≠ epoch || (report.epoch.valid && report.epoch ≠ epoch)

def dispatchedAttempt (attempt : EnforcementAttempt) : EnforcementAttempt :=
  { attempt with
    state := .dispatched
    reason := .applyDispatched
    detail := ascii "backend accepted the work and will complete asynchronously" }

def refusalReason (report : CompletionReport) (fallback : ReasonCode) : ReasonCode :=
  if report.reason = .none then fallback else report.reason

def refusedState (report : CompletionReport) : AttemptState :=
  if report.status = .failed then .ambiguous else .failed

def refusedApplyAttempt (attempt : EnforcementAttempt) (report : CompletionReport) (now : U64) :
    EnforcementAttempt :=
  { attempt with
    state := refusedState report
    reason := refusalReason report .applyBackendFailed
    completedNs := now
    detail := if report.detail = [] then ascii "backend refused the apply" else report.detail }

/-- A refused apply is doubted only when the transport failed. -/
def refusedApplyEnvelope (envelope : RateEnvelope) (report : CompletionReport) (now : U64) :
    RateEnvelope :=
  { envelope with
    state := .degraded
    reason := refusalReason report .applyBackendFailed
    updatedNs := now
    completionsRejected := envelope.completionsRejected + 1
    requiresRevalidation := refusedState report = .ambiguous
    effectVerified := false
    cooldownUntilNs :=
      if envelope.hasPlan && envelope.plan.hysteresis.cooldownNs ≠ 0 then
        saturatingAdd now envelope.plan.hysteresis.cooldownNs
      else envelope.cooldownUntilNs }

def acknowledgedApply (attempt : EnforcementAttempt) (report : CompletionReport) (now : U64) :
    EnforcementAttempt :=
  { attempt with
    acknowledged := true
    acknowledgedRateUps := report.acknowledgedRateUps
    acknowledgedBurstTokens := report.acknowledgedBurstTokens
    state := .acknowledged
    reason := .applyAcknowledged
    completedNs := now
    detail := if report.detail = [] then ascii "acknowledged" else report.detail }

/-- Phase A of `finish_apply`, for an attempt in flight whose authorities are current. -/
def acceptApply (engine : Engine) (task : ApplyTask) (envelope : RateEnvelope)
    (attempt : EnforcementAttempt) (report : CompletionReport) (now : U64) :
    Decision (Answer CompletionOutcome) :=
  let control := engine.control
  if report.status = .pending then
    publish control control [.attempt .attemptDispatched (dispatchedAttempt attempt)]
      { attempt := task.attempt, accepted := true, reason := .applyDispatched,
        resultingState := envelope.state } none
  else if !report.acknowledged then
    let updated := refusedApplyEnvelope envelope report now
    publish control
      (Control.count control fun c ↦ { c with appliesDegraded := c.appliesDegraded + 1 })
      [.attempt .attemptTerminated (refusedApplyAttempt attempt report now),
        .envelope .envelopeStateChange updated]
      { attempt := task.attempt, accepted := true, resultingState := updated.state,
        reason := refusalReason report .applyBackendFailed } none
  else
    publish control control [.attempt .attemptAcknowledged (acknowledgedApply attempt report now)]
      { attempt := task.attempt, reason := .applyAcknowledged, resultingState := envelope.state }
      (some (.applyVerifying task now control.backend))

/-- Phase A of `finish_apply`. -/
def finishApply (engine : Engine) (task : ApplyTask) (report : CompletionReport) (now : U64) :
    Decision (Answer CompletionOutcome) :=
  let control := engine.control
  match engine.tables.attempts.find task.attempt.value,
      engine.tables.envelopes.find task.envelope.value with
  | some attempt, some envelope =>
    if attempt.kind ≠ .apply then refuse control notAnApply
    else if attempt.state = .verified || attempt.state = .duplicateIgnored then
      conclude
        (Control.count control fun c ↦ { c with completionsDuplicate := c.completionsDuplicate + 1 })
        (.ok { attempt := task.attempt, duplicate := true, reason := .attemptDuplicateIgnored,
               resultingState := envelope.state }, none)
    else if !attemptInflight attempt.state || fencingBoot attempt report ||
        fencingEpoch engine.tables.epoch attempt report then
      if fencingBoot attempt report then
        rejectLate engine envelope attempt .attemptFencedByBoot report.acknowledged
          (ascii "completion carried a foreign boot id") now
      else if fencingEpoch engine.tables.epoch attempt report then
        rejectLate engine envelope attempt .attemptFencedByEpoch report.acknowledged
          (ascii "completion carried a superseded fabric epoch") now
      else
        rejectLate engine envelope attempt .attemptLateCompletionRejected report.acknowledged
          (ascii "attempt was no longer in flight") now
    else
      let stale := authorityStatus engine.tables envelope now
      if stale ≠ .none then
        rejectLate engine envelope attempt stale report.acknowledged
          (ascii "the authority that funded this attempt changed while it was in flight") now
      else acceptApply engine task envelope attempt report now
  | _, _ => refuse control unknownAttemptOrEnvelope

end Acknowledging

section Publishing

/-- What a readback makes of the attempt and its envelope, and which counter it moves. -/
structure Verdict where
  attempt : EnforcementAttempt
  envelope : RateEnvelope
  counted : EngineCounters → EngineCounters
  outcome : CompletionOutcome

def countDegraded (c : EngineCounters) : EngineCounters :=
  { c with appliesDegraded := c.appliesDegraded + 1 }

/-- The readback could not show an effect: the attempt ends in `state`, the envelope in doubt. -/
def unconfirmed (attempt : EnforcementAttempt) (envelope : RateEnvelope) (state : AttemptState)
    (reason : ReasonCode) : Verdict where
  attempt := { attempt with state, reason }
  envelope := { envelope with
    state := .degraded, reason, requiresRevalidation := true, effectVerified := false }
  counted := countDegraded
  outcome := { disputed := true }

/-- The effect fields a readback of a present entry fills in. -/
def observedEnvelope (epoch : FabricEpoch) (envelope : RateEnvelope)
    (verification : VerificationOutcome) : RateEnvelope :=
  { envelope with
    appliedRateUps := verification.observedRateUps
    appliedBurstTokens := verification.observedBurstTokens
    appliedEpoch := if verification.epoch.valid then verification.epoch else epoch
    appliedBoot := verification.boot }

/-- The branches of phase C of `finish_apply`. -/
def judgeApply (engine : Engine) (envelope : RateEnvelope) (attempt : EnforcementAttempt)
    (request : ApplyRequest) (verification : VerificationOutcome) (now : U64) : Verdict :=
  let updated := { attempt with
    verifiedRateUps := verification.observedRateUps
    verifiedBurstTokens := verification.observedBurstTokens
    completedNs := now }
  let updatedEnvelope := { envelope with
    updatedNs := now, completionsApplied := envelope.completionsApplied + 1 }
  let observed := observedEnvelope engine.tables.epoch updatedEnvelope verification
  if verification.status = .unsupported then
    unconfirmed updated updatedEnvelope .ambiguous .applyVerificationUnsupported
  else if verification.status = .failed then
    unconfirmed updated updatedEnvelope .ambiguous .applyVerificationUnknown
  else if !verification.observedPresent then
    unconfirmed updated updatedEnvelope .failed .applyVerificationMismatch
  else if verification.observedRateUps = request.rateUps &&
      verification.observedBurstTokens = request.burstTokens then
    { attempt := { updated with
        state := .verified, verified := true, effectConfirmed := true, reason := .applyVerified }
      envelope := { observed with
        state := .applied
        reason := .applyVerified
        effectVerified := true
        requiresRevalidation := false
        cooldownUntilNs := 0
        revalidateByNs :=
          if engine.config.revalidateIntervalNs ≠ 0 then
            saturatingAdd now engine.config.revalidateIntervalNs
          else envelope.revalidateByNs }
      counted := fun c ↦ { c with appliesVerified := c.appliesVerified + 1 }
      outcome := { verified := true } }
  else if request.rateUps < verification.observedRateUps then
    { attempt := { updated with
        state := .verified, verified := true, compensating := true
        reason := .applyOverDeliveredRevoking }
      envelope := { observed with
        state := .revokePending
        reason := .applyOverDeliveredRevoking
        effectVerified := false
        requiresRevalidation := true }
      counted := countDegraded
      outcome := { compensatingRevokeRequired := true, disputed := true } }
  else
    let floor := if envelope.hasPlan then envelope.plan.floorUps else 0
    let underDelivered := { updated with
      state := .verified, verified := true, reason := .applyUnderDelivered }
    if floor ≤ verification.observedRateUps then
      { attempt := underDelivered
        envelope := { observed with
          effectVerified := true
          state := .degraded
          reason := .applyUnderDelivered
          requiresRevalidation := false }
        counted := countDegraded
        outcome := { disputed := true } }
    else
      { attempt := { underDelivered with compensating := true }
        envelope := { observed with
          effectVerified := true
          state := .revokePending
          reason := .applyUnderDelivered
          requiresRevalidation := true }
        counted := countDegraded
        outcome := { compensatingRevokeRequired := true, disputed := true } }

def withDetail (attempt : EnforcementAttempt) (detail : Text) : EnforcementAttempt :=
  { attempt with detail := if detail = [] then attempt.detail else detail }

/-- Phase C of `finish_apply`. The outcome counters move before the commit. -/
def publishApply (engine : Engine) (task : ApplyTask) (now : U64)
    (verification : VerificationOutcome) : Decision (Answer CompletionOutcome) :=
  let control := engine.control
  match engine.tables.attempts.find task.attempt.value,
      engine.tables.envelopes.find task.envelope.value with
  | some attempt, some envelope =>
    if attempt.state ≠ .acknowledged then
      rejectLate engine envelope attempt .attemptCancelled verification.observedPresent
        (ascii "the attempt left the in-flight state while the readback was outstanding") now
    else
      let stale := authorityStatus engine.tables envelope now
      if stale ≠ .none || attempt.fingerprint.epoch ≠ engine.tables.epoch then
        rejectLate engine envelope attempt
          (if attempt.fingerprint.epoch ≠ engine.tables.epoch then .envelopeStaleFabricEpochAdvanced
            else stale)
          verification.observedPresent
          (ascii "authority changed while the readback was outstanding") now
      else
        let verdict := judgeApply engine envelope attempt task.request verification now
        let counted := Control.count control verdict.counted
        publish counted counted
          [.attempt .attemptVerified (withDetail verdict.attempt verification.detail),
            .envelope .envelopeEffectRecorded verdict.envelope]
          { verdict.outcome with
            attempt := task.attempt, verificationPerformed := true, accepted := true
            reason := verdict.attempt.reason, resultingState := verdict.envelope.state }
          none
  | _, _ => refuse control unknownAttemptOrEnvelope

/-- The section of `complete_apply`; `finish_apply` follows it. -/
def completeApply (engine : Engine) (attempt : EnforcementAttemptId) (report : CompletionReport)
    (actor : ActorContext) : Decision (Answer CompletionOutcome) :=
  let control := engine.control
  match checkActor engine actor with
  | some fence => refuse (fencingRejected control) (fencedError fence)
  | none => match engine.tables.attempts.find attempt.value with
    | none => refuse control unknownAttempt
    | some found =>
      if found.kind ≠ .apply then refuse control notAnApply
      else match engine.tables.envelopes.find found.envelope.value with
        | none => refuse control attemptWithoutEnvelope
        | some envelope =>
          conclude control (.ok { attempt },
            some (.applyReported ⟨found.envelope, attempt, makeApplyRequest envelope found⟩ report))

end Publishing

end RateGovernor.Model.Completion
