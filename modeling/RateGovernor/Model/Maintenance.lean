import RateGovernor.Model.Revocation

namespace RateGovernor.Model.Maintenance

open CheckedMath Identity Reason Bucket Entities Envelope EngineState Durability Authority Calls
open Lifecycle Completion Revocation Foundation.KeyedTable

def kMaxTickEnvelopeTransitions : ℕ := 512
def kMaxTickAttemptTransitions : ℕ := 512
def kMaxRevalidationsPerCall : ℕ := 256

/-- Replaces the entry with the candidate's key, or appends the candidate. -/
def mergeBy {α : Type} (key : α → U64) (candidate : α) : List α → List α
  | [] => [candidate]
  | existing :: list =>
    if key existing = key candidate then candidate :: list
    else existing :: mergeBy key candidate list

def mergeEnvelope (list : List RateEnvelope) (candidate : RateEnvelope) : List RateEnvelope :=
  mergeBy (·.id.value) candidate list

def mergeAttempt (list : List EnforcementAttempt) (candidate : EnforcementAttempt) :
    List EnforcementAttempt :=
  mergeBy (·.id.value) candidate list

def stageEnvelopes (list : List RateEnvelope) : List Staged :=
  list.map (.envelope .envelopeStateChange)

def stageTerminated (list : List EnforcementAttempt) : List Staged :=
  list.map (.attempt .attemptTerminated)

def countRevalidations (tables : Tables) : U64 :=
  UInt64.ofNat (tables.envelopes.entries.countP fun envelope ↦
    envelope.requiresRevalidation && envelope.state ≠ .revoked)

/-- The tables after a section, given how its commit went. -/
def tablesAfter (engine : Engine) (records : List Staged) : Status → Tables
  | none => records.foldl (Tables.install engine.config) engine.tables
  | some _ => engine.tables

section SessionLoss

def sessionLostEnvelope (envelope : RateEnvelope) : Option RateEnvelope :=
  let active := envelope.state = .applied || envelope.state = .dispatching
  if !(envelope.effectVerified || envelope.appliedRateUps ≠ 0 || active) then none
  else
    some { envelope with
      effectVerified := false
      requiresRevalidation := true
      state := if active then .degraded else envelope.state
      reason :=
        if active || envelope.reason = .none then .backendSessionLost else envelope.reason }

def collectSessionLostUpdates (tables : Tables) : List RateEnvelope :=
  (tables.envelopes.entries.filterMap sessionLostEnvelope).foldl mergeEnvelope []

def markSessionLost (engine : Engine) (actor : ActorContext) : Decision Status :=
  match checkActor engine actor with
  | some fence => conclude (fencingRejected engine.control) (some (fencedError fence))
  | none =>
    let unbound := { engine.control with backendBound := false }
    let updates := collectSessionLostUpdates engine.tables
    { records := stageEnvelopes updates
      chunked := true
      failing := unbound
      settled := Control.count unbound fun c ↦ { c with
        staleTransitions := c.staleTransitions + UInt64.ofNat updates.length }
      reply := id }

end SessionLoss

section Tick

structure TickState where
  report : TickReport
  counters : EngineCounters
  envelopeUpdates : List RateEnvelope := []
  attemptUpdates : List EnforcementAttempt := []

def refillStage (envelope : RateEnvelope) (now : U64) : RateEnvelope × RefillOutcome :=
  if envelope.bucket.initialized then
    let refilled := refillBucket envelope.bucket now
    ({ envelope with bucket := refilled.1 }, refilled.2)
  else (envelope, {})

def cooldownExpired (envelope : RateEnvelope) (now : U64) : Bool :=
  envelope.cooldownUntilNs ≠ 0 && envelope.cooldownUntilNs ≤ now

/-- An expired cooldown sends a degraded envelope nobody doubts back to be applied. -/
def cooldownStage (envelope : RateEnvelope) (now : U64) : RateEnvelope :=
  if !cooldownExpired envelope now then envelope
  else
    let requeued := envelope.state = .degraded && !envelope.requiresRevalidation
    { envelope with
      cooldownUntilNs := 0
      state := if requeued then .authorized else envelope.state
      reason := if requeued then .envelopeAuthorized else envelope.reason }

def goesStale (envelope : RateEnvelope) (stale : ReasonCode) : Bool :=
  stale ≠ .none && envelope.reason ≠ stale && envelope.state ≠ .revoked && envelope.state ≠ .stale

def holdsEffect (envelope : RateEnvelope) : Bool :=
  envelope.state = .applied || envelope.state = .degraded || envelope.state = .dispatching ||
  envelope.state = .revokePending || envelope.effectVerified || envelope.appliedRateUps ≠ 0

def staleStage (envelope : RateEnvelope) (stale : ReasonCode) : RateEnvelope :=
  if !goesStale envelope stale then envelope
  else
    { envelope with
      requiresRevalidation := holdsEffect envelope || envelope.requiresRevalidation
      effectVerified := false
      state := if holdsEffect envelope then .revokePending else .stale
      reason := stale }

def bump (n : U64) (flag : Bool) : U64 := if flag then n + 1 else n

/-- One envelope of the maintenance pass. -/
def tickEnvelope (tables : Tables) (now : U64) (state : TickState) (envelope : RateEnvelope) :
    TickState :=
  let refilled := refillStage envelope now
  let refill := refilled.2
  let expired := cooldownExpired refilled.1 now
  let cooled := cooldownStage refilled.1 now
  let stale := authorityStatus tables cooled now
  let gone := goesStale cooled stale
  let updated := staleStage cooled stale
  let changed := refill.tokensGranted ≠ 0 || refill.elapsedNs ≠ 0 || expired || gone
  let full := kMaxTickEnvelopeTransitions ≤ state.envelopeUpdates.length
  { state with
    report := { state.report with
      clockRegressions := bump state.report.clockRegressions refill.clockRegressed
      tokenBucketsSaturated := bump state.report.tokenBucketsSaturated refill.saturated
      envelopesRefilled := bump state.report.envelopesRefilled (refill.tokensGranted ≠ 0)
      cooldownsExpired := bump state.report.cooldownsExpired expired
      envelopesStale := bump state.report.envelopesStale gone
      revokesPending := bump state.report.revokesPending (gone && holdsEffect cooled)
      deferred := bump state.report.deferred (changed && full) }
    counters := { state.counters with
      clockRegressions := bump state.counters.clockRegressions refill.clockRegressed
      staleTransitions := bump state.counters.staleTransitions gone }
    envelopeUpdates :=
      if changed && !full then mergeEnvelope state.envelopeUpdates { updated with updatedNs := now }
      else state.envelopeUpdates }

def expiredAttempt (attempt : EnforcementAttempt) (now : U64) : EnforcementAttempt :=
  { attempt with
    state := .ambiguous
    reason := .attemptDeadlineExceeded
    completedNs := now
    detail := ascii "attempt deadline passed without a completion; the outcome is UNKNOWN" }

def deadlinePassed (attempt : EnforcementAttempt) (now : U64) : Bool :=
  attemptInflight attempt.state && attempt.deadlineNs ≠ 0 && attempt.deadlineNs < now

/-- One attempt of the maintenance pass. The envelope it degrades is the stored one, not what the
envelope pass made of it. -/
def tickAttempt (tables : Tables) (now : U64) (state : TickState) (attempt : EnforcementAttempt) :
    TickState :=
  if !deadlinePassed attempt now then state
  else if kMaxTickAttemptTransitions ≤ state.attemptUpdates.length then
    { state with report := { state.report with deferred := state.report.deferred + 1 } }
  else
    let expired := { state with
      report := { state.report with attemptsExpired := state.report.attemptsExpired + 1 }
      attemptUpdates := mergeAttempt state.attemptUpdates (expiredAttempt attempt now) }
    match tables.envelopes.find attempt.envelope.value with
    | none => expired
    | some envelope =>
      { expired with
        report := { expired.report with
          revalidationsRequired := expired.report.revalidationsRequired + 1 }
        envelopeUpdates := mergeEnvelope state.envelopeUpdates
          (doubtedEnvelope envelope .attemptDeadlineExceeded now) }

def tickStart (engine : Engine) (now : U64) (sessionLost : Bool) : TickState :=
  let regressed := engine.control.tickSeen && now < engine.control.lastTickNs
  { report := { nowNs := now, clockRegressions := bump 0 regressed }
    counters := { engine.control.counters with
      clockRegressions := bump engine.control.counters.clockRegressions regressed }
    envelopeUpdates :=
      if sessionLost then (collectSessionLostUpdates engine.tables).foldl mergeEnvelope [] else [] }

def tickPasses (engine : Engine) (now : U64) (sessionLost : Bool) : TickState :=
  engine.tables.attempts.entries.foldl (tickAttempt engine.tables now)
    (engine.tables.envelopes.entries.foldl (tickEnvelope engine.tables now)
      (tickStart engine now sessionLost))

def tick (engine : Engine) (now : U64) (session : Session) : Decision TickReport :=
  let sessionLost :=
    engine.control.backend.isSome && engine.control.backendBound && !session.live
  let passes := tickPasses engine now sessionLost
  let records := stageEnvelopes passes.envelopeUpdates ++ stageTerminated passes.attemptUpdates
  let control := { engine.control with
    lastTickNs := now
    tickSeen := true
    backendBound := if sessionLost then false else engine.control.backendBound
    counters := passes.counters }
  { records
    chunked := true
    failing := control
    settled := control
    reply := fun status ↦ { passes.report with
      journalFailed := status.isSome
      deferred :=
        if status.isSome then passes.report.deferred + UInt64.ofNat records.length
        else passes.report.deferred
      revalidationsRequired := passes.report.revalidationsRequired +
        countRevalidations (tablesAfter engine records status) } }

end Tick

section Revalidation

/-- A claim already questioned, or whose scheduled horizon has passed. -/
def needsRevalidation (envelope : RateEnvelope) (now : U64) : Bool :=
  envelope.requiresRevalidation ||
  (envelope.state = .applied && envelope.revalidateByNs ≠ 0 && envelope.revalidateByNs ≤ now)

/-- The selection section of `revalidate_all`. -/
def revalidateAll (engine : Engine) (actor : ActorContext) (now : U64) :
    Decision (RevalidationReport × Option Call) :=
  match checkActor engine actor with
  | some _ => conclude (fencingRejected engine.control) ({}, none)
  | none =>
    let wanted := engine.tables.envelopes.entries.filter fun envelope ↦
      envelope.state ≠ .revoked && needsRevalidation envelope now
    let candidates := (wanted.take kMaxRevalidationsPerCall).map (·.id.value)
    let report : RevalidationReport :=
      { considered := UInt64.ofNat candidates.length
        skippedNoBackend := UInt64.ofNat (wanted.length - kMaxRevalidationsPerCall) }
    match engine.control.backend with
    | some backend =>
      if engine.control.backendBound then
        conclude engine.control
          (report, some (.sweeping ⟨candidates, backend, engine.tables.epoch, report⟩))
      else
        conclude engine.control
          ({ report with skippedNoBackend := report.skippedNoBackend + report.considered }, none)
    | none =>
      conclude engine.control
        ({ report with skippedNoBackend := report.skippedNoBackend + report.considered }, none)

def makeProbe (sweep : Sweep) (envelope : RateEnvelope) (boot : WorkerBootId) : Probe where
  id := envelope.id
  request :=
    { envelope := envelope.id
      envelopeGeneration := envelope.generation
      fingerprint := envelope.plan.fingerprint
      rateUps := envelope.plan.ceilingUps
      burstTokens := envelope.plan.burstTokens
      refill := envelope.plan.refill
      epoch := sweep.epochNow
      boot := boot }
  before := envelope.state
  expectedRate := envelope.plan.ceilingUps
  expectedBurst := envelope.plan.burstTokens
  floor := envelope.plan.floorUps

/-- The probe section of the loop for its next candidate. -/
def revalidateNext (engine : Engine) (sweep : Sweep) (now : U64) (session : Session) :
    Decision (RevalidationReport × Option Call) :=
  match sweep.candidates with
  | [] => conclude engine.control (sweep.report, none)
  | id :: rest =>
    let sweep := { sweep with candidates := rest }
    match engine.tables.envelopes.find id with
    | none => conclude engine.control (sweep.report, some (.sweeping sweep))
    | some envelope =>
      if !needsRevalidation envelope now then
        conclude engine.control (sweep.report, some (.sweeping sweep))
      else
        conclude engine.control
          (sweep.report, some (.probing sweep (makeProbe sweep envelope session.boot)))

/-- What a readback makes of the envelope, the report and the item, before the commit. -/
structure Revalidated where
  envelope : RateEnvelope
  report : RevalidationReport
  item : RevalidationItem

def judgeRevalidation (sweep : Sweep) (probe : Probe) (envelope : RateEnvelope)
    (verification : VerificationOutcome) (now : U64) : Revalidated :=
  let report := sweep.report
  let item : RevalidationItem := { envelope := probe.id, before := probe.before }
  let stamped := { envelope with updatedNs := now }
  let observed := observedEnvelope sweep.epochNow stamped verification
  if verification.status = .unsupported || verification.status = .failed then
    { envelope := { stamped with
        reason := .envelopeRevalidationUnknown
        requiresRevalidation := true
        effectVerified := false }
      report := { report with unknown := report.unknown + 1 }
      item := { item with reason := .envelopeRevalidationUnknown } }
  else if !verification.observedPresent then
    { envelope := { stamped with
        state := .authorized
        reason := .envelopeRevalidationDenied
        requiresRevalidation := false
        effectVerified := false
        appliedRateUps := 0
        appliedBurstTokens := 0
        appliedEpoch := {}
        appliedBoot := {} }
      report := { report with requeued := report.requeued + 1 }
      item := { item with reason := .envelopeRevalidationDenied, reapplyRequired := true } }
  else if verification.observedRateUps = probe.expectedRate &&
      verification.observedBurstTokens = probe.expectedBurst then
    { envelope := { observed with
        state := .applied
        reason := .envelopeRevalidatedApplied
        requiresRevalidation := false
        effectVerified := true }
      report := { report with confirmedApplied := report.confirmedApplied + 1 }
      item := { item with reason := .envelopeRevalidatedApplied, effectConfirmed := true } }
  else
    let exceeds := probe.expectedRate < verification.observedRateUps
    let reason :=
      if exceeds then .applyOverDeliveredRevoking
      else if probe.floor ≤ verification.observedRateUps then .applyUnderDelivered
      else .envelopeRevalidationDenied
    { envelope := { observed with
        state := if exceeds then .revokePending else .degraded
        reason
        requiresRevalidation := true
        effectVerified := false }
      report := { report with denied := report.denied + 1 }
      item := { item with reason } }

/-- The commit section of the loop. Whatever the commit says, the sweep goes on. -/
def revalidateRecord (engine : Engine) (sweep : Sweep) (probe : Probe)
    (verification : VerificationOutcome) (now clock : U64) :
    Decision (RevalidationReport × Option Call) :=
  let control := engine.control
  match engine.tables.envelopes.find probe.id.value with
  | none => conclude control (sweep.report, some (.sweeping sweep))
  | some envelope =>
    if !needsRevalidation envelope clock then
      conclude control (sweep.report, some (.sweeping sweep))
    else
      let judged := judgeRevalidation sweep probe envelope verification now
      let done (item : RevalidationItem) : RevalidationReport × Option Call :=
        let report := { judged.report with items := judged.report.items ++ [item] }
        (report, some (.sweeping { sweep with report }))
      { records := [.envelope .envelopeStateChange judged.envelope]
        chunked := false
        failing := control
        settled := control
        reply
          | none => done { judged.item with after := judged.envelope.state }
          | some _ =>
            done { judged.item with reason := .journalAppendFailed, after := envelope.state } }

end Revalidation

section Shutdown

def shutdownAttempt (attempt : EnforcementAttempt) (now : U64) : EnforcementAttempt :=
  { attempt with
    state := .abandoned
    reason := .engineShutdown
    completedNs := now
    detail := ascii "engine shutdown while the attempt was in flight; the effect is UNKNOWN" }

def inflightAttempts (tables : Tables) : List EnforcementAttempt :=
  tables.attempts.entries.filter fun attempt ↦ attemptInflight attempt.state

def shutdown (engine : Engine) (now : U64) : Decision ShutdownReport :=
  let inflight := inflightAttempts engine.tables
  let attempts := (inflight.map (shutdownAttempt · now)).foldl mergeAttempt []
  let envelopes := (inflight.filterMap fun attempt ↦
    (engine.tables.envelopes.find attempt.envelope.value).map
      (doubtedEnvelope · .engineShutdown now)).foldl mergeEnvelope []
  let records := stageTerminated attempts ++ stageEnvelopes envelopes
  let control := { engine.control with shuttingDown := true }
  { records
    chunked := true
    failing := control
    settled := control
    reply := fun status ↦
      { attemptsAbandoned := UInt64.ofNat inflight.length
        envelopesRequiringRevalidation :=
          countRevalidations (tablesAfter engine records status)
        failure := status } }

end Shutdown

section Demotion

def demotedAttempt (attempt : EnforcementAttempt) (now : U64) : EnforcementAttempt :=
  { attempt with
    state := .ambiguous
    reason := .envelopeRecoveredRequiresRevalidation
    completedNs := now
    effectConfirmed := false
    verified := false
    detail := ascii
      "unfinished at the previous incarnation; the outcome is UNKNOWN and can never publish success" }

def demotedEnvelope (envelope : RateEnvelope) (now : U64) : Option RateEnvelope :=
  let claimsEffect := envelope.effectVerified || envelope.appliedRateUps ≠ 0 ||
    envelope.appliedBurstTokens ≠ 0
  let holdsState := envelope.state = .applied || envelope.state = .dispatching ||
    envelope.state = .degraded || envelope.requiresRevalidation
  if !claimsEffect && !holdsState then none
  else
    let active := envelope.state = .applied || envelope.state = .dispatching
    some { envelope with
      effectVerified := false
      requiresRevalidation := true
      state := if active then .degraded else envelope.state
      reason :=
        if active || envelope.reason = .none then .envelopeRecoveredRequiresRevalidation
        else envelope.reason
      updatedNs := now }

def demoteForRecovery (engine : Engine) (actor : ActorContext) (now : U64) : Decision Status :=
  match checkActor engine actor with
  | some fence => conclude (fencingRejected engine.control) (some (fencedError fence))
  | none =>
    let attempts :=
      ((inflightAttempts engine.tables).map (demotedAttempt · now)).foldl mergeAttempt []
    let envelopes :=
      (engine.tables.envelopes.entries.filterMap (demotedEnvelope · now)).foldl mergeEnvelope []
    { records := stageTerminated attempts ++ stageEnvelopes envelopes
      chunked := true
      failing := engine.control
      settled := engine.control
      reply := id }

end Demotion

section Views

/-- What the operator has to do next about an envelope. -/
inductive EnvelopeAction
  | none | awaitAuthorization | awaitVerification | retryApply | reduce | revoke | revalidate
  | fence | rejectStale | halt
  deriving DecidableEq

/-- `derive_action_locked`, with the reason it gives. -/
def deriveAction (tables : Tables) (envelope : RateEnvelope) (now : U64) :
    EnvelopeAction × ReasonCode :=
  let authority := authorityStatus tables envelope now
  match envelope.state with
  | .unknown => (.halt, .none)
  | .desired => (.awaitAuthorization, .none)
  | .authorized => if authority ≠ .none then (.rejectStale, authority) else (.retryApply, .none)
  | .dispatching => (.awaitVerification, .none)
  | .applied =>
    if authority ≠ .none then (.rejectStale, authority)
    else if envelope.requiresRevalidation then (.revalidate, .none)
    else if envelope.revalidateByNs ≠ 0 && envelope.revalidateByNs ≤ now then
      (.revalidate, .envelopeRevalidationUnknown)
    else (.none, .none)
  | .degraded =>
    if authority ≠ .none then (.revoke, authority)
    else if envelope.requiresRevalidation then (.revalidate, .none)
    else if envelope.cooldownUntilNs ≠ 0 && now < envelope.cooldownUntilNs then
      (.none, .envelopeCooldownActive)
    else if envelope.hasPlan && envelope.plan.ceilingUps < envelope.appliedRateUps then
      (.reduce, .applyOverDeliveredRevoking)
    else (.retryApply, .none)
  | .revokePending => (.revoke, .none)
  | .revoked => (.none, .none)
  | .stale =>
    if envelope.effectVerified || envelope.appliedRateUps ≠ 0 then (.revoke, .none)
    else (.rejectStale, .none)
  | .failed => (.halt, .none)
  | .unlisted _ _ => (.none, .none)

/-- The part of `make_view_locked` that says whether an envelope may be enforced. -/
def legallyEnforceableNow (tables : Tables) (envelope : RateEnvelope) (now : U64) : Bool :=
  let authority := authorityStatus tables envelope now
  let epochCurrent := !envelope.appliedEpoch.valid || envelope.appliedEpoch = tables.epoch
  let effectCurrent := envelope.effectVerified && epochCurrent && !envelope.requiresRevalidation
  envelope.state = .applied && authority = .none && effectCurrent

end Views

end RateGovernor.Model.Maintenance
