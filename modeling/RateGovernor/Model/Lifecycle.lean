import RateGovernor.Model.Authority
import RateGovernor.Model.Calls
import RateGovernor.Model.Plan

namespace RateGovernor.Model.Lifecycle

open CheckedMath Identity Reason Bucket Entities Envelope Plan EngineState Durability Authority
open Calls
open Foundation.KeyedTable

/-- A result, and the call the operation goes on with once the lock is released. -/
abbrev Answer (α : Type) := Except Error α × Option Call

def refuse {α : Type} (control : Control) (error : Error) : Decision (Answer α) :=
  conclude control (.error error, none)

/-- Stages objects in one transaction; the commit's own error is the answer when it fails. -/
def publish {α : Type} (failing settled : Control) (records : List Staged) (result : α)
    (next : Option Call) : Decision (Answer α) where
  records := records
  chunked := false
  failing := failing
  settled := settled
  reply
    | none => (.ok result, next)
    | some error => (.error error, none)

section Plans

def makePlanInputs (boot : WorkerBootId) (tables : Tables) (envelope : RateEnvelope) :
    PlanInputs where
  envelope := envelope.id
  envelopeGeneration := envelope.generation
  flow := envelope.flow
  flowGeneration := envelope.flowGeneration
  flowDef := tables.flows.find envelope.flow.value
  resource := envelope.resource
  resourceGeneration := envelope.resourceGeneration
  resourceDef := tables.resources.find envelope.resource.value
  grant := envelope.grant
  grantGeneration := envelope.grantGeneration
  grantDef := tables.grants.find envelope.grant.value
  hasReservation := envelope.hasReservation
  reservation := envelope.reservation
  reservationGeneration := envelope.reservationGeneration
  reservationDef := tables.reservations.find envelope.reservation.value
  policy := envelope.policy
  policyGeneration := envelope.policyGeneration
  policyDef := tables.policies.find envelope.policy.value
  backend := envelope.backend
  backendGeneration := envelope.backendGeneration
  backendDef := tables.backends.find envelope.backend.value
  epoch := tables.epoch
  boot := boot

def derivePlanLocked (engine : Engine) (envelope : RateEnvelope) (now : U64) : PlanOutcome :=
  derivePlan (makePlanInputs engine.config.boot engine.tables envelope) now

def backendStatus (tables : Tables) (envelope : RateEnvelope) (resource : Resource) : ReasonCode :=
  match tables.backends.find envelope.backend.value with
  | none => .envelopeStaleNoLiveAuthority
  | some backend =>
    if backend.generation ≠ envelope.backendGeneration then .envelopeStaleNoLiveAuthority
    else if envelope.hasPlan && resource.capacityUps < envelope.plan.ceilingUps then
      .envelopeStaleResourceCapacityReduced
    else .none

def reservationStatus (tables : Tables) (envelope : RateEnvelope) (resource : Resource) (now : U64) :
    ReasonCode :=
  if !envelope.hasReservation then backendStatus tables envelope resource
  else match tables.reservations.find envelope.reservation.value with
    | none => .envelopeStaleReservationExpired
    | some reservation =>
      if reservation.generation ≠ envelope.reservationGeneration then
        .envelopeStaleReservationExpired
      else if !reservation.active || !reservation.window.contains now then
        .envelopeStaleReservationExpired
      else backendStatus tables envelope resource

def policyStatus (tables : Tables) (envelope : RateEnvelope) (resource : Resource) (now : U64) :
    ReasonCode :=
  match tables.policies.find envelope.policy.value with
  | none => .envelopeStalePolicyGenerationChanged
  | some policy =>
    if policy.generation ≠ envelope.policyGeneration then .envelopeStalePolicyGenerationChanged
    else if !policy.active then .envelopeStalePolicyGenerationChanged
    else if !policy.window.contains now then .envelopeStalePolicyExpired
    else reservationStatus tables envelope resource now

def grantStatus (tables : Tables) (envelope : RateEnvelope) (resource : Resource) (now : U64) :
    ReasonCode :=
  match tables.grants.find envelope.grant.value with
  | none => .envelopeStaleGrantRecalled
  | some grant =>
    if grant.generation ≠ envelope.grantGeneration then .envelopeStaleGrantRecalled
    else if grant.state = .recalled then .envelopeStaleGrantRecalled
    else if !grant.active then .envelopeStaleGrantRecalled
    else if !grant.window.contains now then .envelopeStaleGrantExpired
    else policyStatus tables envelope resource now

/-- `none` when every authority the envelope is bound to is the stored one and valid at `now`. -/
def authorityStatus (tables : Tables) (envelope : RateEnvelope) (now : U64) : ReasonCode :=
  match tables.flows.find envelope.flow.value with
  | none => .envelopeStaleFlowGenerationChanged
  | some flow =>
    if flow.generation ≠ envelope.flowGeneration || !flow.active then
      .envelopeStaleFlowGenerationChanged
    else match tables.resources.find envelope.resource.value with
      | none => .envelopeStaleResourceGenerationChanged
      | some resource =>
        if resource.generation ≠ envelope.resourceGeneration then
          .envelopeStaleResourceGenerationChanged
        else if !resource.active then .envelopeStaleResourceGenerationChanged
        else grantStatus tables envelope resource now

end Plans

section Opening

/-- A requested generation of zero stands for the one stored now. -/
def resolve (requested : Generation) (stored : Option Generation) : Generation :=
  if requested.valid then requested else stored.getD {}

def openedEnvelope (engine : Engine) (request : EnvelopeRequest) (now : U64) : RateEnvelope where
  id := ⟨engine.control.nextEnvelopeId⟩
  generation := ⟨1⟩
  flow := request.flow
  flowGeneration := resolve request.flowGeneration
    ((engine.tables.flows.find request.flow.value).map (·.generation))
  resource := request.resource
  resourceGeneration := resolve request.resourceGeneration
    ((engine.tables.resources.find request.resource.value).map (·.generation))
  grant := request.grant
  grantGeneration := resolve request.grantGeneration
    ((engine.tables.grants.find request.grant.value).map (·.generation))
  hasReservation := request.hasReservation
  reservation := request.reservation
  reservationGeneration := resolve request.reservationGeneration
    ((engine.tables.reservations.find request.reservation.value).map (·.generation))
  policy := request.policy
  policyGeneration := resolve request.policyGeneration
    ((engine.tables.policies.find request.policy.value).map (·.generation))
  backend := request.backend
  backendGeneration := resolve request.backendGeneration
    ((engine.tables.backends.find request.backend.value).map (·.generation))
  state := .desired
  reason := .envelopeOpened
  annotation := request.annotation
  createdNs := now
  updatedNs := now

/-- The identity is taken before the commit, so a failed commit still consumes it. -/
def openEnvelope (engine : Engine) (request : EnvelopeRequest) (actor : ActorContext) (now : U64) :
    Decision (Answer RateEnvelopeId) :=
  let control := engine.control
  if control.shuttingDown then refuse (workRejected control) shuttingDownError
  else match checkActor engine actor with
    | some fence => refuse (fencingRejected control) (fencedError fence)
    | none =>
      if !request.flow.valid || !request.resource.valid || !request.grant.valid ||
          !request.policy.valid || !request.backend.valid then
        refuse control ⟨.invalidArgument, .malformedInput, "envelope binding is incomplete"⟩
      else if request.hasReservation && !request.reservation.valid then
        refuse control ⟨.invalidArgument, .malformedInput,
          "envelope requests a reservation without an identity"⟩
      else if !isBoundedText request.annotation engine.config.maxAttributeBytes.toNat then
        refuse control ⟨.invalidArgument, .malformedInput,
          "annotation is not bounded printable text"⟩
      else if engine.config.maxEnvelopes.toNat ≤ engine.tables.envelopes.size then
        refuse control ⟨.limitExceeded, .capacityLimitExceeded, "envelope table is full"⟩
      else
        let envelope := openedEnvelope engine request now
        let taken := { control with nextEnvelopeId := control.nextEnvelopeId + 1 }
        publish taken
          (Control.count taken fun c ↦ { c with envelopesOpened := c.envelopesOpened + 1 })
          [.envelope .envelopeOpened envelope] envelope.id none

end Opening

section Authorizing

def unauthorizedEnvelope (envelope : RateEnvelope) (reason : ReasonCode) (now : U64) :
    RateEnvelope :=
  { envelope with
    reason
    updatedNs := now
    state :=
      if envelope.state = .desired || envelope.state = .authorized then .failed
      else envelope.state }

def bindingUnchanged (envelope : RateEnvelope) (plan : EffectivePlan) : Bool :=
  envelope.hasPlan && envelope.plan.fingerprint.sameBinding plan.fingerprint &&
  envelope.plan.fingerprint.effectiveCeilingUps = plan.fingerprint.effectiveCeilingUps &&
  envelope.plan.fingerprint.effectiveBurstTokens = plan.fingerprint.effectiveBurstTokens

def authorizedEnvelope (envelope : RateEnvelope) (plan : EffectivePlan) (now : U64) :
    RateEnvelope :=
  let planned := { envelope with
    hasPlan := true
    plan
    planRevision := envelope.planRevision + 1
    updatedNs := now
    bucket :=
      if !envelope.bucket.initialized || envelope.bucket.capacity ≠ plan.burstTokens ||
          envelope.bucket.rateUps ≠ plan.ceilingUps then
        configureBucket plan.burstTokens plan.ceilingUps now
      else envelope.bucket }
  if envelope.state = .applied || envelope.state = .degraded then
    if bindingUnchanged envelope plan then planned
    else { planned with
      state := .degraded, reason := .envelopeReducedByPolicy, requiresRevalidation := false }
  else if envelope.state ≠ .revokePending && envelope.state ≠ .revoked then
    { planned with state := .authorized, reason := .envelopeAuthorized }
  else planned

def unknownEnvelope : Error := ⟨.notFound, .malformedInput, "unknown envelope"⟩

def authorize (engine : Engine) (id : RateEnvelopeId) (actor : ActorContext) (now : U64) :
    Decision (Answer PlanOutcome) :=
  let control := engine.control
  if control.shuttingDown then refuse (workRejected control) shuttingDownError
  else match checkActor engine actor with
    | some fence => refuse (fencingRejected control) (fencedError fence)
    | none => match engine.tables.envelopes.find id.value with
      | none => refuse control unknownEnvelope
      | some envelope =>
        let outcome := derivePlanLocked engine envelope now
        if !outcome.authorized then
          let counted := Control.count control fun c ↦ { c with plansDenied := c.plansDenied + 1 }
          publish counted counted
            [.envelope .envelopeStateChange (unauthorizedEnvelope envelope outcome.reason now)]
            outcome none
        else
          let counted :=
            Control.count control fun c ↦ { c with plansAuthorized := c.plansAuthorized + 1 }
          publish counted counted
            [.envelope .envelopeAuthorized (authorizedEnvelope envelope outcome.plan now)]
            outcome none

end Authorizing

section Applying

def makeApplyRequest (envelope : RateEnvelope) (attempt : EnforcementAttempt) : ApplyRequest where
  attempt := attempt.id
  envelope := envelope.id
  envelopeGeneration := envelope.generation
  fingerprint := attempt.fingerprint
  rateUps := envelope.plan.ceilingUps
  burstTokens := envelope.plan.burstTokens
  refill := envelope.plan.refill
  epoch := attempt.epoch
  boot := attempt.boot
  issuedNs := attempt.dispatchedNs

def noBackendSession : Error :=
  ⟨.backendFailure, .backendSessionLost, "no backend session admitted at the current fabric epoch"⟩

def sessionNotLive : Error :=
  ⟨.backendFailure, .backendSessionLost, "the enforcement session is no longer live"⟩

/-- The in-flight attempt that an equivalent request is absorbed by. -/
def inflightWithKey (tables : Tables) (key : U64) : Option EnforcementAttempt :=
  tables.attempts.entries.find? fun attempt ↦
    attempt.idempotencyKey = key && attemptInflight attempt.state

def deadlineAfter (config : EngineConfig) (now : U64) : U64 :=
  if config.attemptDeadlineNs = 0 then 0 else saturatingAdd now config.attemptDeadlineNs

/-- A refused apply records the reason and leaves the state as it is. -/
def deniedEnvelope (envelope : RateEnvelope) (reason : ReasonCode) (now : U64) : RateEnvelope :=
  { envelope with reason, updatedNs := now }

def replannedEnvelope (envelope : RateEnvelope) (plan : EffectivePlan) : RateEnvelope :=
  { envelope with hasPlan := true, plan, planRevision := envelope.planRevision + 1 }

/-- A plan whose binding and magnitudes are unchanged is kept as it was recorded. -/
def plannedEnvelope (envelope : RateEnvelope) (plan : EffectivePlan) : RateEnvelope :=
  if bindingUnchanged envelope plan then envelope else replannedEnvelope envelope plan

def applyAttempt (engine : Engine) (envelope : RateEnvelope) (boot : WorkerBootId) (now : U64) :
    EnforcementAttempt where
  id := ⟨engine.control.nextAttemptId⟩
  envelope := envelope.id
  envelopeGeneration := envelope.generation
  kind := .apply
  state := .created
  reason := .applyDispatched
  fingerprint := envelope.plan.fingerprint
  backend := envelope.backend
  backendGeneration := envelope.backendGeneration
  epoch := engine.tables.epoch
  boot := if boot.valid then boot else engine.config.boot
  sequence := engine.control.attemptSequence + 1
  idempotencyKey := computeIdempotencyKey envelope.id envelope.generation .apply
  createdNs := now
  dispatchedNs := now
  deadlineNs := deadlineAfter engine.config now
  requestedRateUps := envelope.plan.ceilingUps
  requestedBurstTokens := envelope.plan.burstTokens
  detail := ascii "apply dispatched"

def dispatchingEnvelope (envelope : RateEnvelope) (now : U64) : RateEnvelope :=
  { envelope with
    state := .dispatching
    reason := .applyDispatched
    updatedNs := now
    attemptsIssued := envelope.attemptsIssued + 1
    bucket := configureBucket envelope.plan.burstTokens envelope.plan.ceilingUps now }

def takeAttemptId (control : Control) : Control :=
  { control with
    nextAttemptId := control.nextAttemptId + 1, attemptSequence := control.attemptSequence + 1 }

/-- The first section of `apply` once the backend has been admitted. -/
def dispatchApply (engine : Engine) (envelope : RateEnvelope) (backend : Backend) (session : Session)
    (now : U64) : Decision (Answer Dispatch) :=
  let control := engine.control
  let outcome := derivePlanLocked engine envelope now
  if !outcome.authorized then
    let counted := Control.count control fun c ↦ { c with plansDenied := c.plansDenied + 1 }
    { records := [.envelope .envelopeStateChange (deniedEnvelope envelope outcome.reason now)]
      chunked := false
      failing := counted
      settled := counted
      reply
        | none => (.error ⟨.denied, outcome.reason, outcome.explanation⟩, none)
        | some error => (.error error, none) }
  else
    let planned := plannedEnvelope envelope outcome.plan
    let attempt := applyAttempt engine planned session.boot now
    let updated := dispatchingEnvelope planned now
    let taken := takeAttemptId control
    publish taken
      (Control.count taken fun c ↦ { c with appliesDispatched := c.appliesDispatched + 1 })
      ((if bindingUnchanged envelope outcome.plan then []
          else [.envelope .envelopeAuthorized planned]) ++
        [.created attempt, .envelope .envelopeStateChange updated])
      { attempt := attempt.id, dispatched := true, resultingState := updated.state,
        reason := .applyDispatched }
      (some (.applying ⟨envelope.id, attempt.id, makeApplyRequest updated attempt⟩ backend))

def apply (engine : Engine) (id : RateEnvelopeId) (actor : ActorContext) (now : U64)
    (session : Session) : Decision (Answer Dispatch) :=
  let control := engine.control
  if control.shuttingDown then refuse (workRejected control) shuttingDownError
  else match checkActor engine actor with
    | some fence => refuse (fencingRejected control) (fencedError fence)
    | none => match engine.tables.envelopes.find id.value with
      | none => refuse control unknownEnvelope
      | some envelope =>
        if envelope.state = .revoked then
          refuse control
            ⟨.conflict, .envelopeRevoked, "envelope is revoked; open a new binding"⟩
        else if envelope.cooldownUntilNs ≠ 0 && now < envelope.cooldownUntilNs then
          refuse control ⟨.denied, .envelopeCooldownActive,
            "envelope is in cooldown after a recent attempt"⟩
        else match inflightWithKey engine.tables
            (computeIdempotencyKey envelope.id envelope.generation .apply) with
          | some attempt =>
            conclude
              (Control.count control fun c ↦
                { c with idempotentReplays := c.idempotentReplays + 1 })
              (.ok { attempt := attempt.id, duplicate := true, reason := .attemptIdempotentReplay,
                     resultingState := envelope.state }, none)
          | none => match control.backend with
            | none => refuse control noBackendSession
            | some backend =>
              if !control.backendBound then refuse control noBackendSession
              else if !session.live then refuse control sessionNotLive
              else if backend.describe.id ≠ envelope.backend ||
                  backend.describe.generation ≠ envelope.backendGeneration then
                refuse control ⟨.staleAuthority, .attemptFencedByGeneration,
                  "bound backend identity does not match the envelope"⟩
              else dispatchApply engine envelope backend session now

end Applying

end RateGovernor.Model.Lifecycle
