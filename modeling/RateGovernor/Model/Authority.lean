import RateGovernor.Model.Durability

namespace RateGovernor.Model.Authority

open CheckedMath Identity Reason Entities Envelope EngineState Durability
open Foundation.KeyedTable

def Control.count (control : Control) (f : EngineCounters → EngineCounters) : Control :=
  { control with counters := f control.counters }

def workRejected (control : Control) : Control :=
  Control.count control fun c ↦ { c with workRejectedShutdown := c.workRejectedShutdown + 1 }

def fencingRejected (control : Control) : Control :=
  Control.count control fun c ↦ { c with fencingRejections := c.fencingRejections + 1 }

def shuttingDownError : Error :=
  ⟨.shuttingDown, .workRejectedDuringShutdown, "engine is shutting down"⟩

def fencedError (reason : ReasonCode) : Error := ⟨.fenced, reason, "actor incarnation is not current"⟩

/-- Why the actor is refused, if it is. -/
def checkActor (engine : Engine) (actor : ActorContext) : Option ReasonCode :=
  if !actor.hasIncarnation then some .unknownAuthority
  else if actor.epoch ≠ engine.tables.epoch then
    some (if actor.epoch.value < engine.tables.epoch.value then .attemptFencedByEpoch
      else .unknownAuthority)
  else if actor.boot ≠ engine.config.boot then some .attemptFencedByBoot
  else if !actor.provenance.authoritative then some .unknownAuthority
  else none

/-- A section that stages its objects in one transaction and passes a failed commit on. -/
def stage (control : Control) (records : List Staged) : Decision Status where
  records := records
  chunked := false
  failing := control
  settled := control
  reply := id

section Ingest

/-- The names and limits by which the six ingest operations differ. -/
structure Ingest where
  what : String
  stale : Error
  full : Error

def ingestPrecondition (reason : ReasonCode) (what : String) : Status :=
  if reason = .none then none
  else some ⟨if reason = .unknownAuthority then .denied else .invalidArgument, reason,
    "malformed " ++ what⟩

/-- A definition replaces the stored one only at a strictly newer generation. -/
def ingest (engine : Engine) (names : Ingest) (shape : ReasonCode) (existing : Option Generation)
    (generation : Generation) (size : ℕ) (limit : U64) (staged : Staged) : Decision Status :=
  if shape ≠ .none then conclude engine.control (ingestPrecondition shape names.what)
  else if engine.control.shuttingDown then
    conclude (workRejected engine.control) (some shuttingDownError)
  else match existing with
    | some stored =>
      if generation.value ≤ stored.value then conclude engine.control (some names.stale)
      else stage engine.control [staged]
    | none =>
      if limit.toNat ≤ size then conclude engine.control (some names.full)
      else stage engine.control [staged]

def putFlow (engine : Engine) (flow : Flow) : Decision Status :=
  ingest engine
    { what := "flow"
      stale := ⟨.staleAuthority, .envelopeStaleFlowGenerationChanged,
        "flow generation is not newer than the stored one"⟩
      full := ⟨.limitExceeded, .capacityLimitExceeded, "flow table is full"⟩ }
    flow.validateStructure ((engine.tables.flows.find flow.id.value).map (·.generation))
    flow.generation engine.tables.flows.size engine.config.maxFlows (.flow flow)

def putGrant (engine : Engine) (grant : Grant) : Decision Status :=
  ingest engine
    { what := "grant"
      stale := ⟨.staleAuthority, .planRejectedGrantGenerationMismatch,
        "grant generation is not newer than the stored one"⟩
      full := ⟨.limitExceeded, .capacityLimitExceeded, "grant table is full"⟩ }
    grant.validateStructure ((engine.tables.grants.find grant.id.value).map (·.generation))
    grant.generation engine.tables.grants.size engine.config.maxGrants (.grant .grantPut grant)

def putReservation (engine : Engine) (reservation : Reservation) : Decision Status :=
  ingest engine
    { what := "reservation"
      stale := ⟨.staleAuthority, .planRejectedReservationGenerationMismatch,
        "reservation generation is not newer than the stored one"⟩
      full := ⟨.limitExceeded, .capacityLimitExceeded, "reservation table is full"⟩ }
    reservation.validateStructure
    ((engine.tables.reservations.find reservation.id.value).map (·.generation))
    reservation.generation engine.tables.reservations.size engine.config.maxReservations
    (.reservation .reservationPut reservation)

def putPolicy (engine : Engine) (policy : Policy) : Decision Status :=
  ingest engine
    { what := "policy"
      stale := ⟨.staleAuthority, .planRejectedPolicyGenerationMismatch,
        "policy generation is not newer than the stored one"⟩
      full := ⟨.limitExceeded, .capacityLimitExceeded, "policy table is full"⟩ }
    policy.validateStructure ((engine.tables.policies.find policy.id.value).map (·.generation))
    policy.generation engine.tables.policies.size engine.config.maxPolicies
    (.policy .policyPut policy)

def putResource (engine : Engine) (resource : Resource) : Decision Status :=
  ingest engine
    { what := "resource"
      stale := ⟨.staleAuthority, .planRejectedResourceGenerationMismatch,
        "resource generation is not newer than the stored one"⟩
      full := ⟨.limitExceeded, .capacityLimitExceeded, "resource table is full"⟩ }
    resource.validateStructure
    ((engine.tables.resources.find resource.id.value).map (·.generation))
    resource.generation engine.tables.resources.size engine.config.maxResources
    (.resource .resourcePut resource)

def putBackend (engine : Engine) (backend : BackendDescriptor) : Decision Status :=
  ingest engine
    { what := "backend descriptor"
      stale := ⟨.staleAuthority, .planRejectedBackendGenerationMismatch,
        "backend generation is not newer than the stored one"⟩
      full := ⟨.limitExceeded, .capacityLimitExceeded, "backend table is full"⟩ }
    backend.validateStructure ((engine.tables.backends.find backend.id.value).map (·.generation))
    backend.generation engine.tables.backends.size engine.config.maxBackends (.backend backend)

end Ingest

section StateChange

/-- A state change advances the generation it is given, which has to be the stored one. -/
def changeState {α : Type} (engine : Engine) (actor : ActorContext) (found : Option α)
    (missing mismatch : Error) (current : α → Bool) (staged : α → Staged) : Decision Status :=
  if engine.control.shuttingDown then
    conclude (workRejected engine.control) (some shuttingDownError)
  else match checkActor engine actor with
    | some fence => conclude (fencingRejected engine.control) (some (fencedError fence))
    | none => match found with
      | none => conclude engine.control (some missing)
      | some stored =>
        if !current stored then conclude engine.control (some mismatch)
        else stage engine.control [staged stored]

def changeGrantState (engine : Engine) (id : GrantId) (generation : Generation) (state : GrantState)
    (actor : ActorContext) : Decision Status :=
  changeState engine actor (engine.tables.grants.find id.value)
    ⟨.notFound, .planRejectedMissingGrant, "unknown grant"⟩
    ⟨.staleAuthority, .planRejectedGrantGenerationMismatch,
      "grant generation does not match the current generation"⟩
    (fun grant ↦ grant.generation = generation)
    fun grant ↦ .grant .grantStateChange { grant with
      generation := ⟨generation.value + 1⟩, state, provenance := actor.provenance }

def changeReservationState (engine : Engine) (id : ReservationId) (generation : Generation)
    (state : ReservationState) (actor : ActorContext) : Decision Status :=
  changeState engine actor (engine.tables.reservations.find id.value)
    ⟨.notFound, .planRejectedMissingReservation, "unknown reservation"⟩
    ⟨.staleAuthority, .planRejectedReservationGenerationMismatch,
      "reservation generation does not match the current generation"⟩
    (fun reservation ↦ reservation.generation = generation)
    fun reservation ↦ .reservation .reservationStateChange { reservation with
      generation := ⟨generation.value + 1⟩, state, provenance := actor.provenance }

def changePolicyState (engine : Engine) (id : PolicyId) (generation : Generation)
    (state : PolicyState) (actor : ActorContext) : Decision Status :=
  changeState engine actor (engine.tables.policies.find id.value)
    ⟨.notFound, .planRejectedMissingPolicy, "unknown policy"⟩
    ⟨.staleAuthority, .planRejectedPolicyGenerationMismatch,
      "policy generation does not match the current generation"⟩
    (fun policy ↦ policy.generation = generation)
    fun policy ↦ .policy .policyStateChange { policy with
      generation := ⟨generation.value + 1⟩, state, provenance := actor.provenance }

def changeResourceState (engine : Engine) (id : ResourceId) (generation : Generation)
    (state : ResourceState) (actor : ActorContext) : Decision Status :=
  changeState engine actor (engine.tables.resources.find id.value)
    ⟨.notFound, .planRejectedUnknownResource, "unknown resource"⟩
    ⟨.staleAuthority, .planRejectedResourceGenerationMismatch,
      "resource generation does not match the current generation"⟩
    (fun resource ↦ resource.generation = generation)
    fun resource ↦ .resource .resourceStateChange { resource with
      generation := ⟨generation.value + 1⟩, state, provenance := actor.provenance }

end StateChange

section Epoch

/-- What an epoch advance makes of an envelope that holds or claims an effect. -/
def epochDemoted (now : U64) (envelope : RateEnvelope) : Option RateEnvelope :=
  let holdsOrClaims := envelope.effectVerified || envelope.appliedRateUps ≠ 0 ||
    envelope.state = .applied || envelope.state = .dispatching
  if !holdsOrClaims && !envelope.requiresRevalidation then none
  else
    let active := envelope.state = .applied || envelope.state = .dispatching
    some { envelope with
      requiresRevalidation := true
      effectVerified := false
      state := if active then .degraded else envelope.state
      reason := if active then .envelopeStaleFabricEpochAdvanced else envelope.reason
      updatedNs := now }

def advanceEpoch (engine : Engine) (newEpoch : FabricEpoch) (actor : ActorContext) (now : U64) :
    Decision Status :=
  if !newEpoch.valid || newEpoch.value ≤ engine.tables.epoch.value then
    conclude engine.control (some ⟨.invalidArgument, .malformedInput,
      "a new fabric epoch must be strictly greater than the current one"⟩)
  else match checkActor engine actor with
    | some fence => conclude (fencingRejected engine.control) (some (fencedError fence))
    | none =>
      let updated := engine.tables.envelopes.entries.filterMap (epochDemoted now)
      { records := .epoch newEpoch .envelopeStaleFabricEpochAdvanced ::
          updated.map (.envelope .envelopeStateChange)
        chunked := false
        failing := engine.control
        settled := Control.count
          { engine.control with backendBound := false, backendSessionEpoch := {} }
          fun c ↦ { c with
            staleTransitions := c.staleTransitions + UInt64.ofNat updated.length }
        reply := id }

/-- A backend is admitted only when its own report and the caller's claim both name the current
epoch. -/
def bindBackend (engine : Engine) (backend : Option Backend) (sessionEpoch : FabricEpoch)
    (session : Session) : Decision Unit :=
  let reported := if backend.isNone then {} else session.epoch
  let epochAgrees :=
    reported.valid && reported = engine.tables.epoch && sessionEpoch = engine.tables.epoch
  let bound := backend.isSome && session.live && epochAgrees
  let control := { engine.control with
    backend, backendSessionEpoch := sessionEpoch, backendBound := bound }
  conclude (if bound then control else fencingRejected control) ()

end Epoch

end RateGovernor.Model.Authority
