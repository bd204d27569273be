import RateGovernor.Foundation.KeyedTable
import RateGovernor.Model.EnvelopeCodec
import RateGovernor.Model.JournalWriter

namespace RateGovernor.Model.EngineState

open CheckedMath Identity Reason Entities Envelope RecordCodec EnvelopeCodec Journal JournalWriter
open Foundation.ByteCodec Foundation.KeyedTable

inductive DurabilityMode
  | none | strict
  deriving DecidableEq

structure EngineConfig where
  initialEpoch : FabricEpoch := ⟨1⟩
  boot : WorkerBootId := ⟨1⟩
  advanceEpochOnRecovery : Bool := true
  durability : DurabilityMode := .strict
  maxEnvelopes : U64 := 4096
  maxFlows : U64 := 4096
  maxGrants : U64 := 4096
  maxReservations : U64 := 4096
  maxPolicies : U64 := 4096
  maxResources : U64 := 4096
  maxBackends : U64 := 64
  maxAttemptsPerEnvelope : U64 := 32
  maxAttributeBytes : U64 := 256
  attemptDeadlineNs : U64 := 0
  revalidateIntervalNs : U64 := 0
  journal : JournalConfig := {}

/-- The defaults the constructor puts in place of zero values. -/
def EngineConfig.normalized (config : EngineConfig) : EngineConfig :=
  { config with
    boot := if config.boot.valid then config.boot else ⟨1⟩
    maxAttributeBytes := if config.maxAttributeBytes = 0 then 256 else config.maxAttributeBytes
    maxAttemptsPerEnvelope :=
      if config.maxAttemptsPerEnvelope = 0 then 1 else config.maxAttemptsPerEnvelope }

/-- A backend object, known to the engine by what it describes itself as. -/
structure Backend where
  describe : BackendDescriptor

/-- What a backend answers about its session at the moment it is asked. -/
structure Session where
  live : Bool := true
  epoch : FabricEpoch := {}
  boot : WorkerBootId := {}

/-- The authoritative objects: everything the journal records. -/
structure Tables where
  epoch : FabricEpoch
  flows : Registry Flow (·.id.value) := .empty
  grants : Registry Grant (·.id.value) := .empty
  reservations : Registry Reservation (·.id.value) := .empty
  policies : Registry Policy (·.id.value) := .empty
  resources : Registry Resource (·.id.value) := .empty
  backends : Registry BackendDescriptor (·.id.value) := .empty
  envelopes : Registry RateEnvelope (·.id.value) := .empty
  attempts : Registry EnforcementAttempt (·.id.value) := .empty
  attemptOrder : List U64 := []
  attemptsByEnvelope : Table (List U64) := ∅

structure EngineCounters where
  envelopesOpened : U64 := 0
  plansAuthorized : U64 := 0
  plansDenied : U64 := 0
  appliesDispatched : U64 := 0
  appliesVerified : U64 := 0
  appliesDegraded : U64 := 0
  revokesDispatched : U64 := 0
  revokesVerified : U64 := 0
  completionsRejected : U64 := 0
  completionsDuplicate : U64 := 0
  staleTransitions : U64 := 0
  fencingRejections : U64 := 0
  idempotentReplays : U64 := 0
  workRejectedShutdown : U64 := 0
  clockRegressions : U64 := 0
  tokenConsumptions : U64 := 0
  tokenStarvations : U64 := 0
  deriving DecidableEq

/-- The part of the engine that lives only in memory. -/
structure Control where
  backend : Option Backend := none
  backendBound : Bool := false
  backendSessionEpoch : FabricEpoch := {}
  nextEnvelopeId : U64 := 1
  nextAttemptId : U64 := 1
  attemptSequence : U64 := 0
  recoveryOrphanRecords : U64 := 0
  lastTickNs : U64 := 0
  tickSeen : Bool := false
  shuttingDown : Bool := false
  counters : EngineCounters := {}

structure Durability where
  journal : Option JournalFile := none
  degraded : Bool := false
  message : String := ""
  nextTxnId : U64 := 1
  journalCommits : U64 := 0
  journalFailures : U64 := 0
  compactions : U64 := 0

structure Engine where
  config : EngineConfig
  control : Control := {}
  tables : Tables
  durability : Durability := {}

/-- The stored attempt with this identity is terminal. -/
def Tables.terminalAt (tables : Tables) (id : U64) : Bool :=
  match tables.attempts.find id with
  | some attempt => attemptStateIsTerminal attempt.state
  | none => false

/-- The per-envelope loop of `retain_attempt_locked`: while the list is too long, its first
terminal attempt is forgotten; in-flight ones stay. -/
def evictTerminal (limit : U64) : ℕ → Tables → List U64 → Tables × List U64
  | 0, tables, list => (tables, list)
  | fuel + 1, tables, list =>
    if list.length ≤ limit.toNat then (tables, list)
    else match list.find? tables.terminalAt with
      | none => (tables, list)
      | some victim =>
        evictTerminal limit fuel
          { tables with
            attempts := tables.attempts.remove victim
            attemptOrder := tables.attemptOrder.filter (· ≠ victim) }
          (list.erase victim)

/-- The loop over all attempts: the oldest go, whatever their state, beyond the product of the
two limits. -/
def evictOldest (limit : U64) (tables : Tables) : Tables :=
  let excess := tables.attemptOrder.length - limit.toNat
  { tables with
    attempts := (tables.attemptOrder.take excess).foldl Registry.remove tables.attempts
    attemptOrder := tables.attemptOrder.drop excess }

def Tables.attemptList (tables : Tables) (envelope : RateEnvelopeId) : List U64 :=
  (tables.attemptsByEnvelope[envelope.value]?).getD []

/-- The envelope's list with the attempt in it. -/
def Tables.enlisted (tables : Tables) (attempt : EnforcementAttempt) : List U64 :=
  let list := tables.attemptList attempt.envelope
  if list.contains attempt.id.value then list else list ++ [attempt.id.value]

/-- Stores the attempt; one its envelope did not list yet is also the youngest of all. -/
def Tables.enlist (tables : Tables) (attempt : EnforcementAttempt) : Tables :=
  { tables with
    attempts := tables.attempts.put attempt
    attemptOrder :=
      if (tables.attemptList attempt.envelope).contains attempt.id.value then tables.attemptOrder
      else tables.attemptOrder ++ [attempt.id.value] }

def Tables.retainAttempt (config : EngineConfig) (tables : Tables) (attempt : EnforcementAttempt) :
    Tables :=
  let list := tables.enlisted attempt
  let evicted :=
    evictTerminal config.maxAttemptsPerEnvelope list.length (tables.enlist attempt) list
  evictOldest (config.maxEnvelopes * config.maxAttemptsPerEnvelope)
    { evicted.1 with
      attemptsByEnvelope := evicted.1.attemptsByEnvelope.insert attempt.envelope.value evicted.2 }

/-- An object a critical section stages for the journal and, once the commit has succeeded,
writes to memory. The type is the one of the record it is journalled under. -/
inductive Staged
  | flow (flow : Flow)
  | grant (type : JournalRecordType) (grant : Grant)
  | reservation (type : JournalRecordType) (reservation : Reservation)
  | policy (type : JournalRecordType) (policy : Policy)
  | resource (type : JournalRecordType) (resource : Resource)
  | backend (backend : BackendDescriptor)
  | epoch (epoch : FabricEpoch) (reason : ReasonCode)
  | envelope (type : JournalRecordType) (envelope : RateEnvelope)
  | created (attempt : EnforcementAttempt)
  | attempt (type : JournalRecordType) (attempt : EnforcementAttempt)

def Staged.record (boot : WorkerBootId) : Staged → JournalRecordType × Bytes
  | .flow value => (.flowPut, encodeFlow value)
  | .grant type value => (type, encodeGrant value)
  | .reservation type value => (type, encodeReservation value)
  | .policy type value => (type, encodePolicy value)
  | .resource type value => (type, encodeResource value)
  | .backend value => (.backendPut, encodeBackend value)
  | .epoch value reason => (.epochAdvance, encodeEpochPayload value boot reason)
  | .envelope type value => (type, encodeEnvelope value)
  | .created value => (.attemptCreated, encodeAttempt value)
  | .attempt type value => (type, encodeAttempt value)

/-- The write to memory that follows the commit of a staged object. -/
def Tables.install (config : EngineConfig) (tables : Tables) : Staged → Tables
  | .flow flow => { tables with flows := tables.flows.put flow }
  | .grant _ grant => { tables with grants := tables.grants.put grant }
  | .reservation _ reservation =>
    { tables with reservations := tables.reservations.put reservation }
  | .policy _ policy => { tables with policies := tables.policies.put policy }
  | .resource _ resource => { tables with resources := tables.resources.put resource }
  | .backend backend => { tables with backends := tables.backends.put backend }
  | .epoch epoch _ => { tables with epoch }
  | .envelope _ envelope => { tables with envelopes := tables.envelopes.put envelope }
  | .created attempt => tables.retainAttempt config attempt
  | .attempt _ attempt => { tables with attempts := tables.attempts.put attempt }

end RateGovernor.Model.EngineState
