import RateGovernor.Model.EngineState

namespace RateGovernor.Model.Durability

open CheckedMath Identity Reason Entities Envelope RecordCodec EnvelopeCodec Journal JournalWriter
open EngineState Foundation.ByteCodec Foundation.KeyedTable

def kMaxRecordsPerTransaction : ℕ := 256

/-- The current authoritative state as staged objects, in the order the snapshot lists them. -/
def Tables.snapshot (tables : Tables) : List Staged :=
  tables.flows.entries.map .flow ++
  tables.grants.entries.map (.grant .grantPut) ++
  tables.reservations.entries.map (.reservation .reservationPut) ++
  tables.policies.entries.map (.policy .policyPut) ++
  tables.resources.entries.map (.resource .resourcePut) ++
  tables.backends.entries.map .backend ++
  [.epoch tables.epoch .none] ++
  tables.envelopes.entries.map (.envelope .envelopeOpened) ++
  tables.attempts.entries.map .created

def buildSnapshotRecords (config : EngineConfig) (tables : Tables) :
    List (JournalRecordType × Bytes) :=
  (Tables.snapshot tables).map (Staged.record config.boot)

def journalError (message : String) : Error := ⟨.journalFailure, .journalAppendFailed, message⟩

/-- A failed journal operation degrades durability for good. -/
def degrade (durability : Durability) (failure : JournalFailure) : Durability :=
  { durability with
    degraded := true
    message := "journal " ++ failure.status.toStringView ++ ": " ++ failure.message
    journalFailures := durability.journalFailures + 1 }

def appendAll : List (JournalRecordType × Bytes) → JournalFile → Io → Written
  | [], journal, io => { journal, failure := none, io }
  | (type, payload) :: records, journal, io =>
    let result := journal.append type payload io
    match result.failure with
    | some _ => result
    | none => appendAll records result.journal result.io

/-- One transaction: a failed begin or append is rolled back, a failed commit is not. -/
def writeTransaction (journal : JournalFile) (txn : U64)
    (records : List (JournalRecordType × Bytes)) (io : Io) : Written :=
  let opened := journal.begin txn io
  match opened.failure with
  | some _ => { opened with journal := opened.journal.rollback }
  | none =>
    let staged := appendAll records opened.journal opened.io
    match staged.failure with
    | some _ => { staged with journal := staged.journal.rollback }
    | none => staged.journal.commit staged.io

/-- Compaction runs inside the commit, so its snapshot shows the tables as they were before the
section writes its own objects to them. -/
def maybeCompact (config : EngineConfig) (tables : Tables) (durability : Durability)
    (journal : JournalFile) (io : Io) : Durability × Io :=
  if !journal.isOpen then ({ durability with journal := some journal }, io)
  else if journal.config.maxBytes = 0 || journal.sizeBytes ≤ journal.config.maxBytes then
    ({ durability with journal := some journal }, io)
  else
    let result := journal.compactWith (buildSnapshotRecords config tables) io
    match result.failure with
    | some failure => (degrade { durability with journal := some result.journal } failure, result.io)
    | none =>
      ({ durability with
          journal := some result.journal, compactions := durability.compactions + 1 }, result.io)

structure Committed where
  durability : Durability
  status : Status
  io : Io

def commitRecords (config : EngineConfig) (tables : Tables) (durability : Durability)
    (records : List (JournalRecordType × Bytes)) (io : Io) : Committed :=
  if config.durability ≠ .strict then ⟨durability, none, io⟩
  else if durability.degraded then ⟨durability, some (journalError durability.message), io⟩
  else match durability.journal with
    | none =>
      ⟨durability, some (journalError "strict durability requires an open journal"), io⟩
    | some journal =>
      if !journal.isOpen then
        ⟨durability, some (journalError "strict durability requires an open journal"), io⟩
      else if records = [] then ⟨durability, none, io⟩
      else
        let result := writeTransaction journal durability.nextTxnId records io
        let durability := { durability with nextTxnId := durability.nextTxnId + 1 }
        match result.failure with
        | some failure =>
          let durability := degrade { durability with journal := some result.journal } failure
          ⟨durability, some (journalError durability.message), result.io⟩
        | none =>
          let (durability, io) :=
            maybeCompact config tables
              { durability with journalCommits := durability.journalCommits + 1 } result.journal
              result.io
          ⟨durability, none, io⟩

/-- Transactions of at most 256 records each, stopping at the first that fails. -/
def commitMany (config : EngineConfig) (tables : Tables) :
    ℕ → Durability → List (JournalRecordType × Bytes) → Io → Committed
  | 0, durability, _, io => ⟨durability, none, io⟩
  | fuel + 1, durability, records, io =>
    if records = [] then ⟨durability, none, io⟩
    else
      let committed :=
        commitRecords config tables durability (records.take kMaxRecordsPerTransaction) io
      match committed.status with
      | some _ => committed
      | none =>
        commitMany config tables fuel committed.durability
          (records.drop kMaxRecordsPerTransaction) committed.io

/-- What one critical section does: the objects it stages, how it leaves the in-memory control
state when the commit fails and when it succeeds, and what follows. A section that stages nothing
does not call the journal. -/
structure Decision (ρ : Type) where
  records : List Staged
  chunked : Bool
  failing : Control
  settled : Control
  reply : Status → ρ

def Decision.commit {ρ : Type} (decision : Decision ρ) (engine : Engine) (io : Io) : Committed :=
  let records := decision.records.map (Staged.record engine.config.boot)
  if decision.chunked then
    commitMany engine.config engine.tables records.length engine.durability records io
  else commitRecords engine.config engine.tables engine.durability records io

/-- Write-ahead: memory is written only after the commit has reported success, and with exactly
the objects that were staged. -/
def Decision.perform {ρ : Type} (decision : Decision ρ) (engine : Engine) (io : Io) : Engine × ρ × Io :=
  if decision.records.isEmpty then
    ({ engine with control := decision.settled }, decision.reply none, io)
  else
    let committed := decision.commit engine io
    match committed.status with
    | some error =>
      ({ engine with control := decision.failing, durability := committed.durability },
        decision.reply (some error), committed.io)
    | none =>
      ({ engine with
          control := decision.settled
          tables := decision.records.foldl (Tables.install engine.config) engine.tables
          durability := committed.durability },
        decision.reply none, committed.io)

/-- A section that changes no object. -/
def conclude {ρ : Type} (control : Control) (result : ρ) : Decision ρ where
  records := []
  chunked := false
  failing := control
  settled := control
  reply _ := result

/-- What `apply_snapshot_records` rebuilds. -/
structure Replay where
  tables : Tables
  nextEnvelopeId : U64
  nextAttemptId : U64
  orphans : U64

def Replay.orphan (replay : Replay) : Replay := { replay with orphans := replay.orphans + 1 }

def decodePayload {α : Type} (reader : Reader α) (payload : Bytes) : Option α :=
  (reader payload).map (·.1)

def Replay.restoreEnvelope (replay : Replay) (envelope : RateEnvelope) : Replay :=
  { replay with
    tables := { replay.tables with envelopes := replay.tables.envelopes.put envelope }
    nextEnvelopeId :=
      if replay.nextEnvelopeId ≤ envelope.id.value then envelope.id.value + 1
      else replay.nextEnvelopeId }

def Replay.restoreAttempt (config : EngineConfig) (replay : Replay) (attempt : EnforcementAttempt) :
    Replay :=
  { replay with
    tables := replay.tables.retainAttempt config attempt
    nextAttemptId :=
      if replay.nextAttemptId ≤ attempt.id.value then attempt.id.value + 1
      else replay.nextAttemptId }

/-- A partial record patches an envelope that must already be there, at the same generation. -/
def Replay.patchCounters (replay : Replay) (patch : BucketPatch) : Replay :=
  match replay.tables.envelopes.find patch.id.value with
  | none => replay.orphan
  | some envelope =>
    if envelope.generation ≠ patch.generation then replay.orphan
    else
      let patched := { envelope with
        bucket := patch.bucket
        createdNs := patch.createdNs
        updatedNs := patch.updatedNs
        attemptsIssued := patch.attemptsIssued
        completionsApplied := patch.completionsApplied
        completionsRejected := patch.completionsRejected }
      { replay with
        tables := { replay.tables with envelopes := replay.tables.envelopes.put patched } }

def Replay.record (config : EngineConfig) (replay : Replay) (type : JournalRecordType)
    (payload : Bytes) : Replay :=
  let tables := replay.tables
  match type with
  | .fileHeader | .txnBegin | .txnCommit | .compactionMarker => replay
  | .flowPut => match decodePayload decodeFlow payload with
    | none => replay
    | some flow => { replay with tables := { tables with flows := tables.flows.put flow } }
  | .grantPut | .grantStateChange => match decodePayload decodeGrant payload with
    | none => replay.orphan
    | some grant => { replay with tables := { tables with grants := tables.grants.put grant } }
  | .reservationPut | .reservationStateChange => match decodePayload decodeReservation payload with
    | none => replay.orphan
    | some reservation =>
      { replay with
        tables := { tables with reservations := tables.reservations.put reservation } }
  | .policyPut | .policyStateChange => match decodePayload decodePolicy payload with
    | none => replay.orphan
    | some policy =>
      { replay with tables := { tables with policies := tables.policies.put policy } }
  | .resourcePut | .resourceStateChange => match decodePayload decodeResource payload with
    | none => replay.orphan
    | some resource =>
      { replay with tables := { tables with resources := tables.resources.put resource } }
  | .backendPut => match decodePayload decodeBackend payload with
    | none => replay
    | some backend =>
      { replay with tables := { tables with backends := tables.backends.put backend } }
  | .epochAdvance => match decodePayload decodeEpochPayload payload with
    | none => replay
    | some (epoch, _, _) =>
      if epoch.valid && tables.epoch.value < epoch.value then
        { replay with tables := { tables with epoch } }
      else replay
  | .envelopeOpened | .envelopeBindingChange | .envelopeAuthorized | .envelopeStateChange
  | .envelopeEffectRecorded => match decodePayload decodeEnvelope payload with
    | none => replay.orphan
    | some envelope => replay.restoreEnvelope envelope
  | .envelopeCounters => match decodePayload decodeBucketPayload payload with
    | none => replay.orphan
    | some patch => replay.patchCounters patch
  | .attemptCreated | .attemptDispatched | .attemptAcknowledged | .attemptTerminated
  | .attemptVerified | .attemptCompensating => match decodePayload decodeAttempt payload with
    | none => replay.orphan
    | some attempt => replay.restoreAttempt config attempt
  | .unknown | .unlisted _ _ => replay.orphan

/-- What an engine of this configuration starts a replay from. -/
def Replay.fresh (config : EngineConfig) : Replay where
  tables := { epoch := if config.initialEpoch.valid then config.initialEpoch else ⟨1⟩ }
  nextEnvelopeId := 1
  nextAttemptId := 1
  orphans := 0

def applySnapshotRecords (config : EngineConfig) (replay : Replay) (records : List JournalRecord) :
    Replay :=
  records.foldl (fun replay record ↦ replay.record config record.type record.payload) replay

end RateGovernor.Model.Durability
