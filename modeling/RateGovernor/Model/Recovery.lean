import RateGovernor.Model.Execution

namespace RateGovernor.Model.Recovery

open CheckedMath Identity Reason Entities Envelope RecordCodec EnvelopeCodec Journal JournalWriter
open EngineState Durability Authority Maintenance Execution Foundation.ByteCodec

def higherEpoch (highest epoch : FabricEpoch) : FabricEpoch :=
  if highest.value < epoch.value then epoch else highest

/-- The epochs one committed record mentions. -/
def mentionedEpoch (highest : FabricEpoch) (record : JournalRecord) : FabricEpoch :=
  match record.type with
  | .epochAdvance => match decodePayload decodeEpochPayload record.payload with
    | none => highest
    | some (epoch, _, _) => higherEpoch highest epoch
  | .envelopeOpened | .envelopeAuthorized | .envelopeStateChange | .envelopeBindingChange
  | .envelopeEffectRecorded => match decodePayload decodeEnvelope record.payload with
    | none => highest
    | some envelope =>
      let highest := higherEpoch highest envelope.appliedEpoch
      if envelope.hasPlan then higherEpoch highest envelope.plan.fingerprint.epoch else highest
  | .attemptCreated | .attemptDispatched | .attemptAcknowledged | .attemptTerminated
  | .attemptVerified => match decodePayload decodeAttempt record.payload with
    | none => highest
    | some attempt => higherEpoch highest attempt.epoch
  | _ => highest

def highestRecordedEpoch (records : List JournalRecord) : FabricEpoch :=
  records.foldl mentionedEpoch {}

/-- `apply_snapshot_records` on an engine. -/
def restored (engine : Engine) (records : List JournalRecord) : Engine :=
  let replay := applySnapshotRecords engine.config
    { tables := engine.tables
      nextEnvelopeId := engine.control.nextEnvelopeId
      nextAttemptId := engine.control.nextAttemptId
      orphans := engine.control.recoveryOrphanRecords } records
  { engine with
    tables := replay.tables
    control := { engine.control with
      nextEnvelopeId := replay.nextEnvelopeId
      nextAttemptId := replay.nextAttemptId
      recoveryOrphanRecords := replay.orphans } }

def recoveryActor (epoch : FabricEpoch) (boot : WorkerBootId) : ActorContext where
  epoch := epoch
  boot := boot
  provenance :=
    { source := .operator, epoch, boot, detail := ascii "recovery of a previous incarnation" }

def scanFailure (scan : JournalScanResult) : Error :=
  ⟨.journalFailure,
    if scan.status = .versionUnsupported then .journalVersionUnsupported else .journalCorruptRecord,
    scan.message⟩

def reopenFailure : Error :=
  ⟨.journalFailure, .journalAppendFailed,
    "cannot reopen the journal for append: cannot open journal file"⟩

/-- The configuration the recovered engine runs with. -/
def effectiveConfig (config : EngineConfig) (records : List JournalRecord) : EngineConfig :=
  let recorded := highestRecordedEpoch records
  { config with
    initialEpoch := if recorded.valid then recorded else config.initialEpoch
    durability := .strict }

/-- The engine as it is built over the reopened file, before anything is replayed: its banner is
already appended. -/
def reopened (config : EngineConfig) (file : Bytes) (io : Io) : Engine × Io :=
  construct config none {} (some (JournalFile.reopen config.journal file)) io

/-- The epoch advance that ends a recovery, where it is configured. -/
def advancedOnRecovery (engine : Engine) (actor : ActorContext) (now : U64) (io : Io) :
    Engine × Status × Io :=
  if engine.config.advanceEpochOnRecovery then
    (advanceEpoch engine ⟨engine.tables.epoch.value + 1⟩ actor now).perform engine io
  else (engine, none, io)

/-- `recover_engine` with its default arguments: a torn tail is left in the file. -/
def recoverEngine (config : EngineConfig) (file : Bytes) (demotedNs advancedNs : U64) (io : Io) :
    Except Error Engine :=
  let scan := scanJournalFile file
  if !scan.ok then .error (scanFailure scan)
  else match io with
    | .failed _ :: _ => .error reopenFailure
    | io =>
      let effective := effectiveConfig config scan.committed
      let built := reopened effective file io.tail
      let engine := restored built.1 scan.committed
      let actor := recoveryActor engine.tables.epoch effective.boot
      let demoted := (demoteForRecovery engine actor demotedNs).perform engine built.2
      match demoted.2.1 with
      | some error => .error error
      | none =>
        let advanced := advancedOnRecovery demoted.1 actor advancedNs demoted.2.2
        match advanced.2.1 with
        | some error => .error error
        | none => .ok advanced.1

/-- The compaction that drops a torn tail at the end of a recovery. Its failure is only noted. -/
def tailDropped (truncate : Bool) (scan : JournalScanResult) (engine : Engine) (io : Io) : Engine :=
  if truncate && scan.truncatedTail then
    match engine.durability.journal with
    | none => engine
    | some journal =>
      { engine with durability := { engine.durability with
          journal := some
            (journal.compactWith (buildSnapshotRecords engine.config engine.tables) io).journal } }
  else engine

/-- `recover_engine` with its last argument given. The answers to the closing compaction are
`tailIo`. -/
def recoverEngineWith (truncate : Bool) (config : EngineConfig) (file : Bytes)
    (demotedNs advancedNs : U64) (io tailIo : Io) : Except Error Engine :=
  match recoverEngine config file demotedNs advancedNs io with
  | .error error => .error error
  | .ok engine => .ok (tailDropped truncate (scanJournalFile file) engine tailIo)

/-- A crash that leaves so many bytes of the journal, and the recovery from it. -/
structure Crash where
  cut : ℕ
  config : EngineConfig
  demotedNs : U64
  advancedNs : U64
  io : Io

/-- What happens to a process: an event of its engine, or a crash followed by a recovery. -/
inductive Incident
  | act (action : Action)
  | crash (crash : Crash)

def journalFile (system : System) : Option Bytes :=
  system.engine.durability.journal.map (·.file)

def recovered (system : System) (crash : Crash) : Option System :=
  (journalFile system).bind fun file ↦
    match recoverEngine crash.config (file.take crash.cut) crash.demotedNs crash.advancedNs crash.io
      with
    | .error _ => none
    | .ok engine => some { engine }

def lifeStep (system : System) : Incident → Option System
  | .act action => step system action
  | .crash crash => recovered system crash

end RateGovernor.Model.Recovery
