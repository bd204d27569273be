import RateGovernor.Model.Journal

namespace RateGovernor.Model.JournalWriter

open CheckedMath Entities Journal Foundation.ByteCodec

/-- How the file system answers one write, barrier, rename or open. A failed write may have
stored some leading bytes. -/
inductive IoAnswer
  | done
  | failed (written : ℕ)
  deriving DecidableEq

/-- The answers still to come; every later operation succeeds. -/
abbrev Io := List IoAnswer

structure JournalConfig where
  maxBytes : U64 := 64 * 1024 * 1024
  maxPayloadBytes : U64 := 1024 * 1024
  fsyncOnCommit : Bool := true
  deriving DecidableEq

structure JournalFailure where
  status : JournalStatus
  message : String
  deriving DecidableEq

/-- The append-only writer together with the content of the file it writes. -/
structure JournalFile where
  config : JournalConfig := {}
  isOpen : Bool := true
  file : Bytes := []
  sizeBytes : U64 := 0
  lastSequence : U64 := 0
  recordCount : U64 := 0
  txnId : U64 := 0
  txnOpen : Bool := false
  txnRecordCount : U64 := 0
  txnBytes : U64 := 0

/-- A journal operation's result; no failure means it succeeded. -/
structure Written where
  journal : JournalFile
  failure : Option JournalFailure
  io : Io

def refused (journal : JournalFile) (status : JournalStatus) (message : String) (io : Io) :
    Written :=
  { journal, failure := some { status, message }, io }

def journalNotOpen (journal : JournalFile) (io : Io) : Written :=
  refused journal .notOpen "journal is not open" io

def JournalFile.writeRecord (journal : JournalFile) (type : JournalRecordType) (txnId : U64)
    (payload : Bytes) (io : Io) : Written :=
  if !journal.isOpen then journalNotOpen journal io
  else if journal.config.maxPayloadBytes.toNat < payload.length then
    refused journal .payloadTooLarge "journal payload exceeds the configured bound" io
  else
    let record : JournalRecord := { type, sequence := journal.lastSequence + 1, txnId, payload }
    let encoded := encodeJournalRecord record journal.config.maxPayloadBytes.toNat
    if encoded = [] then
      refused journal .payloadTooLarge "journal record could not be encoded within bounds" io
    else match io with
      | .failed written :: io =>
        refused { journal with file := journal.file ++ encoded.take written } .ioError
          "journal write failed" io
      | io =>
        { journal := { journal with
            file := journal.file ++ encoded
            sizeBytes := journal.sizeBytes + UInt64.ofNat encoded.length
            lastSequence := record.sequence
            recordCount := journal.recordCount + 1 }
          failure := none
          io := io.tail }

def bannerPayload : Bytes := [putU16 kJournalFormatVersion, putU16 kJournalLayoutRevision].flatten

/-- `Journal::open` of a new file: its banner is written and flushed, or there is no journal. -/
def JournalFile.create (config : JournalConfig) (io : Io) : Option JournalFile :=
  let result := JournalFile.writeRecord { config } .fileHeader 0 bannerPayload io
  match result.failure, result.io with
  | some _, _ => none
  | none, .failed _ :: _ => none
  | none, _ => some result.journal

/-- `Journal::open` of an existing file for appending: sequences restart at zero. -/
def JournalFile.reopen (config : JournalConfig) (file : Bytes) : JournalFile :=
  { config, file, sizeBytes := UInt64.ofNat file.length }

def JournalFile.begin (journal : JournalFile) (txnId : U64) (io : Io) : Written :=
  if !journal.isOpen then journalNotOpen journal io
  else if journal.txnOpen then
    refused journal .transactionOpen "a journal transaction is already open" io
  else if txnId = 0 then
    refused journal .noTransaction
      "transaction id zero is reserved for self-committing records" io
  else
    let result := journal.writeRecord .txnBegin txnId (putU64 txnId) io
    match result.failure with
    | some _ => result
    | none => { result with journal := { result.journal with
        txnId, txnOpen := true, txnRecordCount := 0, txnBytes := 0 } }

def JournalFile.append (journal : JournalFile) (type : JournalRecordType) (payload : Bytes)
    (io : Io) : Written :=
  if !journal.isOpen then journalNotOpen journal io
  else if !journal.txnOpen then
    refused journal .noTransaction "append requires an open transaction" io
  else
    let result := journal.writeRecord type journal.txnId payload io
    match result.failure with
    | some _ => result
    | none => { result with journal := { result.journal with
        txnRecordCount := result.journal.txnRecordCount + 1
        txnBytes := result.journal.txnBytes + UInt64.ofNat payload.length } }

def commitPayload (txnId recordCount byteCount : U64) : Bytes :=
  [putU64 txnId, putU64 recordCount, putU64 byteCount].flatten

def JournalFile.closeTxn (journal : JournalFile) : JournalFile :=
  { journal with txnOpen := false, txnId := 0, txnRecordCount := 0, txnBytes := 0 }

/-- The barrier is asked for only when the configuration says so. -/
def barrier (journal : JournalFile) (io : Io) : Bool × Io :=
  if !journal.config.fsyncOnCommit then (true, io)
  else match io with
    | .failed _ :: io => (false, io)
    | io => (true, io.tail)

def JournalFile.commit (journal : JournalFile) (io : Io) : Written :=
  if !journal.isOpen then journalNotOpen journal io
  else if !journal.txnOpen then
    refused journal .noTransaction "commit requires an open transaction" io
  else
    let payload := commitPayload journal.txnId journal.txnRecordCount journal.txnBytes
    let result := journal.writeRecord .txnCommit journal.txnId payload io
    match result.failure with
    | some _ => result
    | none => match barrier result.journal result.io with
      | (false, io) =>
        refused result.journal .ioError
          "durability barrier failed; the transaction is not durable" io
      | (true, io) => { journal := result.journal.closeTxn, failure := none, io }

/-- Records already written stay in the file but carry no commit record. -/
def JournalFile.rollback (journal : JournalFile) : JournalFile :=
  if !journal.isOpen || !journal.txnOpen then journal else journal.closeTxn

/-- The records of a compacted file: the banner and one transaction that holds the snapshot. -/
def compactedRecords (snapshot : List (JournalRecordType × Bytes)) : List JournalRecord :=
  { type := .fileHeader, sequence := 0, txnId := 0, payload := bannerPayload } ::
  { type := .txnBegin, sequence := 1, txnId := 1, payload := putU64 1 } ::
  (snapshot.zipIdx 2).map (fun (entry, sequence) ↦
    { type := entry.1, sequence := UInt64.ofNat sequence, txnId := 1, payload := entry.2 }) ++
  [{ type := .txnCommit, sequence := UInt64.ofNat (snapshot.length + 2), txnId := 1
     payload := commitPayload 1 (UInt64.ofNat snapshot.length)
       (UInt64.ofNat (snapshot.map (·.2.length)).sum) }]

/-- Writes records to the temporary file, stopping at the first that does not fit or is not
written. -/
def writeSnapshot (bound : ℕ) : List JournalRecord → Bytes → Io → Except String Bytes × Io
  | [], written, io => (.ok written, io)
  | record :: records, written, io =>
    let encoded := encodeJournalRecord record bound
    if encoded = [] then (.error "snapshot record exceeds the payload bound", io)
    else match io with
      | .failed _ :: io => (.error "snapshot write failed", io)
      | io => writeSnapshot bound records (written ++ encoded) io.tail

/-- The rename over the live file and its reopening. -/
def JournalFile.replace (journal : JournalFile) (snapshot : List (JournalRecordType × Bytes))
    (compacted : Bytes) (io : Io) : Written :=
  match io with
  | .failed _ :: io => match io with
    | .failed _ :: io =>
      refused { journal with isOpen := false } .ioError
        "compaction rename failed; original log retained" io
    | io => refused journal .ioError "compaction rename failed; original log retained" io.tail
  | io => match io.tail with
    | .failed _ :: io =>
      refused { journal with isOpen := false, file := compacted } .ioError
        "compacted log could not be reopened" io
    | io =>
      { journal := { journal with
          file := compacted
          sizeBytes := UInt64.ofNat compacted.length
          lastSequence := UInt64.ofNat (snapshot.length + 2)
          recordCount := UInt64.ofNat snapshot.length + 3 }
        failure := none
        io := io.tail }

/-- Replaces the log with a snapshot. The log is touched only once the temporary file is durable. -/
def JournalFile.compactWith (journal : JournalFile) (snapshot : List (JournalRecordType × Bytes))
    (io : Io) : Written :=
  if !journal.isOpen then journalNotOpen journal io
  else if journal.txnOpen then
    refused journal .transactionOpen "cannot compact with an open transaction" io
  else match io with
    | .failed _ :: io => refused journal .ioError "cannot create compaction temporary file" io
    | io =>
      match writeSnapshot journal.config.maxPayloadBytes.toNat (compactedRecords snapshot) [] io.tail
        with
      | (.error failure, io) => refused journal .ioError failure io
      | (.ok _, .failed _ :: io) =>
        refused journal .ioError "compaction durability barrier failed" io
      | (.ok compacted, io) => journal.replace snapshot compacted io.tail

end RateGovernor.Model.JournalWriter
