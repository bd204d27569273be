import RateGovernor.Model.Entities

namespace RateGovernor.Model.Journal

open CheckedMath Entities Foundation.ByteCodec

def kCrc32cPolynomial : UInt32 := 0x82F63B78

def crcBit (crc : UInt32) : UInt32 :=
  if crc &&& 1 ≠ 0 then (crc >>> 1) ^^^ kCrc32cPolynomial else crc >>> 1

/-- The table entry of an index, as `make_crc32c_table` computes it. -/
def crcTableEntry (index : UInt32) : UInt32 := Nat.iterate crcBit 8 index

def crc32cExtend (seed : UInt32) (data : Bytes) : UInt32 :=
  data.foldl (fun crc byte ↦ crcTableEntry ((crc ^^^ byte.toUInt32) &&& 0xFF) ^^^ (crc >>> 8))
    (seed ^^^ 0xFFFFFFFF) ^^^ 0xFFFFFFFF

def crc32c (data : Bytes) : UInt32 := crc32cExtend 0 data

def listedRecordTypes : List UInt16 :=
  [0, 1, 9, 10, 11, 12, 13, 14, 15, 16, 17, 18, 20, 30, 31, 32, 33, 34, 35, 40, 41, 42, 43, 44, 45,
   60, 61, 62]

inductive JournalRecordType
  | unknown | fileHeader | flowPut | grantPut | grantStateChange | reservationPut
  | reservationStateChange | policyPut | policyStateChange | resourcePut | resourceStateChange
  | backendPut | epochAdvance | envelopeOpened | envelopeBindingChange | envelopeAuthorized
  | envelopeStateChange | envelopeEffectRecorded | envelopeCounters | attemptCreated
  | attemptDispatched | attemptAcknowledged | attemptTerminated | attemptVerified
  | attemptCompensating | txnBegin | txnCommit | compactionMarker
  | unlisted (raw : UInt16) (h : raw ∉ listedRecordTypes)
  deriving DecidableEq

def JournalRecordType.code : JournalRecordType → UInt16
  | .unknown => 0
  | .fileHeader => 1
  | .flowPut => 9
  | .grantPut => 10
  | .grantStateChange => 11
  | .reservationPut => 12
  | .reservationStateChange => 13
  | .policyPut => 14
  | .policyStateChange => 15
  | .resourcePut => 16
  | .resourceStateChange => 17
  | .backendPut => 18
  | .epochAdvance => 20
  | .envelopeOpened => 30
  | .envelopeBindingChange => 31
  | .envelopeAuthorized => 32
  | .envelopeStateChange => 33
  | .envelopeEffectRecorded => 34
  | .envelopeCounters => 35
  | .attemptCreated => 40
  | .attemptDispatched => 41
  | .attemptAcknowledged => 42
  | .attemptTerminated => 43
  | .attemptVerified => 44
  | .attemptCompensating => 45
  | .txnBegin => 60
  | .txnCommit => 61
  | .compactionMarker => 62
  | .unlisted raw _ => raw

def listedTypes : List JournalRecordType :=
  [.unknown, .fileHeader, .flowPut, .grantPut, .grantStateChange, .reservationPut,
   .reservationStateChange, .policyPut, .policyStateChange, .resourcePut, .resourceStateChange,
   .backendPut, .epochAdvance, .envelopeOpened, .envelopeBindingChange, .envelopeAuthorized,
   .envelopeStateChange, .envelopeEffectRecorded, .envelopeCounters, .attemptCreated,
   .attemptDispatched, .attemptAcknowledged, .attemptTerminated, .attemptVerified,
   .attemptCompensating, .txnBegin, .txnCommit, .compactionMarker]

/-- The cast of a stored 16-bit value, which need not be a listed one. -/
def JournalRecordType.ofCode (raw : UInt16) : JournalRecordType :=
  if h : raw ∈ listedRecordTypes then (listedTypes.find? fun type ↦ type.code = raw).getD .unknown
  else .unlisted raw h

theorem JournalRecordType.ofCode_code (type : JournalRecordType) :
    JournalRecordType.ofCode type.code = type := by
  cases type with
  | unlisted raw h => exact dif_neg h
  | _ => rfl

inductive JournalStatus
  | ok | notOpen | ioError | corrupt | truncated | versionUnsupported | boundsExceeded
  | noTransaction | transactionOpen | payloadTooLarge
  deriving DecidableEq

def JournalStatus.toStringView : JournalStatus → String
  | .ok => "Ok"
  | .notOpen => "NotOpen"
  | .ioError => "IoError"
  | .corrupt => "Corrupt"
  | .truncated => "Truncated"
  | .versionUnsupported => "VersionUnsupported"
  | .boundsExceeded => "BoundsExceeded"
  | .noTransaction => "NoTransaction"
  | .transactionOpen => "TransactionOpen"
  | .payloadTooLarge => "PayloadTooLarge"

structure JournalRecord where
  type : JournalRecordType
  sequence : U64
  txnId : U64
  payload : Bytes
  deriving DecidableEq

def kJournalRecordMagic : UInt32 := 0x314A4752
def kJournalFormatVersion : UInt16 := 1
def kJournalLayoutRevision : UInt16 := 1
def kJournalRecordHeaderSize : ℕ := 36
def kJournalMaxScanBytes : ℕ := 512 * 1024 * 1024
def kScanPayloadBound : ℕ := 4 * 1024 * 1024

def encodeHeaderBody (record : JournalRecord) : Bytes :=
  [putU32 kJournalRecordMagic, putU16 kJournalFormatVersion, putU16 record.type.code, putU32 0,
    putU64 record.sequence, putU64 record.txnId,
    putU32 (UInt32.ofNat record.payload.length)].flatten

/-- The checksum covers the header up to the checksum field and the payload. -/
def recordCrc (headerBody payload : Bytes) : UInt32 := crc32cExtend (crc32c headerBody) payload

/-- Empty when the payload exceeds the bound. -/
def encodeJournalRecord (record : JournalRecord) (payloadBound : ℕ) : Bytes :=
  if payloadBound < record.payload.length || 0xFFFFFFFF < record.payload.length then []
  else
    [encodeHeaderBody record, putU32 (recordCrc (encodeHeaderBody record) record.payload),
      record.payload].flatten

structure RecordHeader where
  magic : UInt32
  version : UInt16
  rawType : UInt16
  flags : UInt32
  sequence : U64
  txnId : U64
  payloadLen : UInt32
  storedCrc : UInt32

def readHeader : Reader RecordHeader := do
  let magic ← u32
  let version ← u16
  let rawType ← u16
  let flags ← u32
  let sequence ← u64
  let txnId ← u64
  let payloadLen ← u32
  let storedCrc ← u32
  return { magic, version, rawType, flags, sequence, txnId, payloadLen, storedCrc }

/-- The record at the front of the bytes and how many of them it takes. -/
def decodeJournalRecord (bytes : Bytes) (payloadBound : ℕ) :
    Except JournalStatus (JournalRecord × ℕ) :=
  if bytes.length < kJournalRecordHeaderSize then .error .truncated
  else match readHeader bytes with
    | none => .error .truncated
    | some (header, _) =>
      if header.magic ≠ kJournalRecordMagic then .error .corrupt
      else if header.version ≠ kJournalFormatVersion then .error .versionUnsupported
      else if header.flags ≠ 0 then .error .corrupt
      else if payloadBound < header.payloadLen.toNat then .error .boundsExceeded
      else
        let total := kJournalRecordHeaderSize + header.payloadLen.toNat
        if bytes.length < total then .error .truncated
        else
          let payload := (bytes.drop kJournalRecordHeaderSize).take header.payloadLen.toNat
          if recordCrc (bytes.take 32) payload ≠ header.storedCrc then .error .corrupt
          else
            .ok ({ type := .ofCode header.rawType, sequence := header.sequence,
                   txnId := header.txnId, payload }, total)

structure JournalScanResult where
  ok : Bool := false
  status : JournalStatus := .ok
  committed : List JournalRecord := []
  committedTransactions : U64 := 0
  discardedUncommittedRecords : U64 := 0
  discardedTruncatedBytes : U64 := 0
  lastSequence : U64 := 0
  truncatedTail : Bool := false
  hasFileHeader : Bool := false
  message : String := ""

/-- The scanner's progress: what it reports so far and the transaction it is inside. -/
structure Scan where
  result : JournalScanResult := {}
  pending : List JournalRecord := []
  pendingTxn : U64 := 0

/-- What the scanner does with one intact record; `none` where it stops at a commit that matches
no open transaction. -/
def Scan.accept (scan : Scan) (record : JournalRecord) : Option Scan :=
  let result := { scan.result with
    lastSequence :=
      if scan.result.lastSequence < record.sequence then record.sequence
      else scan.result.lastSequence }
  if record.txnId = 0 then
    some { scan with result := { result with
      hasFileHeader := if record.type = .fileHeader then true else result.hasFileHeader
      committed := result.committed ++ [record] } }
  else if record.type = .txnBegin then
    some { result, pending := [], pendingTxn := record.txnId }
  else if record.type = .txnCommit then
    if record.txnId ≠ scan.pendingTxn then none
    else
      some { result := { result with
               committed := result.committed ++ scan.pending
               committedTransactions := result.committedTransactions + 1 }
             pending := [], pendingTxn := 0 }
  else if scan.pendingTxn = 0 then
    some { scan with result := { result with
      discardedUncommittedRecords := result.discardedUncommittedRecords + 1 } }
  else some { scan with result, pending := scan.pending ++ [record] }

def Scan.truncate (scan : Scan) (left : ℕ) : Scan :=
  { scan with result := { scan.result with
      truncatedTail := true
      discardedTruncatedBytes := scan.result.discardedTruncatedBytes + UInt64.ofNat left
      message := "journal ends with an incomplete record; the tail was discarded" } }

def Scan.reject (scan : Scan) (status : JournalStatus) (message : String) : Scan :=
  { scan with result := { scan.result with status, message } }

/-- The scan loop. Every record takes at least its header, so the length of the file is fuel
enough. -/
def scanLoop : ℕ → Bytes → Scan → Scan
  | 0, _, scan => scan
  | fuel + 1, bytes, scan =>
    if bytes = [] then scan
    else match decodeJournalRecord bytes kScanPayloadBound with
      | .error .truncated => scan.truncate bytes.length
      | .error status => scan.reject status ("journal record rejected: " ++ status.toStringView)
      | .ok (record, consumed) => match scan.accept record with
        | none => scan.reject .corrupt "commit record does not match the open transaction"
        | some scan => scanLoop fuel (bytes.drop consumed) scan

/-- The accounting after the loop: an open transaction is discarded. -/
def Scan.finish (scan : Scan) : JournalScanResult :=
  let result :=
    if scan.pending = [] then scan.result
    else { scan.result with
      discardedUncommittedRecords :=
        scan.result.discardedUncommittedRecords + UInt64.ofNat scan.pending.length
      message :=
        if scan.result.message = "" then
          "journal ended with an uncommitted transaction; it was discarded"
        else scan.result.message
      truncatedTail := true }
  { result with
    ok := result.status = .ok || result.status = .truncated
    message := if result.message = "" then "journal scanned cleanly" else result.message }

def scanJournalFile (file : Bytes) : JournalScanResult :=
  if kJournalMaxScanBytes < file.length then
    { status := .boundsExceeded, message := "journal exceeds the maximum scannable size" }
  else (scanLoop file.length file {}).finish

end RateGovernor.Model.Journal
