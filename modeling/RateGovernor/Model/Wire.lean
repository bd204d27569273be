import RateGovernor.Model.Journal
import RateGovernor.Model.Calls

namespace RateGovernor.Model.Wire

open CheckedMath Identity Reason Entities Calls Journal Foundation.ByteCodec

def kWireFrameMagic : UInt32 := 0x31464752
def kWireProtocolVersion : UInt16 := 1
def kWireHeaderSize : ℕ := 16
def kWireCrcSize : ℕ := 4
def kWireMaxPayloadBytes : ℕ := 64 * 1024
def kWireMaxTextBytes : ℕ := 96

def listedMessageTypes : List UInt16 := [0, 1, 2, 10, 11, 12, 13, 14, 15, 16, 17, 18, 19, 20, 21, 22]

inductive MessageType
  | unknown | hello | helloAck | applyRequest | applyResponse | revokeRequest | revokeResponse
  | verifyRequest | verifyResponse | heartbeatRequest | heartbeatResponse | shutdownRequest
  | shutdownResponse | errorResponse | accountingRequest | accountingResponse
  | unlisted (raw : UInt16) (h : raw ∉ listedMessageTypes)
  deriving DecidableEq

def MessageType.code : MessageType → UInt16
  | .unknown => 0
  | .hello => 1
  | .helloAck => 2
  | .applyRequest => 10
  | .applyResponse => 11
  | .revokeRequest => 12
  | .revokeResponse => 13
  | .verifyRequest => 14
  | .verifyResponse => 15
  | .heartbeatRequest => 16
  | .heartbeatResponse => 17
  | .shutdownRequest => 18
  | .shutdownResponse => 19
  | .errorResponse => 20
  | .accountingRequest => 21
  | .accountingResponse => 22
  | .unlisted raw _ => raw

def listedMessages : List MessageType :=
  [.unknown, .hello, .helloAck, .applyRequest, .applyResponse, .revokeRequest, .revokeResponse,
   .verifyRequest, .verifyResponse, .heartbeatRequest, .heartbeatResponse, .shutdownRequest,
   .shutdownResponse, .errorResponse, .accountingRequest, .accountingResponse]

/-- The cast of a received 16-bit value, which need not be a listed one. -/
def MessageType.ofCode (raw : UInt16) : MessageType :=
  if h : raw ∈ listedMessageTypes then
    (listedMessages.find? fun type ↦ type.code = raw).getD .unknown
  else .unlisted raw h

theorem MessageType.ofCode_code (type : MessageType) : MessageType.ofCode type.code = type := by
  cases type with
  | unlisted raw h => exact dif_neg h
  | _ => rfl

structure Frame where
  type : MessageType := .unknown
  flags : UInt32 := 0
  payload : Bytes := []
  deriving DecidableEq

section Frames

def encodeFrameHeader (frame : Frame) : Bytes :=
  [putU32 kWireFrameMagic, putU16 kWireProtocolVersion, putU16 frame.type.code, putU32 frame.flags,
    putU32 (UInt32.ofNat frame.payload.length)].flatten

/-- Empty when the payload exceeds the bound. -/
def encodeFrame (frame : Frame) : Bytes :=
  if kWireMaxPayloadBytes < frame.payload.length then []
  else
    let body := encodeFrameHeader frame ++ frame.payload
    body ++ putU32 (crc32c body)

structure FrameHeader where
  magic : UInt32 := 0
  version : UInt16 := 0
  type : MessageType := .unknown
  flags : UInt32 := 0
  payloadLen : UInt32 := 0

def readFrameHeader : Reader FrameHeader := do
  let magic ← u32
  let version ← u16
  let rawType ← u16
  let flags ← u32
  let payloadLen ← u32
  return { magic, version, type := .ofCode rawType, flags, payloadLen }

def decodeFrameHeader (header : Bytes) : Except ReasonCode FrameHeader :=
  match readFrameHeader header with
  | none => .error .malformedInput
  | some (out, _) =>
    if out.magic ≠ kWireFrameMagic then .error .malformedInput
    else if out.version ≠ kWireProtocolVersion then .error .unsupportedOperation
    else if kWireMaxPayloadBytes < out.payloadLen.toNat then .error .capacityLimitExceeded
    else .ok out

def decodeFrame (bytes : Bytes) : Except ReasonCode Frame := do
  let header ← decodeFrameHeader bytes
  let headerAndPayload := kWireHeaderSize + header.payloadLen.toNat
  if bytes.length < headerAndPayload + kWireCrcSize then .error .malformedInput
  else match u32 (bytes.drop headerAndPayload) with
    | none => .error .malformedInput
    | some (storedCrc, _) =>
      if crc32c (bytes.take headerAndPayload) ≠ storedCrc then .error .malformedInput
      else
        .ok { type := header.type, flags := header.flags,
              payload := (bytes.take headerAndPayload).drop kWireHeaderSize }

structure TransportError where
  error : Text
  reason : ReasonCode := .none

/-- Takes a frame off the bytes that arrive: its header, then as much as the header announces. -/
def recvFrame (stream : Bytes) : Except TransportError (Frame × Bytes) :=
  if stream.length < kWireHeaderSize then .error { error := ascii "peer closed the connection" }
  else match decodeFrameHeader (stream.take kWireHeaderSize) with
    | .error reason => .error { error := ascii "frame header rejected", reason }
    | .ok header =>
      let total := kWireHeaderSize + header.payloadLen.toNat + kWireCrcSize
      if stream.length < total then .error { error := ascii "peer closed the connection" }
      else match decodeFrame (stream.take total) with
        | .error reason => .error { error := ascii "frame body rejected", reason }
        | .ok frame => .ok (frame, stream.drop total)

end Frames

/-- The texts of the wire are bounded; a longer one cannot be written. -/
def wireText (text : Text) : Option Bytes :=
  if kWireMaxTextBytes < text.length || 0xFFFF < text.length then none
  else some (putU16 (UInt16.ofNat text.length) ++ text)

def getWireText : Reader Text := do
  let length ← u16
  check (length.toNat ≤ kWireMaxTextBytes)
  raw length.toNat

/-- A message is accepted when its reader consumes the payload exactly. -/
def decodeMessage {α : Type} (reader : Reader α) (payload : Bytes) : Option α :=
  match reader payload with
  | some (message, []) => some message
  | _ => none

structure HelloMessage where
  backend : BackendId := {}
  backendGeneration : Generation := ⟨1⟩
  boot : WorkerBootId := {}
  epoch : FabricEpoch := {}
  kind : BackendKind := .unknown
  capabilities : UInt32 := 0
  verification : VerificationMode := .unknown
  maxRateUps : U64 := 0
  maxBurstTokens : U64 := 0
  processId : U64 := 0
  startedAtNs : U64 := 0
  envelopeLimit : U64 := 0
  queueCapacity : U64 := 0
  workerThreads : UInt32 := 0
  label : Text := []
  build : Text := []

/-- Empty when a text is too long to be written. -/
def encodeHello (message : HelloMessage) : Bytes :=
  match wireText message.label, wireText message.build with
  | some label, some build =>
    [putU64 message.backend.value, putU64 message.backendGeneration.value,
      putU64 message.boot.value, putU64 message.epoch.value, putEnum message.kind,
      putEnum message.verification, putU16 0, putU32 message.capabilities,
      putU64 message.maxRateUps, putU64 message.maxBurstTokens, putU64 message.processId,
      putU64 message.startedAtNs, putU64 message.envelopeLimit, putU64 message.queueCapacity,
      putU32 message.workerThreads, putU32 kWireProtocolVersion.toUInt32, label, build].flatten
  | _, _ => []

def decodeHello : Reader HelloMessage := do
  let backend ← u64
  let generation ← u64
  let boot ← u64
  let epoch ← u64
  let kind ← enum
  let verification ← enum
  let reserved ← u16
  let capabilities ← u32
  let maxRateUps ← u64
  let maxBurstTokens ← u64
  let processId ← u64
  let startedAtNs ← u64
  let envelopeLimit ← u64
  let queueCapacity ← u64
  let workerThreads ← u32
  let protocol ← u32
  check (reserved = 0 && protocol = kWireProtocolVersion.toUInt32)
  let label ← getWireText
  let build ← getWireText
  return { backend := ⟨backend⟩, backendGeneration := ⟨generation⟩, boot := ⟨boot⟩,
           epoch := ⟨epoch⟩, kind, capabilities, verification, maxRateUps, maxBurstTokens,
           processId, startedAtNs, envelopeLimit, queueCapacity, workerThreads, label, build }

structure ApplyRequestMessage where
  attempt : EnforcementAttemptId := {}
  envelope : RateEnvelopeId := {}
  envelopeGeneration : Generation := {}
  rateUps : U64 := 0
  burstTokens : U64 := 0
  refill : RefillSemantics := .unknown
  epoch : FabricEpoch := {}
  boot : WorkerBootId := {}
  deadlineNs : U64 := 0

def encodeApplyRequest (message : ApplyRequestMessage) : Bytes :=
  [putU64 message.attempt.value, putU64 message.envelope.value,
    putU64 message.envelopeGeneration.value, putU64 message.rateUps, putU64 message.burstTokens,
    putEnum message.refill, putU8 0, putU16 0, putU64 message.epoch.value,
    putU64 message.boot.value, putU64 message.deadlineNs].flatten

def decodeApplyRequest : Reader ApplyRequestMessage := do
  let attempt ← u64
  let envelope ← u64
  let generation ← u64
  let rateUps ← u64
  let burstTokens ← u64
  let refill ← enum
  let pad8 ← u8
  let pad16 ← u16
  let epoch ← u64
  let boot ← u64
  let deadlineNs ← u64
  check (pad8 = 0 && pad16 = 0)
  return { attempt := ⟨attempt⟩, envelope := ⟨envelope⟩, envelopeGeneration := ⟨generation⟩,
           rateUps, burstTokens, refill, epoch := ⟨epoch⟩, boot := ⟨boot⟩, deadlineNs }

structure ApplyResponseMessage where
  attempt : EnforcementAttemptId := {}
  accepted : Bool := false
  reason : ReasonCode := .none
  appliedRateUps : U64 := 0
  appliedBurstTokens : U64 := 0
  epoch : FabricEpoch := {}
  boot : WorkerBootId := {}
  detail : Text := []

def encodeApplyResponse (message : ApplyResponseMessage) : Bytes :=
  match wireText message.detail with
  | none => []
  | some detail =>
    [putU64 message.attempt.value, putBool message.accepted, putU8 0, putReason message.reason,
      putU32 0, putU64 message.appliedRateUps, putU64 message.appliedBurstTokens,
      putU64 message.epoch.value, putU64 message.boot.value, detail].flatten

def decodeApplyResponse : Reader ApplyResponseMessage := do
  let attempt ← u64
  let accepted ← u8
  let pad8 ← u8
  let reason ← reason
  let pad32 ← u32
  let appliedRateUps ← u64
  let appliedBurstTokens ← u64
  let epoch ← u64
  let boot ← u64
  let detail ← getWireText
  check (pad8 = 0 && pad32 = 0 && accepted ≤ 1)
  return { attempt := ⟨attempt⟩, accepted := accepted = 1, reason, appliedRateUps,
           appliedBurstTokens, epoch := ⟨epoch⟩, boot := ⟨boot⟩, detail }

structure RevokeRequestMessage where
  attempt : EnforcementAttemptId := {}
  envelope : RateEnvelopeId := {}
  envelopeGeneration : Generation := {}
  epoch : FabricEpoch := {}
  boot : WorkerBootId := {}
  reason : ReasonCode := .none

def encodeRevokeRequest (message : RevokeRequestMessage) : Bytes :=
  [putU64 message.attempt.value, putU64 message.envelope.value,
    putU64 message.envelopeGeneration.value, putU64 message.epoch.value,
    putU64 message.boot.value, putReason message.reason, putU16 0, putU32 0].flatten

def decodeRevokeRequest : Reader RevokeRequestMessage := do
  let attempt ← u64
  let envelope ← u64
  let generation ← u64
  let epoch ← u64
  let boot ← u64
  let reason ← reason
  let pad16 ← u16
  let pad32 ← u32
  check (pad16 = 0 && pad32 = 0)
  return { attempt := ⟨attempt⟩, envelope := ⟨envelope⟩, envelopeGeneration := ⟨generation⟩,
           epoch := ⟨epoch⟩, boot := ⟨boot⟩, reason }

structure RevokeResponseMessage where
  attempt : EnforcementAttemptId := {}
  removed : Bool := false
  reason : ReasonCode := .none
  epoch : FabricEpoch := {}
  boot : WorkerBootId := {}
  detail : Text := []

def encodeRevokeResponse (message : RevokeResponseMessage) : Bytes :=
  match wireText message.detail with
  | none => []
  | some detail =>
    [putU64 message.attempt.value, putBool message.removed, putU8 0, putReason message.reason,
      putU32 0, putU64 message.epoch.value, putU64 message.boot.value, detail].flatten

def decodeRevokeResponse : Reader RevokeResponseMessage := do
  let attempt ← u64
  let removed ← u8
  let pad8 ← u8
  let reason ← reason
  let pad32 ← u32
  let epoch ← u64
  let boot ← u64
  let detail ← getWireText
  check (pad8 = 0 && pad32 = 0 && removed ≤ 1)
  return { attempt := ⟨attempt⟩, removed := removed = 1, reason, epoch := ⟨epoch⟩,
           boot := ⟨boot⟩, detail }

structure VerifyRequestMessage where
  attempt : EnforcementAttemptId := {}
  envelope : RateEnvelopeId := {}
  envelopeGeneration : Generation := {}
  epoch : FabricEpoch := {}
  boot : WorkerBootId := {}

def encodeVerifyRequest (message : VerifyRequestMessage) : Bytes :=
  [putU64 message.attempt.value, putU64 message.envelope.value,
    putU64 message.envelopeGeneration.value, putU64 message.epoch.value,
    putU64 message.boot.value].flatten

def decodeVerifyRequest : Reader VerifyRequestMessage := do
  let attempt ← u64
  let envelope ← u64
  let generation ← u64
  let epoch ← u64
  let boot ← u64
  return { attempt := ⟨attempt⟩, envelope := ⟨envelope⟩, envelopeGeneration := ⟨generation⟩,
           epoch := ⟨epoch⟩, boot := ⟨boot⟩ }

structure VerifyResponseMessage where
  attempt : EnforcementAttemptId := {}
  present : Bool := false
  observedRateUps : U64 := 0
  observedBurstTokens : U64 := 0
  epoch : FabricEpoch := {}
  boot : WorkerBootId := {}
  reason : ReasonCode := .none
  detail : Text := []

def encodeVerifyResponse (message : VerifyResponseMessage) : Bytes :=
  match wireText message.detail with
  | none => []
  | some detail =>
    [putU64 message.attempt.value, putBool message.present, putU8 0, putReason message.reason,
      putU32 0, putU64 message.observedRateUps, putU64 message.observedBurstTokens,
      putU64 message.epoch.value, putU64 message.boot.value, detail].flatten

def decodeVerifyResponse : Reader VerifyResponseMessage := do
  let attempt ← u64
  let present ← u8
  let pad8 ← u8
  let reason ← reason
  let pad32 ← u32
  let observedRateUps ← u64
  let observedBurstTokens ← u64
  let epoch ← u64
  let boot ← u64
  let detail ← getWireText
  check (pad8 = 0 && pad32 = 0 && present ≤ 1)
  return { attempt := ⟨attempt⟩, present := present = 1, reason, observedRateUps,
           observedBurstTokens, epoch := ⟨epoch⟩, boot := ⟨boot⟩, detail }

structure AccountingResponseMessage where
  requestsServed : U64 := 0
  appliesApplied : U64 := 0
  revokesApplied : U64 := 0
  verifications : U64 := 0
  rejections : U64 := 0
  malformedFrames : U64 := 0
  fencedStaleEpoch : U64 := 0
  fencedStaleBoot : U64 := 0
  queueRejections : U64 := 0
  queueCapacity : U64 := 0
  queueHighWater : U64 := 0
  activeEnvelopes : U64 := 0
  envelopeLimit : U64 := 0
  idleNoopRequests : U64 := 0
  boot : WorkerBootId := {}
  epoch : FabricEpoch := {}

def encodeAccountingResponse (message : AccountingResponseMessage) : Bytes :=
  [putU64 message.requestsServed, putU64 message.appliesApplied, putU64 message.revokesApplied,
    putU64 message.verifications, putU64 message.rejections, putU64 message.malformedFrames,
    putU64 message.fencedStaleEpoch, putU64 message.fencedStaleBoot,
    putU64 message.queueRejections, putU64 message.queueCapacity, putU64 message.queueHighWater,
    putU64 message.activeEnvelopes, putU64 message.envelopeLimit, putU64 message.idleNoopRequests,
    putU64 message.boot.value, putU64 message.epoch.value].flatten

def decodeAccountingResponse : Reader AccountingResponseMessage := do
  let requestsServed ← u64
  let appliesApplied ← u64
  let revokesApplied ← u64
  let verifications ← u64
  let rejections ← u64
  let malformedFrames ← u64
  let fencedStaleEpoch ← u64
  let fencedStaleBoot ← u64
  let queueRejections ← u64
  let queueCapacity ← u64
  let queueHighWater ← u64
  let activeEnvelopes ← u64
  let envelopeLimit ← u64
  let idleNoopRequests ← u64
  let boot ← u64
  let epoch ← u64
  return { requestsServed, appliesApplied, revokesApplied, verifications, rejections,
           malformedFrames, fencedStaleEpoch, fencedStaleBoot, queueRejections, queueCapacity,
           queueHighWater, activeEnvelopes, envelopeLimit, idleNoopRequests, boot := ⟨boot⟩,
           epoch := ⟨epoch⟩ }

structure ErrorMessage where
  reason : ReasonCode := .none
  detail : Text := []

def encodeError (message : ErrorMessage) : Bytes :=
  match wireText message.detail with
  | none => []
  | some detail => [putReason message.reason, putU16 0, putU32 0, detail].flatten

def decodeError : Reader ErrorMessage := do
  let reason ← reason
  let pad16 ← u16
  let pad32 ← u32
  let detail ← getWireText
  check (pad16 = 0 && pad32 = 0)
  return { reason, detail }

end RateGovernor.Model.Wire
