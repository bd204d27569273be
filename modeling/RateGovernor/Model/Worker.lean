import RateGovernor.Model.Synthetic
import RateGovernor.Model.Wire

namespace RateGovernor.Model.Worker

open CheckedMath Identity Reason Entities Calls Synthetic Wire Foundation.ByteCodec

def kBackendCapRevoke : UInt32 := 2
def kBackendCapVerify : UInt32 := 4
def kBackendCapBurst : UInt32 := 8

structure WorkerSessionConfig where
  backend : BackendId := {}
  backendGeneration : Generation := ⟨1⟩
  boot : WorkerBootId := {}
  startingEpoch : FabricEpoch := {}
  threads : UInt32 := 2
  queueCapacity : U64 := 64
  label : Text := ascii "rate-governor-synthetic-worker"
  build : Text := ascii "rate-governor/1.0.0 synthetic worker"
  device : SyntheticDeviceConfig := {}

structure WorkerSessionAccounting where
  requestsServed : U64 := 0
  appliesApplied : U64 := 0
  revokesApplied : U64 := 0
  verifications : U64 := 0
  rejections : U64 := 0
  malformedFrames : U64 := 0
  fencedStaleEpoch : U64 := 0
  fencedStaleBoot : U64 := 0
  queueRejections : U64 := 0
  queueCapacity : U64 := 0
  queueHighWater : U64 := 0
  idleNoopRequests : U64 := 0

structure WorkerSession where
  config : WorkerSessionConfig
  accounting : WorkerSessionAccounting := {}
  stopping : Bool := false

/-- The device of a worker: nobody is admitted until a coordinator completes the handshake. -/
def WorkerSessionConfig.newDevice (config : WorkerSessionConfig) : SyntheticDevice :=
  Synthetic.newDevice config.device config.boot config.startingEpoch {}

def newSession (config : WorkerSessionConfig) : WorkerSession where
  config := config
  accounting := { queueCapacity := config.queueCapacity }

def errorFrame (reason : ReasonCode) (detail : Text) : Frame :=
  { type := .errorResponse, payload := encodeError { reason, detail } }

/-- An empty detail is sent as "ok". -/
def sentDetail (detail : Text) : Text := if detail.isEmpty then ascii "ok" else detail

/-- What a session answers, the session after it and the device after it. -/
structure Served where
  response : Frame
  session : WorkerSession
  device : SyntheticDevice

namespace WorkerSession

def countMalformed (session : WorkerSession) : WorkerSession :=
  { session with
    accounting :=
      { session.accounting with malformedFrames := session.accounting.malformedFrames + 1 } }

def countRejection (session : WorkerSession) : WorkerSession :=
  { session with
    accounting := { session.accounting with rejections := session.accounting.rejections + 1 } }

def stop (session : WorkerSession) : WorkerSession := { session with stopping := true }

/-- A request that cannot be decoded never reaches the device. -/
def undecoded (session : WorkerSession) (device : SyntheticDevice) (detail : Text) : Served :=
  ⟨errorFrame .backendRejectedMalformedRequest detail, session.countMalformed, device⟩

def countFenced (session : WorkerSession) (reason : ReasonCode) : WorkerSession :=
  { session with
    accounting :=
      if reason = .backendFencedStaleEpoch then
        { session.accounting with fencedStaleEpoch := session.accounting.fencedStaleEpoch + 1 }
      else
        { session.accounting with fencedStaleBoot := session.accounting.fencedStaleBoot + 1 } }

/-- The acknowledgement of a handshake. -/
def helloReply (session : WorkerSession) (device : SyntheticDevice) : HelloMessage :=
  let config := session.config
  { backend := config.backend
    backendGeneration := config.backendGeneration
    boot := config.boot
    epoch := device.highestEpoch
    kind := .synthetic
    capabilities := kBackendCapApply ||| kBackendCapRevoke ||| kBackendCapVerify |||
      kBackendCapBurst
    verification := .postApplyReadback
    maxRateUps := config.device.maxRateUps
    maxBurstTokens := config.device.maxBurstTokens
    envelopeLimit := config.device.envelopeLimit
    queueCapacity := config.queueCapacity
    workerThreads := config.threads
    label := config.label
    build := config.build }

def handleHello (session : WorkerSession) (device : SyntheticDevice) (hello : HelloMessage) :
    Served :=
  match device.admitIncarnation hello.epoch hello.boot with
  | (some reason, device) =>
    let detail :=
      if reason = .backendFencedStaleEpoch then
        ascii "coordinator epoch is stale relative to the admitted epoch"
      else ascii "coordinator incarnation conflicts with the admitted boot id"
    ⟨errorFrame reason detail, ((session.countFenced reason).countRejection).stop, device⟩
  | (none, device) =>
    ⟨{ type := .helloAck, payload := encodeHello (session.helloReply device) }, session, device⟩

/-- The request the device sees, built from the message. -/
def internalApply (request : ApplyRequestMessage) : ApplyRequest :=
  { attempt := request.attempt
    envelope := request.envelope
    envelopeGeneration := request.envelopeGeneration
    rateUps := request.rateUps
    burstTokens := request.burstTokens
    refill := request.refill
    epoch := request.epoch
    boot := request.boot }

def applyResponse (request : ApplyRequestMessage) (outcome : DispatchOutcome) :
    ApplyResponseMessage :=
  { attempt := request.attempt
    accepted := outcome.status = .completed
    reason := outcome.reason
    appliedRateUps := outcome.appliedRateUps
    appliedBurstTokens := outcome.appliedBurstTokens
    epoch := outcome.epoch
    boot := outcome.boot
    detail := sentDetail outcome.detail }

def handleApply (session : WorkerSession) (device : SyntheticDevice)
    (request : ApplyRequestMessage) : Served :=
  let (outcome, device) := device.apply (internalApply request)
  let response := applyResponse request outcome
  let session :=
    if response.accepted then
      { session with
        accounting :=
          { session.accounting with appliesApplied := session.accounting.appliesApplied + 1 } }
    else session.countRejection
  ⟨{ type := .applyResponse, payload := encodeApplyResponse response }, session, device⟩

def internalRevoke (request : RevokeRequestMessage) : RevokeRequest :=
  { attempt := request.attempt
    envelope := request.envelope
    envelopeGeneration := request.envelopeGeneration
    epoch := request.epoch
    boot := request.boot
    reason := request.reason }

def revokeResponse (request : RevokeRequestMessage) (outcome : DispatchOutcome) :
    RevokeResponseMessage :=
  { attempt := request.attempt
    removed := outcome.status = .completed
    reason := outcome.reason
    epoch := outcome.epoch
    boot := outcome.boot
    detail := sentDetail outcome.detail }

def handleRevoke (session : WorkerSession) (device : SyntheticDevice)
    (request : RevokeRequestMessage) : Served :=
  let (outcome, device) := device.revoke (internalRevoke request)
  let response := revokeResponse request outcome
  let session :=
    if response.removed then
      { session with
        accounting :=
          { session.accounting with revokesApplied := session.accounting.revokesApplied + 1 } }
    else session.countRejection
  ⟨{ type := .revokeResponse, payload := encodeRevokeResponse response }, session, device⟩

def internalVerify (request : VerifyRequestMessage) : ApplyRequest :=
  { attempt := request.attempt
    envelope := request.envelope
    envelopeGeneration := request.envelopeGeneration
    epoch := request.epoch
    boot := request.boot }

/-- The response carries what was observed, but not the status of the readback. -/
def verifyResponse (request : VerifyRequestMessage) (outcome : VerificationOutcome) :
    VerifyResponseMessage :=
  { attempt := request.attempt
    present := outcome.observedPresent
    observedRateUps := outcome.observedRateUps
    observedBurstTokens := outcome.observedBurstTokens
    epoch := outcome.epoch
    boot := outcome.boot
    reason := outcome.reason
    detail := sentDetail outcome.detail }

def handleVerify (session : WorkerSession) (device : SyntheticDevice)
    (request : VerifyRequestMessage) : Served :=
  let (outcome, device) := device.readBack (internalVerify request)
  let session :=
    { session with
      accounting :=
        { session.accounting with verifications := session.accounting.verifications + 1 } }
  ⟨{ type := .verifyResponse, payload := encodeVerifyResponse (verifyResponse request outcome) },
    session, device⟩

def wireAccounting (session : WorkerSession) (device : SyntheticDevice) :
    AccountingResponseMessage :=
  let accounting := session.accounting
  { requestsServed := accounting.requestsServed
    appliesApplied := accounting.appliesApplied
    revokesApplied := accounting.revokesApplied
    verifications := accounting.verifications
    rejections := accounting.rejections
    malformedFrames := accounting.malformedFrames
    fencedStaleEpoch := accounting.fencedStaleEpoch
    fencedStaleBoot := accounting.fencedStaleBoot
    queueRejections := accounting.queueRejections
    queueCapacity := accounting.queueCapacity
    queueHighWater := accounting.queueHighWater
    activeEnvelopes := UInt64.ofNat device.table.size
    envelopeLimit := session.config.device.envelopeLimit
    idleNoopRequests := accounting.idleNoopRequests
    boot := session.config.boot
    epoch := device.highestEpoch }

def handleHeartbeat (session : WorkerSession) (device : SyntheticDevice) : Served :=
  let beat : AccountingResponseMessage :=
    { boot := session.config.boot, epoch := device.highestEpoch }
  let session :=
    { session with
      accounting :=
        { session.accounting with idleNoopRequests := session.accounting.idleNoopRequests + 1 } }
  ⟨{ type := .heartbeatResponse, payload := encodeAccountingResponse beat }, session, device⟩

def handleFrame (session : WorkerSession) (device : SyntheticDevice) (frame : Frame) : Served :=
  match frame.type with
  | .hello => match decodeMessage decodeHello frame.payload with
    | none =>
      let served := session.undecoded device (ascii "hello could not be decoded")
      { served with session := served.session.stop }
    | some hello => session.handleHello device hello
  | .applyRequest => match decodeMessage decodeApplyRequest frame.payload with
    | none => session.undecoded device (ascii "apply request could not be decoded")
    | some request => session.handleApply device request
  | .revokeRequest => match decodeMessage decodeRevokeRequest frame.payload with
    | none => session.undecoded device (ascii "revoke request could not be decoded")
    | some request => session.handleRevoke device request
  | .verifyRequest => match decodeMessage decodeVerifyRequest frame.payload with
    | none => session.undecoded device (ascii "verify request could not be decoded")
    | some request => session.handleVerify device request
  | .heartbeatRequest => session.handleHeartbeat device
  | .accountingRequest =>
    ⟨{ type := .accountingResponse,
       payload := encodeAccountingResponse (session.wireAccounting device) }, session, device⟩
  | _ =>
    ⟨errorFrame .unsupportedOperation (ascii "worker does not serve this message type"),
      session.countRejection, device⟩

end WorkerSession

end RateGovernor.Model.Worker
