import RateGovernor.Model.Worker

namespace RateGovernor.Model.Remote

open CheckedMath Identity Reason Entities Calls Synthetic Wire Worker Foundation.ByteCodec

structure RemoteBackend where
  coordinatorBoot : WorkerBootId := {}
  workerBoot : WorkerBootId := {}
  admittedEpoch : FabricEpoch := {}
  roundTrips : U64 := 0
  live : Bool := false

/-- A coordinator's backend, the worker's session that serves it and the worker's device. -/
structure Link where
  backend : RemoteBackend
  session : WorkerSession
  device : SyntheticDevice

namespace Link

/-- Drops the session. -/
def noteFailure (link : Link) : Link := { link with backend := { link.backend with live := false } }

/-- The bytes the worker sends back for the bytes it received, and the worker after it. A frame it
cannot receive ends the session without an answer. -/
def exchange (link : Link) (request : Bytes) : Bytes × Link :=
  match recvFrame request with
  | .error _ => ([], link)
  | .ok (frame, _) =>
    let served := link.session.handleFrame link.device frame
    (encodeFrame served.response, { link with session := served.session, device := served.device })

/-- One request and its response over a transport that loses nothing. -/
def transact (link : Link) (request : Frame) (expected : MessageType) : Except Text Frame × Link :=
  if !link.backend.live then (.error (ascii "backend session is not live"), link)
  else if (encodeFrame request).isEmpty then
    (.error (ascii "frame could not be encoded within the configured bound"), link.noteFailure)
  else
    let (bytes, link) := link.exchange (encodeFrame request)
    match recvFrame bytes with
    | .error failure => (.error failure.error, link.noteFailure)
    | .ok (received, _) =>
      let link :=
        { link with backend := { link.backend with roundTrips := link.backend.roundTrips + 1 } }
      if received.type = .errorResponse then
        match decodeMessage decodeError received.payload with
        | some message =>
          (.error (ascii "worker error: " ++ ascii message.reason.toStringView ++ ascii " (" ++
            message.detail ++ ascii ")"), link)
        | none => (.error (ascii "worker returned an undecodable error"), link)
      else if received.type ≠ expected then
        (.error (ascii "unexpected response frame type"), link.noteFailure)
      else (.ok received, link)

/-- What the backend answers when it has no answer of the worker to pass on. -/
def dispatchFailed (link : Link) (reason : ReasonCode) (detail : Text) : DispatchOutcome :=
  { epoch := link.backend.admittedEpoch, boot := link.backend.workerBoot, status := .failed,
    reason, detail }

def verificationFailed (link : Link) (reason : ReasonCode) (detail : Text) : VerificationOutcome :=
  { epoch := link.backend.admittedEpoch, boot := link.backend.workerBoot, status := .failed,
    reason, detail }

/-- Requests carry the boot id of the coordinator that asks. -/
def applyMessage (link : Link) (request : ApplyRequest) : ApplyRequestMessage :=
  { attempt := request.attempt
    envelope := request.envelope
    envelopeGeneration := request.envelopeGeneration
    rateUps := request.rateUps
    burstTokens := request.burstTokens
    refill := request.refill
    epoch := request.epoch
    boot := link.backend.coordinatorBoot }

def readApplyResponse (link : Link) (request : ApplyRequest) (decoded : ApplyResponseMessage) :
    DispatchOutcome × Link :=
  if decoded.attempt ≠ request.attempt then
    (link.dispatchFailed .backendRejectedMalformedRequest
      (ascii "apply response referenced a different attempt"), link.noteFailure)
  else if decoded.boot ≠ link.backend.workerBoot then
    (link.dispatchFailed .attemptFencedByBoot
      (ascii "apply response carried a foreign boot id"), link)
  else if decoded.epoch ≠ link.backend.admittedEpoch then
    (link.dispatchFailed .attemptFencedByEpoch
      (ascii "apply response carried a different fabric epoch"), link)
  else
    ({ status := if decoded.accepted then .completed else .rejected
       reason := decoded.reason
       appliedRateUps := decoded.appliedRateUps
       appliedBurstTokens := decoded.appliedBurstTokens
       epoch := decoded.epoch
       boot := decoded.boot
       detail := decoded.detail }, link)

def kNotLiveDetail : Text := ascii "backend session is not live; the effect is UNKNOWN"

def dispatchApply (link : Link) (request : ApplyRequest) : DispatchOutcome × Link :=
  let payload := encodeApplyRequest (link.applyMessage request)
  if !link.backend.live then (link.dispatchFailed .backendSessionLost kNotLiveDetail, link)
  else if payload.isEmpty then
    (link.dispatchFailed .malformedInput (ascii "apply request could not be encoded"), link)
  else match link.transact { type := .applyRequest, payload } .applyResponse with
    | (.error error, link) => (link.dispatchFailed .backendSessionLost error, link)
    | (.ok response, link) => match decodeMessage decodeApplyResponse response.payload with
      | none =>
        (link.dispatchFailed .backendRejectedMalformedRequest
          (ascii "apply response could not be decoded"), link.noteFailure)
      | some decoded => link.readApplyResponse request decoded

def revokeMessage (link : Link) (request : RevokeRequest) : RevokeRequestMessage :=
  { attempt := request.attempt
    envelope := request.envelope
    envelopeGeneration := request.envelopeGeneration
    epoch := request.epoch
    boot := link.backend.coordinatorBoot
    reason := request.reason }

def readRevokeResponse (link : Link) (request : RevokeRequest) (decoded : RevokeResponseMessage) :
    DispatchOutcome × Link :=
  if decoded.attempt ≠ request.attempt ∨ decoded.boot ≠ link.backend.workerBoot ∨
      decoded.epoch ≠ link.backend.admittedEpoch then
    (link.dispatchFailed .attemptFencedByBoot
      (ascii "revoke response did not match the dispatched attempt"), link)
  else
    ({ status := if decoded.removed then .completed else .rejected
       reason := decoded.reason
       epoch := decoded.epoch
       boot := decoded.boot
       detail := decoded.detail }, link)

def dispatchRevoke (link : Link) (request : RevokeRequest) : DispatchOutcome × Link :=
  let payload := encodeRevokeRequest (link.revokeMessage request)
  if !link.backend.live then (link.dispatchFailed .backendSessionLost kNotLiveDetail, link)
  else if payload.isEmpty then
    (link.dispatchFailed .malformedInput (ascii "revoke request could not be encoded"), link)
  else match link.transact { type := .revokeRequest, payload } .revokeResponse with
    | (.error error, link) => (link.dispatchFailed .backendSessionLost error, link)
    | (.ok response, link) => match decodeMessage decodeRevokeResponse response.payload with
      | none =>
        (link.dispatchFailed .backendRejectedMalformedRequest
          (ascii "revoke response could not be decoded"), link.noteFailure)
      | some decoded => link.readRevokeResponse request decoded

def verifyMessage (link : Link) (request : ApplyRequest) : VerifyRequestMessage :=
  { attempt := request.attempt
    envelope := request.envelope
    envelopeGeneration := request.envelopeGeneration
    epoch := request.epoch
    boot := link.backend.coordinatorBoot }

/-- Every answer of the admitted worker is passed on as a confirmed readback. -/
def readVerifyResponse (link : Link) (request : ApplyRequest) (decoded : VerifyResponseMessage) :
    VerificationOutcome × Link :=
  if decoded.attempt ≠ request.attempt then
    (link.verificationFailed .applyVerificationUnknown
      (ascii "verify response referenced a different attempt"), link)
  else if decoded.boot ≠ link.backend.workerBoot ∨ decoded.epoch ≠ link.backend.admittedEpoch then
    (link.verificationFailed .attemptFencedByBoot
      (ascii "verify response came from a fenced incarnation"), link)
  else
    ({ status := .confirmed
       reason := decoded.reason
       observedPresent := decoded.present
       observedRateUps := decoded.observedRateUps
       observedBurstTokens := decoded.observedBurstTokens
       epoch := link.backend.admittedEpoch
       boot := link.backend.workerBoot
       detail := decoded.detail }, link)

def verify (link : Link) (request : ApplyRequest) : VerificationOutcome × Link :=
  let payload := encodeVerifyRequest (link.verifyMessage request)
  if !link.backend.live then (link.verificationFailed .applyVerificationUnknown kNotLiveDetail, link)
  else if payload.isEmpty then
    (link.verificationFailed .malformedInput (ascii "verify request could not be encoded"), link)
  else match link.transact { type := .verifyRequest, payload } .verifyResponse with
    | (.error error, link) => (link.verificationFailed .applyVerificationUnknown error, link)
    | (.ok response, link) => match decodeMessage decodeVerifyResponse response.payload with
      | none =>
        (link.verificationFailed .applyVerificationUnknown
          (ascii "verify response could not be decoded"), link.noteFailure)
      | some decoded => link.readVerifyResponse request decoded

end Link

def kCoordinatorBuild : Text := ascii "Rate Governor 1.0.0"

/-- The session a coordinator takes up when the worker acknowledges its handshake; none when the
worker refuses it or answers something else. -/
def Link.acknowledged (link : Link) (epoch : FabricEpoch) (bytes : Bytes) : Option Link :=
  match recvFrame bytes with
  | .error _ => none
  | .ok (response, _) =>
    if response.type ≠ .helloAck then none
    else match decodeMessage decodeHello response.payload with
      | none => none
      | some ack =>
        if !ack.boot.valid || ack.epoch ≠ epoch then none
        else
          some { link with
            backend :=
              { link.backend with
                workerBoot := ack.boot, admittedEpoch := ack.epoch, live := true } }

def coordinatorHello (epoch : FabricEpoch) (boot : WorkerBootId) : HelloMessage :=
  { epoch, boot, label := ascii "coordinator", build := kCoordinatorBuild }

/-- A coordinator that has reached a worker and not been admitted yet. -/
def idleLink (session : WorkerSession) (device : SyntheticDevice) (boot : WorkerBootId) : Link :=
  { backend := { coordinatorBoot := boot }, session, device }

/-- Sends the greeting and waits for the acknowledgement. -/
def greet (session : WorkerSession) (device : SyntheticDevice) (epoch : FabricEpoch)
    (boot : WorkerBootId) (payload : Bytes) : Option Link × SyntheticDevice :=
  if payload.isEmpty then (none, device)
  else
    let (bytes, link) := (idleLink session device boot).exchange
      (encodeFrame { type := .hello, payload })
    (link.acknowledged epoch bytes, link.device)

/-- The handshake of a coordinator with a worker's session. -/
def connect (session : WorkerSession) (device : SyntheticDevice) (epoch : FabricEpoch)
    (boot : WorkerBootId) : Option Link × SyntheticDevice :=
  greet session device epoch boot (encodeHello (coordinatorHello epoch boot))

end RateGovernor.Model.Remote
