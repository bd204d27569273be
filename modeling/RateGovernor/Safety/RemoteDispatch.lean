import RateGovernor.Model.Remote
import RateGovernor.Dynamics.Messages
import RateGovernor.Safety.EpochFencing

namespace RateGovernor.Safety.RemoteDispatch

open Model.CheckedMath Model.Identity Model.Reason Model.Entities Model.Calls Model.Synthetic
open Model.Wire Model.Worker Model.Remote Dynamics.Messages Foundation.ByteCodec

/-- The session is established and its coordinator is the admitted incarnation. -/
structure Connected (link : Link) : Prop where
  live : link.backend.live = true
  workerBoot : link.backend.workerBoot = link.device.boot
  coordinatorBoot : link.backend.coordinatorBoot = link.device.admittedBoot
  admittedEpoch : link.backend.admittedEpoch = link.device.highestEpoch

section Transport

variable (link : Link) {request : Frame}

def served (link : Link) (request : Frame) : Link :=
  { link with
    session := (link.session.handleFrame link.device request).session
    device := (link.session.handleFrame link.device request).device }

theorem exchange_encodeFrame (hrequest : request.payload.length ≤ kWireMaxPayloadBytes) :
    link.exchange (encodeFrame request) =
      (encodeFrame (link.session.handleFrame link.device request).response,
        served link request) := by
  rw [Link.exchange, recvFrame_encodeFrame hrequest]
  rfl

theorem transact_of_response (request : Frame) {expected : MessageType}
    (hlive : link.backend.live = true)
    (hrequest : request.payload.length ≤ kWireMaxPayloadBytes) (hexpected : expected ≠ .errorResponse)
    (htype : (link.session.handleFrame link.device request).response.type = expected)
    (hresponse : (link.session.handleFrame link.device request).response.payload.length ≤
      kWireMaxPayloadBytes) :
    link.transact request expected =
      (.ok (link.session.handleFrame link.device request).response,
        { served link request with
          backend := { link.backend with roundTrips := link.backend.roundTrips + 1 } }) := by
  have hnot : (link.session.handleFrame link.device request).response.type ≠ .errorResponse := by
    rw [htype]
    exact hexpected
  simp only [Link.transact, hlive, Bool.not_true, Bool.false_eq_true, if_false,
    encodeFrame_ne_nil hrequest, exchange_encodeFrame link hrequest, recvFrame_encodeFrame hresponse,
    hnot, ne_eq]
  rw [if_neg (not_not.2 htype)]
  simp only [served, hlive]

end Transport

/-- The answer names the device that gives it, and its detail is short enough to be sent. -/
structure Sendable (device : SyntheticDevice) (epoch : FabricEpoch) (boot : WorkerBootId)
    (detail : Text) : Prop where
  epoch : epoch = device.highestEpoch
  boot : boot = device.boot
  detail : (sentDetail detail).length ≤ kWireMaxTextBytes

section Answers

variable (device : SyntheticDevice)

theorem apply_sendable (request : ApplyRequest) :
    Sendable device (device.apply request).1.epoch (device.apply request).1.boot
      (device.apply request).1.detail := by
  unfold SyntheticDevice.apply
  dsimp only
  split
  · exact ⟨rfl, rfl, Nat.le_of_ble_eq_true rfl⟩
  repeat' split
  all_goals exact ⟨rfl, rfl, Nat.le_of_ble_eq_true rfl⟩

theorem revoke_sendable (request : RevokeRequest) :
    Sendable device (device.revoke request).1.epoch (device.revoke request).1.boot
      (device.revoke request).1.detail := by
  unfold SyntheticDevice.revoke
  split
  all_goals exact ⟨rfl, rfl, Nat.le_of_ble_eq_true rfl⟩

theorem reportEntry_sendable (entry : SyntheticEntry) :
    Sendable device (device.reportEntry entry).1.epoch (device.reportEntry entry).1.boot
      (device.reportEntry entry).1.detail := by
  unfold SyntheticDevice.reportEntry
  dsimp only
  repeat' split
  all_goals exact ⟨rfl, rfl, Nat.le_of_ble_eq_true rfl⟩

theorem readBack_sendable (request : ApplyRequest) :
    Sendable device (device.readBack request).1.epoch (device.readBack request).1.boot
      (device.readBack request).1.detail := by
  unfold SyntheticDevice.readBack
  dsimp only
  split
  · exact ⟨rfl, rfl, Nat.le_of_ble_eq_true rfl⟩
  split
  · exact ⟨rfl, rfl, Nat.le_of_ble_eq_true rfl⟩
  split
  · exact ⟨rfl, rfl, Nat.le_of_ble_eq_true rfl⟩
  split
  · exact ⟨rfl, rfl, Nat.le_of_ble_eq_true rfl⟩
  · obtain ⟨hepoch, hboot, hdetail⟩ := reportEntry_sendable _ _
    exact ⟨hepoch, hboot, hdetail⟩

end Answers

section Paths

variable {link : Link}

theorem transact_of_served {α β : Type} {reader : Reader α} {reader' : Reader β} {message : α}
    {answer : β} {kind expected : MessageType} {payload response : Bytes}
    {session : WorkerSession} {device : SyntheticDevice} (h : Connected link)
    (hrequest : Carries reader payload message)
    (hserved : link.session.handleFrame link.device { type := kind, payload } =
      ⟨{ type := expected, payload := response }, session, device⟩)
    (hresponse : Carries reader' response answer) (hexpected : expected ≠ .errorResponse) :
    ∃ after, link.transact { type := kind, payload } expected =
        (.ok { type := expected, payload := response }, after) ∧
      after.backend.workerBoot = link.device.boot ∧
      after.backend.admittedEpoch = link.device.highestEpoch ∧ after.device = device := by
  have htransact := transact_of_response link ⟨kind, 0, payload⟩ h.live hrequest.1
    hexpected (by rw [hserved]) (by rw [hserved]; exact hresponse.1)
  rw [served, hserved] at htransact
  exact ⟨_, htransact, h.workerBoot, h.admittedEpoch, rfl⟩

theorem dispatchApply_of_connected (h : Connected link) (request : ApplyRequest) :
    let direct := link.device.apply { request with boot := link.backend.coordinatorBoot }
    (link.dispatchApply request).1 =
        { direct.1 with
          status := if direct.1.status = .completed then .completed else .rejected
          detail := sentDetail direct.1.detail } ∧
      (link.dispatchApply request).2.device = direct.2 := by
  intro direct
  let message := link.applyMessage request
  let answer := WorkerSession.applyResponse message direct.1
  obtain ⟨hepoch, hboot, hdetail⟩ := apply_sendable link.device
    { request with boot := link.backend.coordinatorBoot }
  have hrequest : Carries decodeApplyRequest (encodeApplyRequest message) message :=
    carries_applyRequest message
  have hresponse : Carries decodeApplyResponse (encodeApplyResponse answer) answer :=
    carries_applyResponse hdetail
  have hserved : link.session.handleFrame link.device
        { type := .applyRequest, payload := encodeApplyRequest message } =
      ⟨{ type := .applyResponse, payload := encodeApplyResponse answer },
        (link.session.handleApply link.device message).session, direct.2⟩ := by
    simp only [WorkerSession.handleFrame, hrequest.2.2]
    rfl
  obtain ⟨after, htransact, hafterBoot, hafterEpoch, hafterDevice⟩ :=
    transact_of_served h hrequest hserved hresponse nofun
  have hattempt : answer.attempt = request.attempt := rfl
  have hworker : answer.boot = after.backend.workerBoot := hboot.trans hafterBoot.symm
  have hcurrent : answer.epoch = after.backend.admittedEpoch := hepoch.trans hafterEpoch.symm
  have hdispatch : link.dispatchApply request = after.readApplyResponse request answer := by
    simp only [Link.dispatchApply, h.live, Bool.not_true, Bool.false_eq_true, if_false]
    rw [hrequest.2.1, htransact]
    simp only [Bool.false_eq_true, if_false, hresponse.2.2]
  rw [hdispatch, Link.readApplyResponse, if_neg (not_not.2 hattempt), if_neg (not_not.2 hworker),
    if_neg (not_not.2 hcurrent)]
  refine ⟨?_, hafterDevice⟩
  simp only [answer, WorkerSession.applyResponse, decide_eq_true_eq]

theorem dispatchRevoke_of_connected (h : Connected link) (request : RevokeRequest) :
    let direct := link.device.revoke { request with boot := link.backend.coordinatorBoot }
    (link.dispatchRevoke request).1.status =
        (if direct.1.status = .completed then .completed else .rejected) ∧
      (link.dispatchRevoke request).1.appliedRateUps = 0 ∧
      (link.dispatchRevoke request).1.appliedBurstTokens = 0 ∧
      (link.dispatchRevoke request).2.device = direct.2 := by
  intro direct
  let message := link.revokeMessage request
  let answer := WorkerSession.revokeResponse message direct.1
  obtain ⟨hepoch, hboot, hdetail⟩ := revoke_sendable link.device
    { request with boot := link.backend.coordinatorBoot }
  have hrequest : Carries decodeRevokeRequest (encodeRevokeRequest message) message :=
    carries_revokeRequest message
  have hresponse : Carries decodeRevokeResponse (encodeRevokeResponse answer) answer :=
    carries_revokeResponse hdetail
  have hserved : link.session.handleFrame link.device
        { type := .revokeRequest, payload := encodeRevokeRequest message } =
      ⟨{ type := .revokeResponse, payload := encodeRevokeResponse answer },
        (link.session.handleRevoke link.device message).session, direct.2⟩ := by
    simp only [WorkerSession.handleFrame, hrequest.2.2]
    rfl
  obtain ⟨after, htransact, hafterBoot, hafterEpoch, hafterDevice⟩ :=
    transact_of_served h hrequest hserved hresponse nofun
  have hmatch : ¬(answer.attempt ≠ request.attempt ∨ answer.boot ≠ after.backend.workerBoot ∨
      answer.epoch ≠ after.backend.admittedEpoch) := by
    rintro (hattempt | hworker | hcurrent)
    · exact hattempt rfl
    · exact hworker (hboot.trans hafterBoot.symm)
    · exact hcurrent (hepoch.trans hafterEpoch.symm)
  have hdispatch : link.dispatchRevoke request = after.readRevokeResponse request answer := by
    simp only [Link.dispatchRevoke, h.live, Bool.not_true, Bool.false_eq_true, if_false]
    rw [hrequest.2.1, htransact]
    simp only [Bool.false_eq_true, if_false, hresponse.2.2]
  rw [hdispatch, Link.readRevokeResponse, if_neg hmatch]
  refine ⟨?_, rfl, rfl, hafterDevice⟩
  simp only [answer, WorkerSession.revokeResponse, decide_eq_true_eq]

theorem verify_of_connected (h : Connected link) (request : ApplyRequest) :
    let direct := link.device.readBack { request with boot := link.backend.coordinatorBoot }
    (link.verify request).1 =
        { direct.1 with status := .confirmed, detail := sentDetail direct.1.detail } ∧
      (link.verify request).2.device = direct.2 := by
  intro direct
  let message := link.verifyMessage request
  let answer := WorkerSession.verifyResponse message direct.1
  obtain ⟨hepoch, hboot, hdetail⟩ := readBack_sendable link.device
    { request with boot := link.backend.coordinatorBoot }
  have hrequest : Carries decodeVerifyRequest (encodeVerifyRequest message) message :=
    carries_verifyRequest message
  have hresponse : Carries decodeVerifyResponse (encodeVerifyResponse answer) answer :=
    carries_verifyResponse hdetail
  have hserved : link.session.handleFrame link.device
        { type := .verifyRequest, payload := encodeVerifyRequest message } =
      ⟨{ type := .verifyResponse, payload := encodeVerifyResponse answer },
        (link.session.handleVerify link.device message).session, direct.2⟩ := by
    simp only [WorkerSession.handleFrame, hrequest.2.2]
    rfl
  obtain ⟨after, htransact, hafterBoot, hafterEpoch, hafterDevice⟩ :=
    transact_of_served h hrequest hserved hresponse nofun
  have hattempt : answer.attempt = request.attempt := rfl
  have hworker : direct.1.boot = after.backend.workerBoot := hboot.trans hafterBoot.symm
  have hcurrent : direct.1.epoch = after.backend.admittedEpoch := hepoch.trans hafterEpoch.symm
  have hfenced : ¬(answer.boot ≠ after.backend.workerBoot ∨
      answer.epoch ≠ after.backend.admittedEpoch) :=
    not_or.2 ⟨not_not.2 hworker, not_not.2 hcurrent⟩
  have hverify : link.verify request = after.readVerifyResponse request answer := by
    simp only [Link.verify, h.live, Bool.not_true, Bool.false_eq_true, if_false]
    rw [hrequest.2.1, htransact]
    simp only [Bool.false_eq_true, if_false, hresponse.2.2]
  rw [hverify, Link.readVerifyResponse, if_neg (not_not.2 hattempt), if_neg hfenced]
  refine ⟨?_, hafterDevice⟩
  simp only [answer, WorkerSession.verifyResponse, hworker, hcurrent]

end Paths

/-- A request of the coordinator to the device. -/
inductive Request
  | apply (request : ApplyRequest)
  | revoke (request : RevokeRequest)
  | verify (request : ApplyRequest)

def Request.epoch : Request → FabricEpoch
  | .apply request | .verify request => request.epoch
  | .revoke request => request.epoch

/-- What the coordinator learns: the status, and what the device reports to hold. -/
inductive Answer
  | dispatch (status : DispatchStatus) (rate burst : U64)
  | readBack (status : VerificationStatus) (present : Bool) (rate burst : U64)
  deriving DecidableEq

def answerOfDispatch (outcome : DispatchOutcome) : Answer :=
  .dispatch outcome.status outcome.appliedRateUps outcome.appliedBurstTokens

def answerOfReadBack (outcome : VerificationOutcome) : Answer :=
  .readBack outcome.status outcome.observedPresent outcome.observedRateUps
    outcome.observedBurstTokens

/-- Calling the device directly with the coordinator's boot id. -/
def direct (device : SyntheticDevice) (boot : WorkerBootId) : Request → Answer × SyntheticDevice
  | .apply request =>
    let (outcome, device) := device.apply { request with boot }
    (answerOfDispatch outcome, device)
  | .revoke request =>
    let (outcome, device) := device.revoke { request with boot }
    (answerOfDispatch outcome, device)
  | .verify request =>
    let (outcome, device) := device.readBack { request with boot }
    (answerOfReadBack outcome, device)

/-- Sending the request to the worker. -/
def remote (link : Link) : Request → Answer × SyntheticDevice
  | .apply request =>
    let (outcome, link) := link.dispatchApply request
    (answerOfDispatch outcome, link.device)
  | .revoke request =>
    let (outcome, link) := link.dispatchRevoke request
    (answerOfDispatch outcome, link.device)
  | .verify request =>
    let (outcome, link) := link.verify request
    (answerOfReadBack outcome, link.device)

/-- The worker passes on what a readback observed, and the backend calls it confirmed. -/
theorem remote_verify {link : Link} (h : Connected link) (request : ApplyRequest) :
    remote link (.verify request) =
      let (outcome, device) :=
        link.device.readBack { request with boot := link.backend.coordinatorBoot }
      (.readBack .confirmed outcome.observedPresent outcome.observedRateUps
        outcome.observedBurstTokens, device) := by
  obtain ⟨hremote, hdevice⟩ := verify_of_connected h request
  simp only [remote, answerOfReadBack, hremote, hdevice]

/-- The device is configured to fail this very request: a usable apply whose turn it is, or a
readback. -/
def injectsFailure (device : SyntheticDevice) : Request → Bool
  | .apply request =>
    request.envelope.valid && request.envelopeGeneration.valid && !device.config.refuseAllApplies &&
      isNth (device.applyCalls + 1) device.config.failEveryNthApply
  | .revoke _ => false
  | .verify _ =>
    device.config.refuseAllVerifies ||
      isNth (device.verifyCalls + 1) device.config.refuseEveryNthVerify

section Statuses

variable {device : SyntheticDevice}

theorem incarnationOk_self (epoch : FabricEpoch) (boot : WorkerBootId) :
    incarnationOk epoch epoch boot boot = none := by
  simp only [incarnationOk, UInt64.lt_irrefl, ne_eq, not_true_eq_false, if_false]

theorem apply_status (request : ApplyRequest) (hepoch : request.epoch = device.highestEpoch)
    (hboot : request.boot = device.admittedBoot) :
    (device.apply request).1.status = .failed ∧ injectsFailure device (.apply request) = true ∨
      ((device.apply request).1.status = .completed ∨
          (device.apply request).1.status = .rejected) ∧
        injectsFailure device (.apply request) = false := by
  unfold SyntheticDevice.apply
  simp only [hepoch, hboot, incarnationOk_self, injectsFailure]
  split
  · next hbinding =>
    refine .inr ⟨.inr rfl, ?_⟩
    cases henvelope : request.envelope.valid <;> cases hgeneration : request.envelopeGeneration.valid
    all_goals simp only [henvelope, hgeneration, Bool.not_true, Bool.or_self, Bool.false_eq_true,
      Bool.and_false, Bool.false_and] at hbinding ⊢
  · next hbinding =>
    simp only [Bool.or_eq_true, Bool.not_eq_true', not_or, Bool.not_eq_false] at hbinding
    simp only [hbinding.1, hbinding.2, Bool.true_and]
    split
    · next hrefuse => exact .inr ⟨.inr rfl, by rw [hrefuse]; rfl⟩
    · next hrefuse =>
      simp only [hrefuse, Bool.not_false, Bool.true_and]
      split
      · next hnth => exact .inl ⟨rfl, hnth⟩
      · next hnth =>
        have hinjects := Bool.eq_false_iff.2 hnth
        split
        · exact .inr ⟨.inr rfl, hinjects⟩
        split
        · exact .inr ⟨.inr rfl, hinjects⟩
        split
        · exact .inr ⟨.inr rfl, hinjects⟩
        · exact .inr ⟨.inl rfl, hinjects⟩

theorem revoke_status (request : RevokeRequest) (hepoch : request.epoch = device.highestEpoch)
    (hboot : request.boot = device.admittedBoot) :
    (device.revoke request).1.status = .completed := by
  simp only [SyntheticDevice.revoke, hepoch, hboot, incarnationOk_self]
  rfl

theorem revoke_magnitudes (request : RevokeRequest) :
    (device.revoke request).1.appliedRateUps = 0 ∧
      (device.revoke request).1.appliedBurstTokens = 0 := by
  unfold SyntheticDevice.revoke
  split <;> exact ⟨rfl, rfl⟩

theorem reportEntry_status (entry : SyntheticEntry) :
    (device.reportEntry entry).1.status = .confirmed := by
  unfold SyntheticDevice.reportEntry
  dsimp only
  split
  · rfl
  split <;> rfl

theorem readBack_status (request : ApplyRequest) (hepoch : request.epoch = device.highestEpoch)
    (hboot : request.boot = device.admittedBoot) :
    (device.readBack request).1.status = .failed ∧ injectsFailure device (.verify request) = true ∨
      (device.readBack request).1.status = .confirmed ∧
        injectsFailure device (.verify request) = false := by
  unfold SyntheticDevice.readBack
  simp only [hepoch, hboot, incarnationOk_self, injectsFailure]
  split
  · next hinjects => exact .inl ⟨rfl, hinjects⟩
  · next hinjects =>
    refine .inr ⟨?_, Bool.eq_false_iff.2 hinjects⟩
    split
    · rfl
    split
    · rfl
    · exact reportEntry_status _

end Statuses

/-- Going through the worker gives the coordinator the answer of the device itself, and leaves the
device as a direct call would, exactly when the device does not inject a failure into it. -/
theorem remote_eq_direct_iff {link : Link} {request : Request} (h : Connected link)
    (hepoch : request.epoch = link.device.highestEpoch) :
    remote link request = direct link.device link.backend.coordinatorBoot request ↔
      injectsFailure link.device request = false := by
  have hboot := h.coordinatorBoot
  cases request with
  | apply request =>
    obtain ⟨hremote, hdevice⟩ := dispatchApply_of_connected h request
    have hstatus := apply_status
      { request with boot := link.backend.coordinatorBoot } hepoch hboot
    simp only [remote, direct, answerOfDispatch, hremote, hdevice, Prod.mk.injEq,
      Answer.dispatch.injEq, and_true]
    obtain ⟨hfailed, hinjects⟩ | ⟨hcompleted | hrejected, hinjects⟩ := hstatus
    · simp only [hfailed, reduceCtorEq, if_false, false_iff]
      exact fun hnone ↦ Bool.false_ne_true (hnone.symm.trans hinjects)
    · simp only [hcompleted, if_true, true_iff]
      exact hinjects
    · simp only [hrejected, reduceCtorEq, if_false, true_iff]
      exact hinjects
  | revoke request =>
    obtain ⟨hremote, hrate, hburst, hdevice⟩ := dispatchRevoke_of_connected h request
    have hstatus := revoke_status
      { request with boot := link.backend.coordinatorBoot } hepoch hboot
    simp only [remote, direct, answerOfDispatch, hremote, hrate, hburst, hdevice, hstatus, if_true,
      revoke_magnitudes, injectsFailure]
  | verify request =>
    have hstatus := readBack_status
      { request with boot := link.backend.coordinatorBoot } hepoch hboot
    rw [remote_verify h]
    simp only [direct, answerOfReadBack, Prod.mk.injEq, Answer.readBack.injEq, and_true]
    obtain ⟨hfailed, hinjects⟩ | ⟨hconfirmed, hinjects⟩ := hstatus
    · simp only [hfailed, reduceCtorEq, false_iff]
      exact fun hnone ↦ Bool.false_ne_true (hnone.symm.trans hinjects)
    · simp only [hconfirmed, true_iff]
      exact hinjects

section Handshake

variable {session : WorkerSession} {device : SyntheticDevice} {epoch : FabricEpoch}
  {boot : WorkerBootId}

theorem admitIncarnation_boot :
    (device.admitIncarnation epoch boot).2.boot = device.boot := by
  unfold SyntheticDevice.admitIncarnation
  split
  · rfl
  split
  · split <;> rfl
  · rfl

theorem handshake_response (session : WorkerSession) (device : SyntheticDevice)
    {hello : HelloMessage} (hhello : Carries decodeHello (encodeHello hello) hello) :
    let served := session.handleFrame device { type := .hello, payload := encodeHello hello }
    ((device.admitIncarnation hello.epoch hello.boot).1 ≠ none ∧ served.response.type ≠ .helloAck ∧
        served.response.payload.length ≤ kWireMaxPayloadBytes) ∨
      (device.admitIncarnation hello.epoch hello.boot).1 = none ∧
        served.device = (device.admitIncarnation hello.epoch hello.boot).2 ∧
        served.response =
          { type := .helloAck, payload := encodeHello (session.helloReply served.device) } := by
  intro served
  have hserved : served = session.handleHello device hello := by
    simp only [served, WorkerSession.handleFrame, hhello.2.2]
  rw [hserved, WorkerSession.handleHello]
  cases hadmit : device.admitIncarnation hello.epoch hello.boot with
  | mk refusal after =>
    cases refusal with
    | some reason => exact .inl ⟨Option.some_ne_none _, nofun, length_encodeError_le _⟩
    | none => exact .inr ⟨rfl, rfl, rfl⟩

theorem carries_coordinatorHello :
    Carries decodeHello (encodeHello (coordinatorHello epoch boot))
      (coordinatorHello epoch boot) := by
  have hlabel : (ascii "coordinator").length ≤ kWireMaxTextBytes := by decide
  have hbuild : kCoordinatorBuild.length ≤ kWireMaxTextBytes := by decide
  exact carries_hello hlabel hbuild

theorem greet_eq {payload : Bytes} (hlength : payload.length ≤ kWireMaxPayloadBytes)
    (hnonempty : payload.isEmpty = false) :
    (greet session device epoch boot payload).1 =
      (served (idleLink session device boot) ⟨.hello, 0, payload⟩).acknowledged epoch
        (encodeFrame (session.handleFrame device ⟨.hello, 0, payload⟩).response) := by
  have hexchange : (idleLink session device boot).exchange (encodeFrame ⟨.hello, 0, payload⟩) = _ :=
    exchange_encodeFrame _ hlength
  rw [greet, hnonempty, hexchange]
  rfl

theorem device_of_acknowledged {link after : Link} {bytes : Bytes}
    (h : link.acknowledged epoch bytes = some after) :
    after.device = link.device ∧ after.backend.live = true ∧
      after.backend.coordinatorBoot = link.backend.coordinatorBoot ∧
      after.backend.admittedEpoch = epoch ∧
      ∃ response rest ack, recvFrame bytes = .ok (response, rest) ∧ response.type = .helloAck ∧
        decodeMessage decodeHello response.payload = some ack ∧
        after.backend.workerBoot = ack.boot ∧ ack.epoch = epoch := by
  unfold Link.acknowledged at h
  split at h
  · cases h
  · next response rest hreceived =>
    split at h
    · cases h
    · next htype =>
      split at h
      · cases h
      · next ack hack =>
        split at h
        · cases h
        · next hvalid =>
          cases h
          simp only [Bool.or_eq_true, decide_eq_true_eq, not_or, ne_eq, not_not] at hvalid
          exact ⟨rfl, rfl, rfl, hvalid.2, response, rest, ack, hreceived, not_not.1 htype, hack, rfl,
            hvalid.2⟩

/-- The acknowledgement a coordinator accepts comes from the worker's device and names the epoch
and the boot id it was admitted with. -/
theorem connected_of_greet {link : Link} {hello : HelloMessage}
    (hdevice : session.config.boot = device.boot)
    (hhello : Carries decodeHello (encodeHello hello) hello) (hboot : hello.boot = boot)
    (h : (greet session device epoch boot (encodeHello hello)).1 = some link) : Connected link := by
  rw [greet_eq hhello.1 hhello.2.1] at h
  obtain ⟨hlinked, hlive, hsender, hcurrent, response, rest, ack, hreceived, htype, hack, hworker,
    hacked⟩ := device_of_acknowledged h
  obtain ⟨-, hother, hlength⟩ | ⟨hadmitted, hafter, hresponse⟩ :=
    handshake_response session device hhello
  · rw [recvFrame_encodeFrame hlength] at hreceived
    cases hreceived
    exact absurd htype hother
  · obtain ⟨-, ⟨hrefused, -⟩ | ⟨-, -, hsession, -⟩⟩ :=
      EpochFencing.admitIncarnation_cases device hello.epoch hello.boot
    · exact absurd hadmitted hrefused
    · rw [hresponse] at hreceived
      by_cases hshort : session.config.label.length ≤ kWireMaxTextBytes ∧
          session.config.build.length ≤ kWireMaxTextBytes
      · have hreply : Carries decodeHello (encodeHello (session.helloReply (session.handleFrame
            device ⟨.hello, 0, encodeHello hello⟩).device)) _ := carries_hello hshort.1 hshort.2
        rw [recvFrame_encodeFrame hreply.1] at hreceived
        cases hreceived
        rw [hreply.2.2] at hack
        cases hack
        refine ⟨hlive, ?_, ?_, ?_⟩
        · rw [hworker, hlinked]
          show session.config.boot = (session.handleFrame device _).device.boot
          rw [hafter, hdevice, admitIncarnation_boot]
        · rw [hsender, hlinked]
          show boot = (session.handleFrame device _).device.admittedBoot
          rw [hafter, hsession, hboot]
        · rw [hcurrent, hlinked]
          exact hacked.symm
      · have hlong : encodeHello (session.helloReply (session.handleFrame device
            ⟨.hello, 0, encodeHello hello⟩).device) = [] := encodeHello_of_long hshort
        rw [hlong, recvFrame_encodeFrame (Nat.zero_le _)] at hreceived
        cases hreceived
        cases hack

theorem connected_of_connect {link : Link} (hdevice : session.config.boot = device.boot)
    (h : (connect session device epoch boot).1 = some link) : Connected link :=
  connected_of_greet hdevice carries_coordinatorHello rfl h

theorem connect_of_admitted (hlabel : session.config.label.length ≤ kWireMaxTextBytes)
    (hbuild : session.config.build.length ≤ kWireMaxTextBytes)
    (hvalid : session.config.boot.valid = true)
    (hadmitted : (device.admitIncarnation epoch boot).1 = none) :
    ∃ link, (connect session device epoch boot).1 = some link ∧
      link.device = (device.admitIncarnation epoch boot).2 := by
  have hhello : Carries decodeHello (encodeHello (coordinatorHello epoch boot)) _ :=
    carries_coordinatorHello
  obtain ⟨hrefused, -⟩ | ⟨-, hafter, hresponse⟩ := handshake_response session device hhello
  · exact absurd hadmitted hrefused
  obtain ⟨-, ⟨hrefused, -⟩ | ⟨-, hcurrent, -⟩⟩ :=
    EpochFencing.admitIncarnation_cases device epoch boot
  · exact absurd hadmitted hrefused
  have hreply : Carries decodeHello (encodeHello (session.helloReply (session.handleFrame device
      ⟨.hello, 0, encodeHello (coordinatorHello epoch boot)⟩).device)) _ :=
    carries_hello hlabel hbuild
  have hepoch : (session.helloReply (session.handleFrame device
      ⟨.hello, 0, encodeHello (coordinatorHello epoch boot)⟩).device).epoch = epoch := by
    rw [hafter]
    exact hcurrent
  have hsome : (connect session device epoch boot).1.isSome = true := by
    rw [connect, greet_eq hhello.1 hhello.2.1, hresponse, Link.acknowledged,
      recvFrame_encodeFrame hreply.1]
    simp only [hreply.2.2, hepoch]
    rw [if_neg (not_not.2 rfl), if_neg]
    · rfl
    · simpa [WorkerSession.helloReply] using hvalid
  obtain ⟨link, hlink⟩ := Option.isSome_iff_exists.1 hsome
  refine ⟨link, hlink, ?_⟩
  rw [connect, greet_eq hhello.1 hhello.2.1] at hlink
  exact (device_of_acknowledged hlink).1.trans hafter

end Handshake

/-- A worker whose device refuses every readback. -/
def faultyWorker : WorkerSessionConfig :=
  { boot := ⟨9⟩, device := { failEveryNthApply := 2, refuseAllVerifies := true } }

/-- The session after the coordinator's handshake. -/
def faultyLink : Link where
  backend := { coordinatorBoot := ⟨7⟩, workerBoot := ⟨9⟩, admittedEpoch := ⟨1⟩, live := true }
  session := newSession faultyWorker
  device := (faultyWorker.newDevice.admitIncarnation ⟨1⟩ ⟨7⟩).2

def coordinatorRequest : ApplyRequest :=
  { attempt := ⟨1⟩, envelope := ⟨4⟩, envelopeGeneration := ⟨1⟩, rateUps := 100, burstTokens := 10,
    epoch := ⟨1⟩ }

theorem faultyLink_connected : Connected faultyLink := ⟨rfl, rfl, rfl, rfl⟩

/-- The first apply behind the handshake is answered alike. -/
theorem remote_eq_direct_of_first_apply : ∃ link : Link,
    (connect (newSession faultyWorker) faultyWorker.newDevice ⟨1⟩ ⟨7⟩).1 = some link ∧
      remote link (.apply coordinatorRequest) =
        direct link.device link.backend.coordinatorBoot (.apply coordinatorRequest) := by
  obtain ⟨link, hlink, hdevice⟩ : ∃ link,
      (connect (newSession faultyWorker) faultyWorker.newDevice ⟨1⟩ ⟨7⟩).1 = some link ∧
        link.device = faultyLink.device :=
    connect_of_admitted (by decide) (by decide) rfl rfl
  have hconnected : Connected link := connected_of_connect rfl hlink
  refine ⟨link, hlink, (remote_eq_direct_iff hconnected ?_).2 ?_⟩
  · rw [hdevice]
    rfl
  · rw [hdevice]
    decide

/-- The device cannot tell whether it holds the envelope, and the coordinator is told that it is
confirmed to hold none. -/
theorem refused_readback_confirmed :
    Connected faultyLink ∧
      (remote faultyLink (.verify coordinatorRequest)).1 = .readBack .confirmed false 0 0 ∧
      (direct faultyLink.device ⟨7⟩ (.verify coordinatorRequest)).1 =
        .readBack .failed false 0 0 := by
  refine ⟨faultyLink_connected, ?_, by decide +kernel⟩
  exact (congrArg Prod.fst (remote_verify faultyLink_connected coordinatorRequest)).trans
    (by decide +kernel)

end RateGovernor.Safety.RemoteDispatch
