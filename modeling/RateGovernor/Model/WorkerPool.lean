import RateGovernor.Model.Worker

namespace RateGovernor.Model.WorkerPool

open CheckedMath Identity Reason Entities Calls Synthetic Wire Worker Foundation.ByteCodec

structure PendingFrame where
  frame : Frame := {}
  sequence : U64 := 0

/-- What a session counts in one critical section over its accounting. -/
inductive Charge
  | malformed
  | fenced (reason : ReasonCode)
  | rejection
  | queueRejection
  | applied
  | revoked
  | verified
  | idleNoop
  | served
  deriving DecidableEq

def Charge.apply (accounting : WorkerSessionAccounting) : Charge → WorkerSessionAccounting
  | .malformed => { accounting with malformedFrames := accounting.malformedFrames + 1 }
  | .fenced reason =>
    let accounting := { accounting with rejections := accounting.rejections + 1 }
    if reason = .backendFencedStaleEpoch then
      { accounting with fencedStaleEpoch := accounting.fencedStaleEpoch + 1 }
    else { accounting with fencedStaleBoot := accounting.fencedStaleBoot + 1 }
  | .rejection => { accounting with rejections := accounting.rejections + 1 }
  | .queueRejection =>
    { accounting with
      queueRejections := accounting.queueRejections + 1
      rejections := accounting.rejections + 1 }
  | .applied => { accounting with appliesApplied := accounting.appliesApplied + 1 }
  | .revoked => { accounting with revokesApplied := accounting.revokesApplied + 1 }
  | .verified => { accounting with verifications := accounting.verifications + 1 }
  | .idleNoop => { accounting with idleNoopRequests := accounting.idleNoopRequests + 1 }
  | .served => { accounting with requestsServed := accounting.requestsServed + 1 }

/-- One thing a thread still has to do for a frame. Other threads may act between two of them. -/
inductive Chore
  | send (response : Frame)
  | count (charge : Charge)
  | stop
  | countShutdown
  | noteShutdown

/-- Where a thread of the pool stands in `worker_loop`. -/
inductive ThreadStage
  | waiting
  | checking (pending : PendingFrame)
  | starting (pending : PendingFrame)
  | greeting (pending : PendingFrame)
  | measuring (pending : PendingFrame) (message : AccountingResponseMessage)
  | finishing (pending : PendingFrame) (chores : List Chore)
  | dropping (pending : PendingFrame)
  | returned

def ThreadStage.isReturned : ThreadStage → Bool
  | .returned => true
  | _ => false

/-- Where the calling thread stands in `reader_loop`, and in `run` after it. -/
inductive ReaderStage
  | polling
  | receiving
  | received (frame : Frame)
  | admitting (pending : PendingFrame)
  | refusing (pending : PendingFrame) (chores : List Chore)
  | measuring (message : AccountingResponseMessage)
  | shutting (chores : List Chore)
  | ended
  | closing
  | joining
  | returned

/-- A session with its queue, its threads, its socket and the device, which other sessions of the
worker share. `sent` are the frames written to the socket as a whole. -/
structure Pool where
  session : WorkerSession
  shutdownRequests : U64 := 0
  shutdownRequested : Bool := false
  stopped : Bool := false
  device : SyntheticDevice
  connected : Bool := true
  queue : List PendingFrame := []
  queueClosed : Bool := false
  sequence : U64 := 0
  reader : ReaderStage := .polling
  threads : List ThreadStage
  sent : List Frame := []

/-- A session as `run` starts it. -/
def newPool (config : WorkerSessionConfig) (device : SyntheticDevice) : Pool where
  session := newSession config
  device := device
  threads := List.replicate config.threads.toNat .waiting

/-- What is left to do for a frame once it has been handled without waiting for the device. -/
def answered (response : Frame) (charge : Charge) : List Chore :=
  [.send response, .count charge, .count .served]

def undecodable (detail : Text) : List Chore :=
  answered (errorFrame .backendRejectedMalformedRequest detail) .malformed

def fencedDetail (reason : ReasonCode) : Text :=
  if reason = .backendFencedStaleEpoch then
    ascii "coordinator epoch is stale relative to the admitted epoch"
  else ascii "coordinator incarnation conflicts with the admitted boot id"

/-- The first part of `handle_frame`, up to the first access to the device included. -/
def handleFrame (session : WorkerSession) (device : SyntheticDevice) (pending : PendingFrame) :
    ThreadStage × SyntheticDevice :=
  let payload := pending.frame.payload
  match pending.frame.type with
  | .hello => match decodeMessage decodeHello payload with
    | none =>
      (.finishing pending [
        .send (errorFrame .backendRejectedMalformedRequest (ascii "hello could not be decoded")),
        .count .malformed, .stop, .count .served], device)
    | some hello => match device.admitIncarnation hello.epoch hello.boot with
      | (some reason, device) =>
        (.finishing pending [.count (.fenced reason),
          .send (errorFrame reason (fencedDetail reason)), .stop, .count .served], device)
      | (none, device) => (.greeting pending, device)
  | .applyRequest => match decodeMessage decodeApplyRequest payload with
    | none =>
      (.finishing pending (undecodable (ascii "apply request could not be decoded")), device)
    | some request =>
      let (outcome, device) := device.apply (WorkerSession.internalApply request)
      let response := WorkerSession.applyResponse request outcome
      (.finishing pending (answered
        { type := .applyResponse, payload := encodeApplyResponse response }
        (if response.accepted then .applied else .rejection)), device)
  | .revokeRequest => match decodeMessage decodeRevokeRequest payload with
    | none =>
      (.finishing pending (undecodable (ascii "revoke request could not be decoded")), device)
    | some request =>
      let (outcome, device) := device.revoke (WorkerSession.internalRevoke request)
      let response := WorkerSession.revokeResponse request outcome
      (.finishing pending (answered
        { type := .revokeResponse, payload := encodeRevokeResponse response }
        (if response.removed then .revoked else .rejection)), device)
  | .verifyRequest => match decodeMessage decodeVerifyRequest payload with
    | none =>
      (.finishing pending (undecodable (ascii "verify request could not be decoded")), device)
    | some request =>
      let (outcome, device) := device.readBack (WorkerSession.internalVerify request)
      (.finishing pending (answered
        { type := .verifyResponse,
          payload := encodeVerifyResponse (WorkerSession.verifyResponse request outcome) }
        .verified), device)
  | .heartbeatRequest =>
    let beat : AccountingResponseMessage :=
      { boot := session.config.boot, epoch := device.highestEpoch }
    (.finishing pending (answered
      { type := .heartbeatResponse, payload := encodeAccountingResponse beat } .idleNoop), device)
  | .accountingRequest => (.measuring pending (session.wireAccounting device), device)
  | _ =>
    (.finishing pending (answered
      (errorFrame .unsupportedOperation (ascii "worker does not serve this message type"))
      .rejection), device)

/-- A receive that failed because of what arrived, and not because nothing more did. -/
def malformedFrame (failure : TransportError) : Bool :=
  failure.reason = .malformedInput ∨ failure.reason = .unsupportedOperation ∨
    failure.reason = .capacityLimitExceeded

namespace Pool

def countWith (pool : Pool) (charge : Charge) : Pool :=
  { pool with
    session := { pool.session with accounting := charge.apply pool.session.accounting } }

def stop (pool : Pool) : Pool := { pool with session := pool.session.stop }

/-- Stopping also closes the socket, which ends a receive that waits on it. -/
def requestStop (pool : Pool) : Pool := { pool.stop with connected := false }

/-- A frame that cannot be sent as a whole ends the session. -/
def send (pool : Pool) (response : Frame) (delivered : Bool) : Pool :=
  if pool.connected && delivered && !(encodeFrame response).isEmpty then
    { pool with sent := pool.sent ++ [response] }
  else pool.requestStop

def perform (pool : Pool) (delivered : Bool) : Chore → Pool
  | .send response => pool.send response delivered
  | .count charge => pool.countWith charge
  | .stop => pool.stop
  | .countShutdown => { pool with shutdownRequests := pool.shutdownRequests + 1 }
  | .noteShutdown => { pool with shutdownRequested := true }

/-- There is room in the queue, and it is open. -/
def hasRoom (pool : Pool) : Bool :=
  !pool.queueClosed && pool.queue.length < pool.session.config.queueCapacity.toNat

def enqueue (pool : Pool) (pending : PendingFrame) : Pool :=
  let queue := pool.queue ++ [pending]
  let depth := UInt64.ofNat queue.length
  let accounting := pool.session.accounting
  { pool with
    queue
    session :=
      { pool.session with
        accounting :=
          if accounting.queueHighWater < depth then { accounting with queueHighWater := depth }
          else accounting } }

def queueFull : Frame := errorFrame .backendQueueFull (ascii "worker queue is full or closed")

/-- What the reader does with the answer of `recv_frame`. -/
def receive (pool : Pool) : Except TransportError Frame → Pool
  | .error failure =>
    let pool := if malformedFrame failure then pool.countWith .malformed else pool
    { pool with reader := .ended }
  | .ok frame => { pool with reader := .received frame }

/-- The next step of the calling thread, when it does not wait for a frame or for the pool. -/
def readerStep (pool : Pool) (delivered : Bool) : Option Pool :=
  match pool.reader with
  | .polling =>
    some { pool with reader := if pool.session.stopping then .ended else .receiving }
  | .receiving => none
  | .received frame =>
    if frame.type = .shutdownRequest then
      some { pool with reader := .measuring (pool.session.wireAccounting pool.device) }
    else
      let sequence := pool.sequence + 1
      some { pool with sequence, reader := .admitting { frame, sequence } }
  | .admitting pending =>
    if pool.hasRoom then some { pool.enqueue pending with reader := .polling }
    else
      some { pool with reader := .refusing pending [.count .queueRejection, .send queueFull] }
  | .refusing pending (chore :: chores) =>
    some { pool.perform delivered chore with reader := .refusing pending chores }
  | .refusing _ [] => some { pool with reader := .polling }
  | .measuring message =>
    let response : Frame :=
      { type := .shutdownResponse,
        payload := encodeAccountingResponse { message with epoch := pool.device.highestEpoch } }
    some { pool with reader := .shutting [.send response, .countShutdown, .noteShutdown, .stop] }
  | .shutting (chore :: chores) =>
    some { pool.perform delivered chore with reader := .shutting chores }
  | .shutting [] => some { pool with reader := .ended }
  | .ended => some { pool.stop with reader := .closing }
  | .closing => some { pool with queueClosed := true, reader := .joining }
  | .joining =>
    if pool.threads.all ThreadStage.isReturned then
      some { pool with connected := false, stopped := true, reader := .returned }
    else none
  | .returned => none

def setThread (pool : Pool) (index : ℕ) (thread : ThreadStage) : Pool :=
  { pool with threads := pool.threads.set index thread }

/-- The next step of one thread of the pool, when it does not wait for a frame. -/
def threadStep (pool : Pool) (index : ℕ) (delivered : Bool) : ThreadStage → Option Pool
  | .waiting => match pool.queue with
    | [] => if pool.queueClosed then some (pool.setThread index .returned) else none
    | pending :: queue => some { pool.setThread index (.checking pending) with queue }
  | .checking pending =>
    if pool.session.stopping && pending.frame.type ≠ .hello then
      some (pool.setThread index (.dropping pending))
    else some (pool.setThread index (.starting pending))
  | .starting pending =>
    let (thread, device) := handleFrame pool.session pool.device pending
    some { pool.setThread index thread with device }
  | .greeting pending =>
    let response : Frame :=
      { type := .helloAck, payload := encodeHello (pool.session.helloReply pool.device) }
    some (pool.setThread index (.finishing pending [.send response, .count .served]))
  | .measuring pending message =>
    let response : Frame :=
      { type := .accountingResponse,
        payload := encodeAccountingResponse { message with epoch := pool.device.highestEpoch } }
    some (pool.setThread index (.finishing pending [.send response, .count .served]))
  | .finishing pending (chore :: chores) =>
    some ((pool.perform delivered chore).setThread index (.finishing pending chores))
  | .finishing _ [] => some (pool.setThread index .waiting)
  | .dropping _ => some ((pool.countWith .rejection).setThread index .waiting)
  | .returned => none

end Pool

/-- What happens next: the reader or a thread of the pool takes a step, a receive returns, someone
asks the session to stop, or another session of the worker calls the device. -/
inductive Event
  | reader (delivered : Bool)
  | receive (incoming : Except TransportError Frame)
  | thread (index : ℕ) (delivered : Bool)
  | requestStop
  | elsewhere (call : DeviceCall)

def Pool.step (pool : Pool) : Event → Option Pool
  | .reader delivered => pool.readerStep delivered
  | .receive incoming => match pool.reader with
    | .receiving =>
      if incoming.isOk && !pool.connected then none else some (pool.receive incoming)
    | _ => none
  | .thread index delivered => pool.threads[index]? >>= pool.threadStep index delivered
  | .requestStop => some pool.requestStop
  | .elsewhere call => some { pool with device := pool.device.after call }

end RateGovernor.Model.WorkerPool
