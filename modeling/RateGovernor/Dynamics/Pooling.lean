import RateGovernor.Foundation.GuardedRun
import RateGovernor.Foundation.Slots
import RateGovernor.Model.WorkerPool
import Mathlib.Algebra.Order.Group.Multiset

namespace RateGovernor.Dynamics.Pooling

open Model.CheckedMath Model.Identity Model.Reason Model.Entities Model.Calls Model.Synthetic
open Model.Wire
open Model.Worker Model.WorkerPool Foundation.GuardedRun Foundation.Slots

/-- Something reaches the device: a request of this session, or a call of another one. -/
inductive Visit
  | request (pending : PendingFrame)
  | elsewhere (call : DeviceCall)

def Visit.asked : Visit → Option PendingFrame
  | .request pending => some pending
  | .elsewhere _ => none

/-- A frame given to the socket, and the request it answers. -/
structure Offer where
  request : Option PendingFrame
  response : Frame

/-- What has happened at a pool so far, everything in the order in which it happened. -/
structure Ledger where
  received : List PendingFrame := []
  accepted : List PendingFrame := []
  refused : List PendingFrame := []
  taken : List PendingFrame := []
  dropped : List PendingFrame := []
  visits : List Visit := []
  finished : List PendingFrame := []
  offered : List Offer := []
  charged : List Charge := []
  failures : List TransportError := []

namespace Ledger

def handled (ledger : Ledger) : List PendingFrame := ledger.visits.filterMap Visit.asked

def did (ledger : Ledger) (request : Option PendingFrame) : Chore → Ledger
  | .send response => { ledger with offered := ledger.offered ++ [{ request, response }] }
  | .count charge => { ledger with charged := ledger.charged ++ [charge] }
  | .stop | .countShutdown | .noteShutdown => ledger

def noteReader (ledger : Ledger) (pool : Pool) : Ledger :=
  match pool.reader with
  | .received frame =>
    if frame.type = .shutdownRequest then ledger
    else
      { ledger with received := ledger.received ++ [{ frame, sequence := pool.sequence + 1 }] }
  | .admitting pending =>
    if pool.hasRoom then { ledger with accepted := ledger.accepted ++ [pending] }
    else { ledger with refused := ledger.refused ++ [pending] }
  | .refusing pending (chore :: _) => ledger.did (some pending) chore
  | .shutting (chore :: _) => ledger.did none chore
  | _ => ledger

def noteThread (ledger : Ledger) (pool : Pool) : ThreadStage → Ledger
  | .waiting => { ledger with taken := ledger.taken ++ pool.queue.take 1 }
  | .starting pending => { ledger with visits := ledger.visits ++ [.request pending] }
  | .finishing pending (chore :: _) => ledger.did (some pending) chore
  | .finishing pending [] => { ledger with finished := ledger.finished ++ [pending] }
  | .dropping pending =>
    { ledger with
      dropped := ledger.dropped ++ [pending], charged := ledger.charged ++ [.rejection] }
  | _ => ledger

def note (ledger : Ledger) (pool : Pool) : Event → Ledger
  | .reader _ => ledger.noteReader pool
  | .thread index _ => (pool.threads[index]?).elim ledger (ledger.noteThread pool)
  | .receive (.error failure) =>
    { ledger with
      failures := ledger.failures ++ [failure]
      charged := ledger.charged ++ if malformedFrame failure then [.malformed] else [] }
  | .elsewhere call => { ledger with visits := ledger.visits ++ [.elsewhere call] }
  | .receive (.ok _) | .requestStop => ledger

end Ledger

structure Observed where
  pool : Pool
  ledger : Ledger := {}

def Observed.step (o : Observed) (event : Event) : Option Observed :=
  (o.pool.step event).map fun pool ↦ { pool, ledger := o.ledger.note o.pool event }

def newlyObserved (config : WorkerSessionConfig) (device : SyntheticDevice) : Observed :=
  { pool := newPool config device }

def Chore.response : Chore → Option Frame
  | .send response => some response
  | _ => none

def Chore.charge : Chore → Option Charge
  | .count charge => some charge
  | _ => none

/-- The request once for each response that the chores still give it. -/
def owedBy (pending : PendingFrame) (chores : List Chore) : Multiset PendingFrame :=
  ↑((chores.filterMap Chore.response).map fun _ ↦ pending)

def dueFor (chores : List Chore) : Multiset Charge := ↑(chores.filterMap Chore.charge)

section Measures

def ThreadStage.unstarted : ThreadStage → Multiset PendingFrame
  | .checking pending | .starting pending | .dropping pending => {pending}
  | _ => 0

def ThreadStage.engaged : ThreadStage → Multiset PendingFrame
  | .greeting pending | .measuring pending _ | .finishing pending _ => {pending}
  | _ => 0

def ThreadStage.unanswered : ThreadStage → Multiset PendingFrame
  | .greeting pending | .measuring pending _ => {pending}
  | .finishing pending chores => owedBy pending chores
  | _ => 0

/-- What a thread still has to count for the request it has brought to the device. -/
def ThreadStage.due : ThreadStage → Multiset Charge
  | .greeting _ | .measuring _ _ => {.served}
  | .finishing _ chores => dueFor chores
  | _ => 0

def ReaderStage.held : ReaderStage → Multiset PendingFrame
  | .admitting pending => {pending}
  | _ => 0

def ReaderStage.unanswered : ReaderStage → Multiset PendingFrame
  | .refusing pending chores => owedBy pending chores
  | _ => 0

def ReaderStage.due : ReaderStage → Multiset Charge
  | .refusing _ chores | .shutting chores => dueFor chores
  | _ => 0

end Measures

/-- The requests that were given an answer, whether or not it could be sent. -/
def Ledger.answered (ledger : Ledger) : List PendingFrame := ledger.offered.filterMap Offer.request

/-- Every request received is refused, waits, is held by a thread, was dropped unstarted or is
finished, each of them once, and the threads take them in the order in which they came. -/
structure Conserved (o : Observed) : Prop where
  received : (↑o.ledger.received : Multiset PendingFrame) =
    ↑o.ledger.accepted + ↑o.ledger.refused + ReaderStage.held o.pool.reader
  queued : o.ledger.accepted = o.ledger.taken ++ o.pool.queue
  taken : (↑o.ledger.taken : Multiset PendingFrame) =
    total ThreadStage.unstarted o.pool.threads + (↑o.ledger.dropped + ↑o.ledger.handled)
  handled : (↑o.ledger.handled : Multiset PendingFrame) =
    total ThreadStage.engaged o.pool.threads + ↑o.ledger.finished
  answered : (↑o.ledger.handled + ↑o.ledger.refused : Multiset PendingFrame) =
    total ThreadStage.unanswered o.pool.threads +
      (↑o.ledger.answered + ReaderStage.unanswered o.pool.reader)

section Perform

variable (pool : Pool) (delivered : Bool) (chore : Chore)

theorem perform_cases : ∃ session shutdownRequests shutdownRequested connected sent,
    pool.perform delivered chore =
      { pool with session, shutdownRequests, shutdownRequested, connected, sent } ∧
    session.config = pool.session.config := by
  cases chore with
  | send response =>
    simp only [Pool.perform, Pool.send]
    split
    · exact ⟨_, _, _, _, _, rfl, rfl⟩
    · exact ⟨_, _, _, _, _, rfl, rfl⟩
  | _ => exact ⟨_, _, _, _, _, rfl, rfl⟩

end Perform

theorem owedBy_cons (pending : PendingFrame) (chore : Chore) (chores : List Chore) :
    owedBy pending (chore :: chores) = owedBy pending [chore] + owedBy pending chores := by
  unfold owedBy
  rw [← List.singleton_append, List.filterMap_append, List.map_append, Multiset.coe_add]

theorem answered_did (ledger : Ledger) (pending : PendingFrame) (chore : Chore) :
    (↑(ledger.did (some pending) chore).answered : Multiset PendingFrame) =
      ↑ledger.answered + owedBy pending [chore] := by
  cases chore with
  | send response =>
    simp only [Ledger.did, Ledger.answered, List.filterMap_append, ← Multiset.coe_add]
    rfl
  | _ => exact (add_zero (↑ledger.answered : Multiset PendingFrame)).symm

theorem answered_did_none (ledger : Ledger) (chore : Chore) :
    (ledger.did none chore).answered = ledger.answered := by
  cases chore with
  | send response =>
    simp only [Ledger.did, Ledger.answered, List.filterMap_append]
    exact List.append_nil _
  | _ => rfl

/-- The chores of a request whose response needs no further look at the device. -/
inductive Settling (response : Frame) : List Chore → Prop
  | plain (charge : Charge) : Settling response (answered response charge)
  | undecodedHello :
    Settling response [.send response, .count .malformed, .stop, .count .served]
  | fencedHello (reason : ReasonCode) :
    Settling response [.count (.fenced reason), .send response, .stop, .count .served]

/-- How a request goes on once it has reached the device, beside what serving it in one go does. -/
inductive Handles (session : WorkerSession) (device : SyntheticDevice) (pending : PendingFrame) :
    ThreadStage → Prop
  | settled (chores : List Chore) (htype : pending.frame.type ≠ .accountingRequest)
      (h : Settling (session.handleFrame device pending.frame).response chores) :
      Handles session device pending (.finishing pending chores)
  | admitted (htype : pending.frame.type = .hello)
      (h : (session.handleFrame device pending.frame).response =
        { type := .helloAck,
          payload := encodeHello
            (session.helloReply (session.handleFrame device pending.frame).device) }) :
      Handles session device pending (.greeting pending)
  | measured (htype : pending.frame.type = .accountingRequest) :
      Handles session device pending (.measuring pending (session.wireAccounting device))

section Handling

variable {session : WorkerSession} {device : SyntheticDevice} {pending : PendingFrame}

theorem Handles.plain {response : Frame} {charge : Charge}
    (htype : pending.frame.type ≠ .accountingRequest)
    (h : (session.handleFrame device pending.frame).response = response) :
    Handles session device pending (.finishing pending (answered response charge)) :=
  .settled _ htype (h ▸ .plain charge)

/-- Serves a request as far as the device is concerned as it is served in one go. -/
def Refines (session : WorkerSession) (device : SyntheticDevice) (pending : PendingFrame) : Prop :=
  (handleFrame session device pending).2 = (session.handleFrame device pending.frame).device ∧
    Handles session device pending (handleFrame session device pending).1

theorem refines_hello (htype : pending.frame.type = .hello) : Refines session device pending := by
  have hother : pending.frame.type ≠ .accountingRequest := by
    rw [htype]
    decide
  unfold Refines
  cases hdecode : decodeMessage decodeHello pending.frame.payload with
  | none =>
    simp only [handleFrame, WorkerSession.handleFrame, htype, hdecode]
    refine ⟨rfl, .settled _ hother ?_⟩
    simp only [WorkerSession.handleFrame, htype, hdecode]
    exact .undecodedHello
  | some hello =>
    cases hadmit : device.admitIncarnation hello.epoch hello.boot with
    | mk reason next =>
      cases reason with
      | none =>
        simp only [handleFrame, WorkerSession.handleFrame, WorkerSession.handleHello, htype,
          hdecode, hadmit]
        refine ⟨trivial, .admitted htype ?_⟩
        simp only [WorkerSession.handleFrame, WorkerSession.handleHello, htype, hdecode, hadmit]
      | some reason =>
        simp only [handleFrame, WorkerSession.handleFrame, WorkerSession.handleHello, htype,
          hdecode, hadmit]
        refine ⟨trivial, .settled _ hother ?_⟩
        simp only [WorkerSession.handleFrame, WorkerSession.handleHello, htype, hdecode, hadmit]
        exact .fencedHello reason

theorem handleFrame_refines (session : WorkerSession) (device : SyntheticDevice)
    (pending : PendingFrame) : Refines session device pending := by
  obtain ⟨⟨type, flags, payload⟩, sequence⟩ := pending
  cases type with
  | hello => exact refines_hello rfl
  | accountingRequest => exact ⟨rfl, .measured rfl⟩
  | applyRequest =>
    unfold Refines
    cases hdecode : decodeMessage decodeApplyRequest payload with
    | none =>
      simp only [handleFrame, WorkerSession.handleFrame, hdecode]
      exact ⟨rfl, .plain nofun (by simp only [WorkerSession.handleFrame, hdecode]; rfl)⟩
    | some request =>
      simp only [handleFrame, WorkerSession.handleFrame, hdecode]
      exact ⟨rfl, .plain nofun (by simp only [WorkerSession.handleFrame, hdecode]; rfl)⟩
  | revokeRequest =>
    unfold Refines
    cases hdecode : decodeMessage decodeRevokeRequest payload with
    | none =>
      simp only [handleFrame, WorkerSession.handleFrame, hdecode]
      exact ⟨rfl, .plain nofun (by simp only [WorkerSession.handleFrame, hdecode]; rfl)⟩
    | some request =>
      simp only [handleFrame, WorkerSession.handleFrame, hdecode]
      exact ⟨rfl, .plain nofun (by simp only [WorkerSession.handleFrame, hdecode]; rfl)⟩
  | verifyRequest =>
    unfold Refines
    cases hdecode : decodeMessage decodeVerifyRequest payload with
    | none =>
      simp only [handleFrame, WorkerSession.handleFrame, hdecode]
      exact ⟨rfl, .plain nofun (by simp only [WorkerSession.handleFrame, hdecode]; rfl)⟩
    | some request =>
      simp only [handleFrame, WorkerSession.handleFrame, hdecode]
      exact ⟨rfl, .plain nofun (by simp only [WorkerSession.handleFrame, hdecode]; rfl)⟩
  | _ => exact ⟨rfl, .plain nofun rfl⟩

end Handling

theorem did_keeps (ledger : Ledger) (request : Option PendingFrame) (chore : Chore) :
    (ledger.did request chore).received = ledger.received ∧
      (ledger.did request chore).accepted = ledger.accepted ∧
      (ledger.did request chore).refused = ledger.refused ∧
      (ledger.did request chore).taken = ledger.taken ∧
      (ledger.did request chore).dropped = ledger.dropped ∧
      (ledger.did request chore).visits = ledger.visits ∧
      (ledger.did request chore).finished = ledger.finished := by
  cases chore <;> exact ⟨rfl, rfl, rfl, rfl, rfl, rfl, rfl⟩

theorem handled_visit {ledger next : Ledger} {pending : PendingFrame}
    (h : next.visits = ledger.visits ++ [.request pending]) :
    (↑next.handled : Multiset PendingFrame) = ↑ledger.handled + {pending} := by
  rw [Ledger.handled, h, List.filterMap_append, ← Multiset.coe_add]
  rfl

section Chores

variable {response : Frame} {chores : List Chore}

theorem owedBy_settling (pending : PendingFrame) (h : Settling response chores) :
    owedBy pending chores = {pending} := by
  cases h <;> rfl

theorem Handles.unstarted {session : WorkerSession} {device : SyntheticDevice}
    {pending : PendingFrame} {thread : ThreadStage} (h : Handles session device pending thread) :
    ThreadStage.unstarted thread = 0 := by
  cases h <;> rfl

theorem Handles.engaged {session : WorkerSession} {device : SyntheticDevice}
    {pending : PendingFrame} {thread : ThreadStage} (h : Handles session device pending thread) :
    ThreadStage.engaged thread = {pending} := by
  cases h <;> rfl

theorem Handles.unanswered {session : WorkerSession} {device : SyntheticDevice}
    {pending : PendingFrame} {thread : ThreadStage} (h : Handles session device pending thread) :
    ThreadStage.unanswered thread = {pending} := by
  cases h with
  | settled chores htype h => exact owedBy_settling pending h
  | admitted | measured => rfl

end Chores

section Steps

variable {o : Observed} {next : Pool} {delivered : Bool} {index : ℕ} {stage : ThreadStage}

/-- What one thread's step has to balance: what it hands on is what it no longer holds. -/
structure Balanced (o next : Observed) (old new : ThreadStage) : Prop where
  reader : next.pool.reader = o.pool.reader
  received : next.ledger.received = o.ledger.received
  accepted : next.ledger.accepted = o.ledger.accepted
  refused : next.ledger.refused = o.ledger.refused
  queued : next.ledger.taken ++ next.pool.queue = o.ledger.taken ++ o.pool.queue
  taken : (↑next.ledger.taken + (ThreadStage.unstarted old +
      (↑o.ledger.dropped + ↑o.ledger.handled)) : Multiset PendingFrame) =
    ↑o.ledger.taken + (ThreadStage.unstarted new +
      (↑next.ledger.dropped + ↑next.ledger.handled))
  handled : (↑next.ledger.handled + (ThreadStage.engaged old + ↑o.ledger.finished) :
    Multiset PendingFrame) =
      ↑o.ledger.handled + (ThreadStage.engaged new + ↑next.ledger.finished)
  answered : (↑next.ledger.handled + (ThreadStage.unanswered old + ↑o.ledger.answered) :
    Multiset PendingFrame) =
      ↑o.ledger.handled + (ThreadStage.unanswered new + ↑next.ledger.answered)

theorem Conserved.of_balanced {next : Observed} {new : ThreadStage} (h : Conserved o)
    (ht : o.pool.threads[index]? = some stage)
    (hthreads : next.pool.threads = o.pool.threads.set index new)
    (hb : Balanced o next stage new) : Conserved next := by
  refine ⟨?_, ?_, ?_, ?_, ?_⟩
  · rw [hb.received, hb.accepted, hb.refused, hb.reader]
    exact h.received
  · rw [hb.accepted, hb.queued]
    exact h.queued
  · rw [hthreads]
    exact total_balanced ht h.taken hb.taken
  · rw [hthreads]
    exact total_balanced ht h.handled hb.handled
  · rw [hthreads, hb.refused, hb.reader]
    refine total_balanced ht h.answered ?_
    have hmoved := congrArg (· + (↑o.ledger.refused + ReaderStage.unanswered o.pool.reader))
      hb.answered
    convert hmoved using 1 <;> abel

theorem Conserved.thread (h : Conserved o) (ht : o.pool.threads[index]? = some stage)
    (hs : o.pool.threadStep index delivered stage = some next) :
    Conserved ⟨next, o.ledger.noteThread o.pool stage⟩ := by
  cases stage with
  | waiting =>
    simp only [Pool.threadStep] at hs
    cases hqueue : o.pool.queue with
    | nil =>
      simp only [hqueue] at hs
      split at hs
      · cases hs
        refine h.of_balanced ht rfl ⟨rfl, rfl, rfl, rfl, ?_, ?_, rfl, rfl⟩ <;>
          simp only [Ledger.noteThread, hqueue, List.take_nil, List.append_nil, Pool.setThread]
        rfl
      · cases hs
    | cons pending queue =>
      simp only [hqueue] at hs
      cases hs
      refine h.of_balanced ht rfl ⟨rfl, rfl, rfl, rfl, ?_, ?_, rfl, rfl⟩
      · simp only [Ledger.noteThread, hqueue, List.take_succ_cons, List.take_zero,
          List.append_assoc, List.singleton_append]
      · simp only [Ledger.noteThread, hqueue, List.take_succ_cons, List.take_zero,
          ← Multiset.coe_add]
        simp only [ThreadStage.unstarted, Ledger.handled, zero_add, add_assoc]
        rfl
  | checking pending =>
    simp only [Pool.threadStep] at hs
    split at hs <;> cases hs <;>
      exact h.of_balanced ht rfl ⟨rfl, rfl, rfl, rfl, rfl, rfl, rfl, rfl⟩
  | starting pending =>
    obtain ⟨-, hhandles⟩ := handleFrame_refines o.pool.session o.pool.device pending
    simp only [Pool.threadStep] at hs
    generalize handleFrame o.pool.session o.pool.device pending = result at hs hhandles
    cases hs
    have hvisit : (↑(o.ledger.noteThread o.pool (.starting pending)).handled :
        Multiset PendingFrame) = ↑o.ledger.handled + {pending} := handled_visit rfl
    refine h.of_balanced ht rfl ⟨rfl, rfl, rfl, rfl, rfl, ?_, ?_, ?_⟩
    · rw [hhandles.unstarted, hvisit]
      simp only [ThreadStage.unstarted, Ledger.noteThread]
      abel
    · rw [hhandles.engaged, hvisit]
      simp only [ThreadStage.engaged, Ledger.noteThread]
      abel
    · rw [hhandles.unanswered, hvisit]
      simp only [ThreadStage.unanswered, Ledger.noteThread, Ledger.answered]
      abel
  | greeting pending =>
    cases hs
    exact h.of_balanced ht rfl ⟨rfl, rfl, rfl, rfl, rfl, rfl, rfl, rfl⟩
  | measuring pending message =>
    cases hs
    exact h.of_balanced ht rfl ⟨rfl, rfl, rfl, rfl, rfl, rfl, rfl, rfl⟩
  | finishing pending chores =>
    cases chores with
    | nil =>
      cases hs
      refine h.of_balanced ht rfl ⟨rfl, rfl, rfl, rfl, rfl, rfl, ?_, rfl⟩
      simp only [ThreadStage.engaged, Ledger.noteThread, Ledger.handled, ← Multiset.coe_add,
        Multiset.coe_singleton]
      abel
    | cons chore chores =>
      obtain ⟨session, requests, requested, connected, sent, hperform, -⟩ :=
        perform_cases o.pool delivered chore
      simp only [Pool.threadStep, hperform] at hs
      cases hs
      obtain ⟨hreceived, haccepted, hrefused, htaken, hdropped, hvisits, hfinished⟩ :=
        did_keeps o.ledger (some pending) chore
      refine h.of_balanced ht rfl ⟨rfl, hreceived, haccepted, hrefused, ?_, ?_, ?_, ?_⟩
      · exact congrArg (· ++ o.pool.queue) htaken
      · simp only [Ledger.noteThread, Ledger.handled, htaken, hdropped, hvisits]
        rfl
      · simp only [Ledger.noteThread, Ledger.handled, hvisits, hfinished]
        rfl
      · simp only [Ledger.noteThread, Ledger.handled, hvisits, answered_did,
          ThreadStage.unanswered, owedBy_cons pending chore chores]
        abel
  | dropping pending =>
    cases hs
    refine h.of_balanced ht rfl ⟨rfl, rfl, rfl, rfl, rfl, ?_, rfl, rfl⟩
    simp only [ThreadStage.unstarted, Ledger.noteThread, Ledger.handled, ← Multiset.coe_add,
      Multiset.coe_singleton]
    abel
  | returned => cases hs

structure Admitted (o next : Observed) : Prop where
  threads : next.pool.threads = o.pool.threads
  taken : next.ledger.taken = o.ledger.taken
  dropped : next.ledger.dropped = o.ledger.dropped
  visits : next.ledger.visits = o.ledger.visits
  finished : next.ledger.finished = o.ledger.finished
  received : (↑next.ledger.received + (↑o.ledger.accepted + ↑o.ledger.refused +
      ReaderStage.held o.pool.reader) : Multiset PendingFrame) =
    ↑o.ledger.received + (↑next.ledger.accepted + ↑next.ledger.refused +
      ReaderStage.held next.pool.reader)
  queued : o.ledger.accepted = o.ledger.taken ++ o.pool.queue →
    next.ledger.accepted = o.ledger.taken ++ next.pool.queue
  answered : (↑next.ledger.refused + (↑o.ledger.answered +
      ReaderStage.unanswered o.pool.reader) : Multiset PendingFrame) =
    ↑o.ledger.refused + (↑next.ledger.answered + ReaderStage.unanswered next.pool.reader)

theorem Conserved.of_admitted {next : Observed} (h : Conserved o) (hb : Admitted o next) :
    Conserved next := by
  have hhandled : next.ledger.handled = o.ledger.handled := by
    rw [Ledger.handled, hb.visits, Ledger.handled]
  refine ⟨?_, ?_, ?_, ?_, ?_⟩
  · have hmoved := hb.received
    rw [← h.received, add_comm] at hmoved
    exact add_left_cancel hmoved
  · rw [hb.taken]
    exact hb.queued h.queued
  · rw [hb.taken, hb.threads, hb.dropped, hhandled]
    exact h.taken
  · rw [hb.threads, hb.finished, hhandled]
    exact h.handled
  · rw [hb.threads, hhandled]
    have hwhole : (↑o.ledger.handled + ↑next.ledger.refused : Multiset PendingFrame) +
        (↑o.ledger.answered + ReaderStage.unanswered o.pool.reader) =
        (total ThreadStage.unanswered o.pool.threads + (↑next.ledger.answered +
          ReaderStage.unanswered next.pool.reader)) +
        (↑o.ledger.answered + ReaderStage.unanswered o.pool.reader) := by
      rw [add_assoc, hb.answered, ← add_assoc, h.answered]
      abel
    exact add_right_cancel hwhole

theorem Conserved.move {next : Observed} (h : Conserved o)
    (hledger : next.ledger = o.ledger) (hthreads : next.pool.threads = o.pool.threads)
    (hqueue : next.pool.queue = o.pool.queue)
    (hheld : ReaderStage.held next.pool.reader = ReaderStage.held o.pool.reader)
    (hunanswered : ReaderStage.unanswered next.pool.reader =
      ReaderStage.unanswered o.pool.reader) : Conserved next := by
  refine h.of_admitted ⟨hthreads, ?_, ?_, ?_, ?_, ?_, ?_, ?_⟩
  · rw [hledger]
  · rw [hledger]
  · rw [hledger]
  · rw [hledger]
  · rw [hledger, hheld]
  · rw [hledger, hqueue]
    exact id
  · rw [hledger, hunanswered]

theorem Conserved.admit {pending : PendingFrame} (h : Conserved o)
    (hreader : o.pool.reader = .admitting pending) (hs : o.pool.readerStep delivered = some next) :
    Conserved ⟨next, o.ledger.noteReader o.pool⟩ := by
  simp only [Pool.readerStep, hreader] at hs
  simp only [Ledger.noteReader, hreader]
  split at hs
  · next hroom =>
    cases hs
    rw [if_pos hroom]
    refine h.of_admitted ⟨rfl, rfl, rfl, rfl, rfl, ?_, ?_, ?_⟩
    · rw [hreader, ← Multiset.coe_add, Multiset.coe_singleton]
      simp only [ReaderStage.held]
      abel
    · intro hqueued
      simp only [Pool.enqueue, hqueued, List.append_assoc]
    · rw [hreader]
      rfl
  · next hroom =>
    cases hs
    rw [if_neg hroom]
    refine h.of_admitted ⟨rfl, rfl, rfl, rfl, rfl, ?_, id, ?_⟩
    · rw [hreader, ← Multiset.coe_add, Multiset.coe_singleton]
      simp only [ReaderStage.held]
      abel
    · rw [hreader, ← Multiset.coe_add, Multiset.coe_singleton]
      have howed : owedBy pending [.count .queueRejection, .send Pool.queueFull] = {pending} := rfl
      simp only [ReaderStage.unanswered, howed, Ledger.answered]
      abel

theorem Conserved.chore {request : Option PendingFrame} {chore : Chore} {reader : ReaderStage}
    (h : Conserved o)
    (hheld : ReaderStage.held reader = ReaderStage.held o.pool.reader)
    (hunanswered : (↑(o.ledger.did request chore).answered + ReaderStage.unanswered reader :
      Multiset PendingFrame) = ↑o.ledger.answered + ReaderStage.unanswered o.pool.reader) :
    Conserved ⟨{ o.pool.perform delivered chore with reader }, o.ledger.did request chore⟩ := by
  obtain ⟨session, requests, requested, connected, sent, hperform, -⟩ :=
    perform_cases o.pool delivered chore
  obtain ⟨hreceived, haccepted, hrefused, htaken, hdropped, hvisits, hfinished⟩ :=
    did_keeps o.ledger request chore
  rw [hperform]
  refine h.of_admitted ⟨rfl, htaken, hdropped, hvisits, hfinished, ?_, ?_, ?_⟩
  · rw [hreceived, haccepted, hrefused, hheld]
  · intro hqueued
    exact haccepted.trans hqueued
  · rw [hrefused, hunanswered]

theorem Conserved.reader (h : Conserved o) (hs : o.pool.readerStep delivered = some next) :
    Conserved ⟨next, o.ledger.noteReader o.pool⟩ := by
  cases hreader : o.pool.reader with
  | admitting pending => exact h.admit hreader hs
  | refusing pending chores =>
    simp only [Pool.readerStep, hreader] at hs
    simp only [Ledger.noteReader, hreader]
    cases chores with
    | nil =>
      cases hs
      refine h.move rfl rfl rfl ?_ ?_ <;> rw [hreader] <;> rfl
    | cons chore chores =>
      cases hs
      refine h.chore ?_ ?_
      · rw [hreader]
        rfl
      · rw [hreader, answered_did]
        simp only [ReaderStage.unanswered, owedBy_cons pending chore chores]
        abel
  | shutting chores =>
    simp only [Pool.readerStep, hreader] at hs
    simp only [Ledger.noteReader, hreader]
    cases chores with
    | nil =>
      cases hs
      refine h.move rfl rfl rfl ?_ ?_ <;> rw [hreader] <;> rfl
    | cons chore chores =>
      cases hs
      refine h.chore ?_ ?_
      · rw [hreader]
        rfl
      · rw [hreader, answered_did_none]
        rfl
  | received frame =>
    simp only [Pool.readerStep, hreader] at hs
    simp only [Ledger.noteReader, hreader]
    split at hs
    · next htype =>
      cases hs
      rw [if_pos htype]
      refine h.move rfl rfl rfl ?_ ?_ <;> rw [hreader] <;> rfl
    · next htype =>
      cases hs
      rw [if_neg htype]
      refine h.of_admitted ⟨rfl, rfl, rfl, rfl, rfl, ?_, id, ?_⟩
      · rw [hreader, ← Multiset.coe_add, Multiset.coe_singleton]
        simp only [ReaderStage.held]
        abel
      · rw [hreader]
        rfl
  | polling =>
    simp only [Pool.readerStep, hreader] at hs
    cases hs
    refine h.move ?_ rfl rfl ?_ ?_ <;> simp only [Ledger.noteReader, hreader]
    · split <;> rfl
    · split <;> rfl
  | measuring message =>
    simp only [Pool.readerStep, hreader] at hs
    cases hs
    refine h.move ?_ rfl rfl ?_ ?_ <;> simp only [Ledger.noteReader, hreader] <;> rfl
  | ended =>
    simp only [Pool.readerStep, hreader] at hs
    cases hs
    refine h.move ?_ rfl rfl ?_ ?_ <;> simp only [Ledger.noteReader, hreader] <;> rfl
  | closing =>
    simp only [Pool.readerStep, hreader] at hs
    cases hs
    refine h.move ?_ rfl rfl ?_ ?_ <;> simp only [Ledger.noteReader, hreader] <;> rfl
  | joining =>
    simp only [Pool.readerStep, hreader] at hs
    split at hs
    · cases hs
      refine h.move ?_ rfl rfl ?_ ?_ <;> simp only [Ledger.noteReader, hreader] <;> rfl
    · cases hs
  | receiving => rw [Pool.readerStep, hreader] at hs; cases hs
  | returned => rw [Pool.readerStep, hreader] at hs; cases hs

theorem Conserved.receive {incoming : Except TransportError Frame} (h : Conserved o)
    (hs : o.pool.step (.receive incoming) = some next) :
    Conserved ⟨next, o.ledger.note o.pool (.receive incoming)⟩ := by
  simp only [Pool.step] at hs
  split at hs
  · next hreader =>
    split at hs
    · cases hs
    · cases hs
      cases incoming with
      | ok frame =>
        refine h.move rfl rfl rfl ?_ ?_ <;> rw [hreader] <;> rfl
      | error failure =>
        refine h.of_admitted ⟨?_, rfl, rfl, rfl, rfl, ?_, ?_, ?_⟩
        · simp only [Pool.receive]
          split <;> rfl
        · rw [hreader]
          rfl
        · intro hqueued
          simp only [Pool.receive]
          split <;> exact hqueued
        · rw [hreader]
          rfl
  · cases hs

theorem conserved_step {next : Observed} {event : Event} (h : Conserved o)
    (hs : o.step event = some next) : Conserved next := by
  obtain ⟨pool, hpool, rfl⟩ := Option.map_eq_some_iff.mp hs
  cases event with
  | reader delivered => exact h.reader hpool
  | receive incoming => exact h.receive hpool
  | thread index delivered =>
    obtain ⟨stage, hstage, hthread⟩ := Option.bind_eq_some_iff.mp hpool
    simp only [Ledger.note, hstage]
    exact h.thread hstage hthread
  | requestStop =>
    cases hpool
    exact h.move rfl rfl rfl rfl rfl
  | elsewhere call =>
    cases hpool
    obtain ⟨hreceived, hqueued, htaken, hhandled, hanswered⟩ := h
    have hsame : (o.ledger.note o.pool (.elsewhere call)).handled = o.ledger.handled := by
      simp only [Ledger.handled, Ledger.note, List.filterMap_append]
      exact List.append_nil _
    exact ⟨hreceived, hqueued, hsame ▸ htaken, hsame ▸ hhandled, hsame ▸ hanswered⟩

theorem conserved_new (config : WorkerSessionConfig) (device : SyntheticDevice) :
    Conserved (newlyObserved config device) := by
  refine ⟨rfl, rfl, ?_, ?_, ?_⟩ <;>
    rw [newlyObserved, newPool, total_replicate] <;> rfl

end Steps

end RateGovernor.Dynamics.Pooling
