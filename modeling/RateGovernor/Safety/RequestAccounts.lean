import RateGovernor.Dynamics.Joining
import RateGovernor.Safety.SerialService

namespace RateGovernor.Safety.RequestAccounts

open Model.CheckedMath Model.Identity Model.Reason Model.Entities Model.Calls Model.Synthetic
open Model.Wire Model.Worker Model.WorkerPool Foundation.GuardedRun Foundation.Slots
open Dynamics.Pooling Dynamics.Joining SoleIncarnation SerialService

/-- The charges that are due for what reaches the device, each for the device it finds. -/
def visitDue (device : SyntheticDevice) : Visit → Multiset Charge
  | .request pending => ThreadStage.due (handleFrame (newSession {}) device pending).1
  | .elsewhere _ => 0

def visitDues (device : SyntheticDevice) : List Visit → Multiset Charge
  | [] => 0
  | visit :: visits => visitDue device visit + visitDues (visitAfter device visit) visits

/-- Everything a session has to count for what is in its ledger. -/
def dues (start : SyntheticDevice) (ledger : Ledger) : Multiset Charge :=
  visitDues start ledger.visits + Multiset.replicate ledger.refused.length .queueRejection +
    Multiset.replicate ledger.dropped.length .rejection +
    Multiset.replicate (ledger.failures.countP malformedFrame) .malformed

def rejects : Charge → Bool
  | .rejection | .queueRejection | .fenced _ => true
  | _ => false

def fencesEpoch : Charge → Bool
  | .fenced reason => reason = .backendFencedStaleEpoch
  | _ => false

def fencesBoot : Charge → Bool
  | .fenced reason => reason ≠ .backendFencedStaleEpoch
  | _ => false

def counted (shows : Charge → Bool) (charges : Multiset Charge) : U64 :=
  UInt64.ofNat (charges.countP (shows · = true))

/-- The accounting that shows exactly the given charges. -/
def tally (charges : Multiset Charge) (queueCapacity queueHighWater : U64) :
    WorkerSessionAccounting where
  requestsServed := counted (· = .served) charges
  appliesApplied := counted (· = .applied) charges
  revokesApplied := counted (· = .revoked) charges
  verifications := counted (· = .verified) charges
  rejections := counted rejects charges
  malformedFrames := counted (· = .malformed) charges
  fencedStaleEpoch := counted fencesEpoch charges
  fencedStaleBoot := counted fencesBoot charges
  queueRejections := counted (· = .queueRejection) charges
  queueCapacity := queueCapacity
  queueHighWater := queueHighWater
  idleNoopRequests := counted (· = .idleNoop) charges

section Tallies

variable {charges : Multiset Charge} {queueCapacity queueHighWater : U64} {shows : Charge → Bool}
variable {charge : Charge}

theorem counted_charge : counted shows (charges + {charge}) =
    counted shows charges + if shows charge then 1 else 0 := by
  have hone : Multiset.countP (fun c ↦ shows c = true) {charge} =
      if shows charge then 1 else 0 := by
    rw [← Multiset.cons_zero, Multiset.countP_cons, Multiset.countP_zero, Nat.zero_add]
  rw [counted, Multiset.countP_add, hone, UInt64.ofNat_add]
  split <;> rfl

theorem tally_charge (charge : Charge) :
    tally (charges + {charge}) queueCapacity queueHighWater =
      charge.apply (tally charges queueCapacity queueHighWater) := by
  cases charge with
  | fenced reason =>
    by_cases hepoch : reason = .backendFencedStaleEpoch
    · simp [tally, counted_charge, Charge.apply, rejects, fencesBoot, fencesEpoch, hepoch]
    · simp [tally, counted_charge, Charge.apply, rejects, fencesBoot, fencesEpoch, hepoch]
  | _ => simp [tally, counted_charge, Charge.apply, rejects, fencesBoot, fencesEpoch]

end Tallies

section Dues

variable {device : SyntheticDevice} {pending : PendingFrame}

theorem due_handleFrame (device : SyntheticDevice) (pending : PendingFrame)
    (session other : WorkerSession) :
    ThreadStage.due (handleFrame session device pending).1 =
      ThreadStage.due (handleFrame other device pending).1 := by
  obtain ⟨⟨type, flags, payload⟩, sequence⟩ := pending
  cases type with
  | hello =>
    cases hdecode : decodeMessage decodeHello payload with
    | none => simp only [handleFrame, hdecode]
    | some hello =>
      cases hadmit : device.admitIncarnation hello.epoch hello.boot with
      | mk reason next => cases reason <;> simp only [handleFrame, hdecode, hadmit]
  | applyRequest =>
    cases hdecode : decodeMessage decodeApplyRequest payload <;> simp only [handleFrame, hdecode]
  | revokeRequest =>
    cases hdecode : decodeMessage decodeRevokeRequest payload <;> simp only [handleFrame, hdecode]
  | verifyRequest =>
    cases hdecode : decodeMessage decodeVerifyRequest payload <;> simp only [handleFrame, hdecode]
  | _ => rfl

theorem visitDues_append (device : SyntheticDevice) (visits : List Visit) (visit : Visit) :
    visitDues device (visits ++ [visit]) =
      visitDues device visits + visitDue (visited device visits) visit := by
  induction visits generalizing device with
  | nil => exact (add_comm _ _)
  | cons first visits ih =>
    rw [List.cons_append, visitDues, visitDues, ih, ← add_assoc]
    rfl

end Dues

def Shown (session : WorkerSession) (charges : List Charge) : Prop :=
  session.accounting =
    tally ↑charges session.config.queueCapacity session.accounting.queueHighWater

def Bounded (pool : Pool) : Prop :=
  pool.queue.length ≤ pool.session.accounting.queueHighWater.toNat ∧
    pool.session.accounting.queueHighWater.toNat ≤ pool.session.config.queueCapacity.toNat

/-- What is due has been charged or is still to be charged by the thread that has the request in
hand, the accounting shows what has been charged, and the queue stays within its capacity. -/
structure Charged (start : SyntheticDevice) (o : Observed) : Prop where
  device : o.pool.device = visited start o.ledger.visits
  due : dues start o.ledger = total ThreadStage.due o.pool.threads +
    (↑o.ledger.charged + ReaderStage.due o.pool.reader)
  shown : Shown o.pool.session o.ledger.charged
  bounded : Bounded o.pool

section Charging

variable {pool : Pool} {ledger : Ledger} {delivered : Bool}

theorem apply_queue (accounting : WorkerSessionAccounting) (charge : Charge) :
    (charge.apply accounting).queueHighWater = accounting.queueHighWater := by
  cases charge with
  | fenced reason =>
    simp only [Charge.apply]
    split <;> rfl
  | _ => rfl

theorem Shown.charge {charges : List Charge} (h : Shown pool.session charges) (charge : Charge) :
    Shown (pool.countWith charge).session (charges ++ [charge]) := by
  have hqueue := apply_queue pool.session.accounting charge
  rw [Shown, Pool.countWith, ← Multiset.coe_add, Multiset.coe_singleton]
  simp only [hqueue]
  rw [tally_charge, ← h]

theorem Bounded.charge (h : Bounded pool) (charge : Charge) : Bounded (pool.countWith charge) := by
  rw [Bounded, Pool.countWith]
  simp only [apply_queue pool.session.accounting charge]
  exact h

theorem Shown.perform (h : Shown pool.session ledger.charged) (delivered : Bool)
    (request : Option PendingFrame) (chore : Chore) :
    Shown (pool.perform delivered chore).session (ledger.did request chore).charged := by
  cases chore with
  | send response =>
    simp only [Pool.perform, Pool.send]
    split <;> exact h
  | count charge => exact h.charge charge
  | _ => exact h

theorem Bounded.perform (h : Bounded pool) (delivered : Bool) (chore : Chore) :
    Bounded (pool.perform delivered chore) := by
  cases chore with
  | send response =>
    simp only [Pool.perform, Pool.send]
    split <;> exact h
  | count charge => exact h.charge charge
  | _ => exact h

theorem dueFor_cons (chore : Chore) (chores : List Chore) :
    dueFor (chore :: chores) = dueFor [chore] + dueFor chores := by
  unfold dueFor
  rw [← List.singleton_append, List.filterMap_append, Multiset.coe_add]

theorem charged_did (ledger : Ledger) (request : Option PendingFrame) (chore : Chore) :
    (↑(ledger.did request chore).charged : Multiset Charge) = ↑ledger.charged + dueFor [chore] := by
  cases chore with
  | count charge => exact (Multiset.coe_add _ _).symm
  | _ => exact (add_zero (↑ledger.charged : Multiset Charge)).symm

theorem dues_did (start : SyntheticDevice) (ledger : Ledger) (request : Option PendingFrame)
    (chore : Chore) : dues start (ledger.did request chore) = dues start ledger := by
  cases chore <;> rfl

theorem Bounded.enqueue {pending : PendingFrame} (h : Bounded pool) (hroom : pool.hasRoom = true) :
    Bounded (pool.enqueue pending) := by
  obtain ⟨hqueued, hbounded⟩ := h
  have hless : pool.queue.length < pool.session.config.queueCapacity.toNat := by
    simp only [Pool.hasRoom, Bool.and_eq_true, decide_eq_true_eq] at hroom
    exact hroom.2
  have hdepth : (UInt64.ofNat (pool.queue ++ [pending]).length).toNat = pool.queue.length + 1 := by
    have hword := pool.session.config.queueCapacity.toNat_lt
    rw [List.length_append, List.length_singleton, UInt64.toNat_ofNat_of_lt']
    exact Nat.lt_of_le_of_lt hless hword
  simp only [Bounded, Pool.enqueue]
  split
  · next hhigher =>
    rw [hdepth, List.length_append, List.length_singleton]
    exact ⟨Nat.le_refl _, hless⟩
  · next hlower =>
    have hle := Nat.le_of_not_lt (fun hlt ↦ hlower (UInt64.lt_iff_toNat_lt.mpr hlt))
    rw [hdepth] at hle
    rw [List.length_append, List.length_singleton]
    exact ⟨hle, hbounded⟩

end Charging

section Steps

variable {start : SyntheticDevice} {o : Observed} {next : Pool} {delivered : Bool} {index : ℕ}
variable {stage : ThreadStage}

theorem Charged.setThread {after : Observed} {new : ThreadStage} (h : Charged start o)
    (ht : o.pool.threads[index]? = some stage)
    (hthreads : after.pool.threads = o.pool.threads.set index new)
    (hreader : after.pool.reader = o.pool.reader)
    (hdevice : after.pool.device = visited start after.ledger.visits)
    (hmoved : dues start after.ledger + (ThreadStage.due stage + ↑o.ledger.charged) =
      dues start o.ledger + (ThreadStage.due new + ↑after.ledger.charged))
    (hshown : Shown after.pool.session after.ledger.charged) (hbounded : Bounded after.pool) :
    Charged start after := by
  refine ⟨hdevice, ?_, hshown, hbounded⟩
  rw [hthreads, hreader]
  refine total_balanced ht h.due ?_
  have hwhole := congrArg (· + ReaderStage.due o.pool.reader) hmoved
  convert hwhole using 1 <;> abel

theorem Charged.thread (h : Charged start o) (ht : o.pool.threads[index]? = some stage)
    (hs : o.pool.threadStep index delivered stage = some next) :
    Charged start ⟨next, o.ledger.noteThread o.pool stage⟩ := by
  cases stage with
  | waiting =>
    simp only [Pool.threadStep] at hs
    split at hs
    · split at hs
      · cases hs
        exact h.setThread ht rfl rfl h.device rfl h.shown h.bounded
      · cases hs
    · next pending queue hqueue =>
      cases hs
      refine h.setThread ht rfl rfl h.device rfl h.shown ⟨?_, h.bounded.2⟩
      have hqueued := h.bounded.1
      rw [hqueue, List.length_cons] at hqueued
      exact Nat.le_of_succ_le hqueued
  | checking pending =>
    simp only [Pool.threadStep] at hs
    split at hs <;> cases hs <;> exact h.setThread ht rfl rfl h.device rfl h.shown h.bounded
  | starting pending =>
    obtain ⟨hdevice, -⟩ := handleFrame_refines o.pool.session o.pool.device pending
    rw [handleFrame_device] at hdevice
    have hdue := due_handleFrame o.pool.device pending o.pool.session (newSession {})
    simp only [Pool.threadStep] at hs
    generalize handleFrame o.pool.session o.pool.device pending = result at hs hdevice hdue
    cases hs
    refine h.setThread ht rfl rfl ?_ ?_ h.shown h.bounded
    · rw [hdevice, Ledger.noteThread, visited_append, ← h.device]
      rfl
    · rw [hdue]
      simp only [dues, Ledger.noteThread, visitDues_append, ← h.device, visitDue,
        ThreadStage.due]
      abel
  | greeting pending =>
    cases hs
    exact h.setThread ht rfl rfl h.device rfl h.shown h.bounded
  | measuring pending message =>
    cases hs
    exact h.setThread ht rfl rfl h.device rfl h.shown h.bounded
  | finishing pending chores =>
    cases chores with
    | nil =>
      cases hs
      exact h.setThread ht rfl rfl h.device rfl h.shown h.bounded
    | cons chore chores =>
      have hshown := h.shown.perform delivered (some pending) chore
      have hbounded := h.bounded.perform delivered chore
      obtain ⟨session, requests, requested, connected, sent, hperform, -⟩ :=
        perform_cases o.pool delivered chore
      rw [hperform] at hshown hbounded
      simp only [Pool.threadStep, hperform] at hs
      cases hs
      refine h.setThread ht rfl rfl ?_ ?_ hshown hbounded
      · rw [Ledger.noteThread, (did_keeps o.ledger (some pending) chore).2.2.2.2.2.1]
        exact h.device
      · simp only [Ledger.noteThread, dues_did, charged_did, ThreadStage.due,
          dueFor_cons chore chores]
        abel
  | dropping pending =>
    cases hs
    refine h.setThread ht rfl rfl h.device ?_ (h.shown.charge .rejection)
      (h.bounded.charge .rejection)
    simp only [Ledger.noteThread, dues, List.length_append, List.length_singleton,
      Multiset.replicate_add, Multiset.replicate_one, ThreadStage.due, ← Multiset.coe_add,
      Multiset.coe_singleton]
    abel
  | returned => cases hs

theorem Charged.setReader {after : Observed} (h : Charged start o)
    (hthreads : after.pool.threads = o.pool.threads) (hdevice : after.pool.device = o.pool.device)
    (hvisits : after.ledger.visits = o.ledger.visits)
    (hmoved : dues start after.ledger + (↑o.ledger.charged + ReaderStage.due o.pool.reader) =
      dues start o.ledger + (↑after.ledger.charged + ReaderStage.due after.pool.reader))
    (hshown : Shown after.pool.session after.ledger.charged) (hbounded : Bounded after.pool) :
    Charged start after := by
  refine ⟨?_, ?_, hshown, hbounded⟩
  · rw [hdevice, hvisits]
    exact h.device
  · have hwhole : dues start after.ledger + (↑o.ledger.charged + ReaderStage.due o.pool.reader) =
        (total ThreadStage.due o.pool.threads + (↑after.ledger.charged +
          ReaderStage.due after.pool.reader)) +
        (↑o.ledger.charged + ReaderStage.due o.pool.reader) := by
      rw [hmoved, h.due]
      abel
    rw [hthreads]
    exact add_right_cancel hwhole

theorem Charged.chore {request : Option PendingFrame} {chore : Chore} {reader : ReaderStage}
    (h : Charged start o)
    (hdue : ReaderStage.due o.pool.reader = dueFor [chore] + ReaderStage.due reader) :
    Charged start ⟨{ o.pool.perform delivered chore with reader }, o.ledger.did request chore⟩ := by
  have hshown := h.shown.perform delivered request chore
  have hbounded := h.bounded.perform delivered chore
  obtain ⟨session, requests, requested, connected, sent, hperform, -⟩ :=
    perform_cases o.pool delivered chore
  rw [hperform] at hshown hbounded ⊢
  refine h.setReader rfl rfl (did_keeps o.ledger request chore).2.2.2.2.2.1 ?_ hshown hbounded
  rw [dues_did, charged_did, hdue, add_assoc]

theorem Charged.reader (h : Charged start o) (hs : o.pool.readerStep delivered = some next) :
    Charged start ⟨next, o.ledger.noteReader o.pool⟩ := by
  have hmove : ∀ {reader : ReaderStage}, ReaderStage.due reader = ReaderStage.due o.pool.reader →
      Charged start ⟨{ o.pool with reader }, o.ledger⟩ := fun hdue ↦
    h.setReader rfl rfl rfl (by rw [hdue]) h.shown h.bounded
  cases hreader : o.pool.reader with
  | admitting pending =>
    simp only [Pool.readerStep, hreader] at hs
    simp only [Ledger.noteReader, hreader]
    split at hs
    · next hroom =>
      cases hs
      rw [if_pos hroom]
      refine h.setReader rfl rfl rfl ?_ ?_ (h.bounded.enqueue hroom)
      · rw [hreader]
        rfl
      · have hshown := h.shown
        simp only [Shown, Pool.enqueue] at hshown ⊢
        split
        · rw [hshown]
          rfl
        · exact hshown
    · next hroom =>
      cases hs
      rw [if_neg hroom]
      refine h.setReader rfl rfl rfl ?_ h.shown h.bounded
      have hdue : dueFor [.count .queueRejection, .send Pool.queueFull] = {.queueRejection} := rfl
      rw [hreader]
      simp only [dues, List.length_append, List.length_singleton, Multiset.replicate_add,
        Multiset.replicate_one, ReaderStage.due, hdue]
      abel
  | refusing pending chores =>
    simp only [Pool.readerStep, hreader] at hs
    simp only [Ledger.noteReader, hreader]
    cases chores with
    | nil =>
      cases hs
      exact hmove (by rw [hreader]; rfl)
    | cons chore chores =>
      cases hs
      exact h.chore (by rw [hreader]; exact dueFor_cons chore chores)
  | shutting chores =>
    simp only [Pool.readerStep, hreader] at hs
    simp only [Ledger.noteReader, hreader]
    cases chores with
    | nil =>
      cases hs
      exact hmove (by rw [hreader]; rfl)
    | cons chore chores =>
      cases hs
      exact h.chore (by rw [hreader]; exact dueFor_cons chore chores)
  | received frame =>
    simp only [Pool.readerStep, hreader] at hs
    simp only [Ledger.noteReader, hreader]
    split at hs
    · next htype =>
      cases hs
      rw [if_pos htype]
      exact hmove (by rw [hreader]; rfl)
    · next htype =>
      cases hs
      rw [if_neg htype]
      refine h.setReader rfl rfl rfl ?_ h.shown h.bounded
      rw [hreader]
      rfl
  | joining =>
    simp only [Pool.readerStep, hreader] at hs
    simp only [Ledger.noteReader, hreader]
    split at hs
    · cases hs
      refine h.setReader rfl rfl rfl ?_ h.shown h.bounded
      rw [hreader]
      rfl
    · cases hs
  | polling =>
    simp only [Pool.readerStep, hreader] at hs
    simp only [Ledger.noteReader, hreader]
    cases hs
    refine hmove ?_
    rw [hreader]
    split <;> rfl
  | receiving => rw [Pool.readerStep, hreader] at hs; cases hs
  | returned => rw [Pool.readerStep, hreader] at hs; cases hs
  | measuring message =>
    simp only [Pool.readerStep, hreader] at hs
    simp only [Ledger.noteReader, hreader]
    cases hs
    refine hmove ?_
    rw [hreader]
    rfl
  | _ =>
    simp only [Pool.readerStep, hreader] at hs
    simp only [Ledger.noteReader, hreader]
    cases hs
    refine h.setReader rfl rfl rfl ?_ h.shown h.bounded
    rw [hreader]
    rfl

theorem Charged.receive {incoming : Except TransportError Frame} (h : Charged start o)
    (hs : o.pool.step (.receive incoming) = some next) :
    Charged start ⟨next, o.ledger.note o.pool (.receive incoming)⟩ := by
  simp only [Pool.step] at hs
  split at hs
  · next hreader =>
    split at hs
    · cases hs
    · cases hs
      cases incoming with
      | ok frame =>
        refine h.setReader rfl rfl rfl ?_ h.shown h.bounded
        rw [hreader]
        rfl
      | error failure =>
        simp only [Pool.receive, Ledger.note]
        cases hmalformed : malformedFrame failure with
        | true =>
          refine h.setReader rfl rfl rfl ?_ (h.shown.charge .malformed)
            (h.bounded.charge .malformed)
          rw [hreader]
          simp only [dues, List.countP_append, List.countP_singleton, hmalformed, if_true,
            Multiset.replicate_add, Multiset.replicate_one, ReaderStage.due, ← Multiset.coe_add,
            Multiset.coe_singleton]
          abel
        | false =>
          refine h.setReader rfl rfl rfl ?_ ?_ h.bounded
          · rw [hreader]
            simp [dues, hmalformed, ReaderStage.due]
          · simpa [hmalformed] using h.shown
  · cases hs

theorem charged_step {after : Observed} {event : Event} (h : Charged start o)
    (hs : o.step event = some after) : Charged start after := by
  obtain ⟨pool, hpool, rfl⟩ := Option.map_eq_some_iff.mp hs
  cases event with
  | reader delivered => exact h.reader hpool
  | receive incoming => exact h.receive hpool
  | thread index delivered =>
    obtain ⟨stage, hstage, hthread⟩ := Option.bind_eq_some_iff.mp hpool
    simp only [Ledger.note, hstage]
    exact h.thread hstage hthread
  | requestStop =>
    cases hpool
    exact ⟨h.device, h.due, h.shown, h.bounded⟩
  | elsewhere call =>
    cases hpool
    refine ⟨?_, ?_, h.shown, h.bounded⟩
    · simp only [Ledger.note, visited_append, ← h.device]
      rfl
    · simp only [Ledger.note, dues, visitDues_append, visitDue, add_zero]
      exact h.due

theorem charged_new (config : WorkerSessionConfig) (device : SyntheticDevice) :
    Charged device (newlyObserved config device) := by
  refine ⟨rfl, ?_, rfl, ⟨Nat.zero_le _, Nat.zero_le _⟩⟩
  rw [newlyObserved, newPool, total_replicate] <;> rfl

end Steps

section Runs

variable {config : WorkerSessionConfig} {device : SyntheticDevice} {o : Observed}

theorem total_returned {M : Type} [AddCommMonoid M] {f : ThreadStage → M} {threads : List ThreadStage}
    (h : ∀ stage ∈ threads, stage = .returned) (hf : f .returned = 0) : total f threads = 0 :=
  total_eq_zero fun stage hstage ↦ by rw [h stage hstage, hf]

theorem conserved_of_reaches
    (h : Reaches Observed.step anyStep (newlyObserved config device) o) : Conserved o :=
  h.invariant (conserved_new config device) fun _ _ _ hkept _ hs ↦ conserved_step hkept hs

theorem charged_of_reaches
    (h : Reaches Observed.step anyStep (newlyObserved config device) o) : Charged device o :=
  h.invariant (charged_new config device) fun _ _ _ hkept _ hs ↦ charged_step hkept hs

theorem closing_of_reaches
    (h : Reaches Observed.step anyStep (newlyObserved config device) o) : Closing o.pool := by
  refine h.invariant (I := fun o ↦ Closing o.pool) (closing_new config device)
    fun _ _ _ hkept _ hs ↦ ?_
  obtain ⟨pool, hpool, rfl⟩ := Option.map_eq_some_iff.mp hs
  exact closing_step hkept hpool

def narrowWorker : WorkerSessionConfig := { boot := ⟨9⟩, threads := 1, queueCapacity := 1 }

def rush : List Event :=
  [.reader true, .receive (.ok { type := .heartbeatRequest }), .reader true, .reader true,
    .reader true, .receive (.ok { type := .accountingRequest }), .reader true, .reader true,
    .reader true, .reader true, .reader true]

def leave : List Event :=
  [.thread 0 true, .thread 0 true, .thread 0 true, .thread 0 true, .thread 0 true, .thread 0 true,
    .thread 0 true, .reader true, .receive (.error { error := ascii "peer closed the connection" }),
    .reader true, .reader true, .thread 0 true, .reader true]

/-- At every instant each request received is refused, waits in the queue, is in the hands of one
thread, was dropped unstarted or is finished; the queue is first in, first out and within its
capacity. -/
theorem requests_conserved (h : Reaches Observed.step anyStep (newlyObserved config device) o) :
    Conserved o ∧ o.pool.queue.length ≤ o.pool.session.config.queueCapacity.toNat ∧
      o.pool.session.accounting.queueHighWater.toNat ≤
        o.pool.session.config.queueCapacity.toNat := by
  have hbounded := (charged_of_reaches h).bounded
  exact ⟨conserved_of_reaches h, hbounded.1.trans hbounded.2, hbounded.2⟩

def rushed : Observed :=
  drive Observed.step (newlyObserved narrowWorker narrowWorker.newDevice) rush

theorem requests_conserved_rush : rushed.ledger.received.length = 2 ∧
    rushed.ledger.refused.length = 1 ∧ Conserved rushed ∧
      rushed.pool.queue.length ≤ rushed.pool.session.config.queueCapacity.toNat ∧
      rushed.pool.session.accounting.queueHighWater.toNat ≤
        rushed.pool.session.config.queueCapacity.toNat :=
  ⟨rfl, rfl, requests_conserved (reaches_drive fun _ _ _ ↦ trivial)⟩

/-- When `run` returns, nothing is in hand: every request was answered once and finished, or was
dropped unstarted, or refused, or was left in the queue of a pool without threads, and the
accounting shows exactly what they come to. -/
theorem accounts_settled (h : Reaches Observed.step anyStep (newlyObserved config device) o)
    (hstopped : o.pool.stopped = true) :
    (↑o.ledger.received : Multiset PendingFrame) = ↑o.ledger.finished + ↑o.ledger.dropped +
        ↑o.pool.queue + ↑o.ledger.refused ∧
      (↑o.ledger.answered : Multiset PendingFrame) = ↑o.ledger.finished + ↑o.ledger.refused ∧
      o.pool.session.accounting = tally (dues device o.ledger)
        o.pool.session.config.queueCapacity o.pool.session.accounting.queueHighWater ∧
      (o.pool.threads ≠ [] → o.pool.queue = []) := by
  have hclosing := closing_of_reaches h
  have hconserved := conserved_of_reaches h
  have hcharged := charged_of_reaches h
  have hreader := hclosing.stopped.mp hstopped
  have hreturned := hclosing.joined hreader
  have htaken := hconserved.taken
  have hhandled := hconserved.handled
  have hanswered := hconserved.answered
  have hdue := hcharged.due
  rw [total_returned hreturned rfl, zero_add] at htaken hhandled hanswered hdue
  simp only [hreader, ReaderStage.unanswered, ReaderStage.due, add_zero] at hanswered hdue
  refine ⟨?_, ?_, ?_, ?_⟩
  · rw [hconserved.received, hconserved.queued, hreader, ← Multiset.coe_add, htaken, hhandled]
    simp only [ReaderStage.held]
    abel
  · rw [← hanswered, hhandled]
  · rw [hdue]
    exact hcharged.shown
  · intro hthreads
    obtain ⟨stage, hstage⟩ := List.exists_mem_of_ne_nil _ hthreads
    rw [hreturned stage hstage] at hstage
    exact (hclosing.idle hstage).2

def left : Observed :=
  drive Observed.step (newlyObserved narrowWorker narrowWorker.newDevice) (rush ++ leave)

theorem accounts_settled_leave : left.ledger.finished.length = 1 ∧
    left.pool.session.accounting.requestsServed = 1 ∧
      (↑left.ledger.received : Multiset PendingFrame) = ↑left.ledger.finished +
        ↑left.ledger.dropped + ↑left.pool.queue + ↑left.ledger.refused := by
  have hleft : Reaches Observed.step anyStep
      (newlyObserved narrowWorker narrowWorker.newDevice) left :=
    reaches_drive fun _ _ _ ↦ trivial
  have hstopped : left.pool.stopped = true := by decide +kernel
  refine ⟨by decide +kernel, by decide +kernel, ?_⟩
  exact (accounts_settled hleft hstopped).1

end Runs

end RateGovernor.Safety.RequestAccounts
