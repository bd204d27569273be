import RateGovernor.Dynamics.Joining

namespace RateGovernor.Safety.DrainedPool

open Model.CheckedMath Model.Identity Model.Reason Model.Entities Model.Calls Model.Synthetic
open Model.Wire Model.Worker Model.WorkerPool Foundation.GuardedRun Foundation.Slots
open Dynamics.Pooling Dynamics.Joining

def threadWork : ThreadStage → ℕ
  | .waiting => 1
  | .checking _ => 10
  | .starting _ => 9
  | .greeting _ | .measuring _ _ => 6
  | .finishing _ chores => chores.length + 2
  | .dropping _ => 2
  | .returned => 0

def readerWork : ReaderStage → ℕ
  | .received _ => 30
  | .admitting _ => 20
  | .measuring _ => 10
  | .refusing _ chores => chores.length + 5
  | .polling | .receiving => 4
  | .shutting chores => chores.length + 4
  | .ended => 3
  | .closing => 2
  | .joining => 1
  | .returned => 0

def work (pool : Pool) : ℕ :=
  total threadWork pool.threads + 10 * pool.queue.length + readerWork pool.reader

/-- No frame arrives any more: the session was asked to stop, or its reader has left the loop. -/
def Ending (pool : Pool) : Prop :=
  Leaving pool.reader ∨ (pool.session.stopping = true ∧ pool.connected = false)

/-- A step of the session's own threads. -/
def internal : Event → Bool
  | .reader _ | .thread _ _ | .receive _ => true
  | .requestStop | .elsewhere _ => false

section Perform

variable (pool : Pool) (delivered : Bool) (chore : Chore)

theorem perform_ending (h : pool.session.stopping = true ∧ pool.connected = false) :
    (pool.perform delivered chore).session.stopping = true ∧
      (pool.perform delivered chore).connected = false := by
  cases chore with
  | send response =>
    simp only [Pool.perform, Pool.send, h.2, Bool.false_and]
    exact ⟨rfl, rfl⟩
  | stop => exact ⟨rfl, h.2⟩
  | _ => exact h

end Perform

section Steps

variable {pool next : Pool} {delivered : Bool} {index : ℕ} {stage : ThreadStage}

theorem handles_work {session : WorkerSession} {device : SyntheticDevice} {pending : PendingFrame}
    (h : Handles session device pending stage) : threadWork stage ≤ 6 := by
  cases h with
  | settled chores htype h => cases h <;> simp [threadWork, answered]
  | admitted | measured => exact Nat.le_refl 6

theorem work_lt {new : ThreadStage} (ht : pool.threads[index]? = some stage)
    (hthreads : next.threads = pool.threads.set index new) (hreader : next.reader = pool.reader)
    (hless : threadWork new + 10 * next.queue.length <
      threadWork stage + 10 * pool.queue.length) : work next < work pool := by
  obtain ⟨others, hold, hset⟩ := total_apart threadWork ht
  simp only [work, hthreads, hreader, hold, hset]
  omega

theorem thread_work (ht : pool.threads[index]? = some stage)
    (hs : pool.threadStep index delivered stage = some next) : work next < work pool := by
  cases stage with
  | waiting =>
    simp only [Pool.threadStep] at hs
    split at hs
    · split at hs
      · cases hs
        refine work_lt ht rfl rfl ?_
        simp only [threadWork, Pool.setThread]
        omega
      · cases hs
    · next pending queue hqueue =>
      cases hs
      refine work_lt ht rfl rfl ?_
      simp only [threadWork, hqueue, List.length_cons]
      omega
  | checking pending =>
    simp only [Pool.threadStep] at hs
    split at hs <;> cases hs <;> refine work_lt ht rfl rfl ?_ <;>
      simp only [threadWork, Pool.setThread] <;> omega
  | starting pending =>
    obtain ⟨-, hhandles⟩ := handleFrame_refines pool.session pool.device pending
    have hbound := handles_work hhandles
    simp only [Pool.threadStep] at hs
    generalize handleFrame pool.session pool.device pending = result at hs hbound
    cases hs
    refine work_lt ht rfl rfl ?_
    change threadWork result.1 + 10 * pool.queue.length < 9 + 10 * pool.queue.length
    omega
  | greeting pending =>
    cases hs
    refine work_lt ht rfl rfl ?_
    simp only [threadWork, Pool.setThread, List.length_cons, List.length_nil]
    omega
  | measuring pending message =>
    cases hs
    refine work_lt ht rfl rfl ?_
    simp only [threadWork, Pool.setThread, List.length_cons, List.length_nil]
    omega
  | finishing pending chores =>
    cases chores with
    | nil =>
      cases hs
      refine work_lt ht rfl rfl ?_
      simp only [threadWork, Pool.setThread, List.length_nil]
      omega
    | cons chore chores =>
      obtain ⟨session, requests, requested, connected, sent, hperform, -⟩ :=
        perform_cases pool delivered chore
      simp only [Pool.threadStep, hperform] at hs
      cases hs
      refine work_lt ht rfl rfl ?_
      simp only [threadWork, Pool.setThread, List.length_cons]
      omega
  | dropping pending =>
    cases hs
    refine work_lt ht rfl rfl ?_
    simp only [threadWork, Pool.setThread, Pool.countWith]
    omega
  | returned => cases hs

theorem work_lt_of_reader (hthreads : next.threads = pool.threads)
    (hless : 10 * next.queue.length + readerWork next.reader <
      10 * pool.queue.length + readerWork pool.reader) : work next < work pool := by
  simp only [work, hthreads]
  omega

theorem reader_work (h : Ending pool) (hs : pool.readerStep delivered = some next) :
    work next < work pool := by
  have hchore : ∀ (chore : Chore) (reader : ReaderStage),
      readerWork reader < readerWork pool.reader →
      work { pool.perform delivered chore with reader } < work pool := by
    intro chore reader hless
    obtain ⟨session, requests, requested, connected, sent, hperform, -⟩ :=
      perform_cases pool delivered chore
    rw [hperform]
    exact work_lt_of_reader rfl (Nat.add_lt_add_left hless _)
  cases hreader : pool.reader with
  | polling =>
    have hstopping : pool.session.stopping = true := by
      rcases h with hleaving | ⟨hstopping, -⟩
      · rw [hreader] at hleaving
        cases hleaving
      · exact hstopping
    simp only [Pool.readerStep, hreader, hstopping, if_true] at hs
    cases hs
    refine work_lt_of_reader rfl ?_
    simp only [readerWork, hreader]
    omega
  | admitting pending =>
    simp only [Pool.readerStep, hreader] at hs
    split at hs <;> cases hs <;> refine work_lt_of_reader rfl ?_ <;>
      simp only [readerWork, hreader, Pool.enqueue, List.length_append, List.length_cons,
        List.length_nil] <;> omega
  | refusing pending chores =>
    simp only [Pool.readerStep, hreader] at hs
    cases chores with
    | nil =>
      cases hs
      refine work_lt_of_reader rfl ?_
      simp only [readerWork, hreader, List.length_nil]
      omega
    | cons chore chores =>
      cases hs
      refine hchore chore _ ?_
      simp only [readerWork, hreader, List.length_cons]
      omega
  | shutting chores =>
    simp only [Pool.readerStep, hreader] at hs
    cases chores with
    | nil =>
      cases hs
      refine work_lt_of_reader rfl ?_
      simp only [readerWork, hreader, List.length_nil]
      omega
    | cons chore chores =>
      cases hs
      refine hchore chore _ ?_
      simp only [readerWork, hreader, List.length_cons]
      omega
  | joining =>
    simp only [Pool.readerStep, hreader] at hs
    split at hs
    · cases hs
      refine work_lt_of_reader rfl ?_
      simp only [readerWork, hreader]
      omega
    · cases hs
  | receiving => rw [Pool.readerStep, hreader] at hs; cases hs
  | returned => rw [Pool.readerStep, hreader] at hs; cases hs
  | received frame =>
    simp only [Pool.readerStep, hreader] at hs
    split at hs <;> cases hs <;> refine work_lt_of_reader rfl ?_ <;>
      simp only [readerWork, hreader] <;> omega
  | measuring message =>
    simp only [Pool.readerStep, hreader] at hs
    cases hs
    refine work_lt_of_reader rfl ?_
    simp only [readerWork, hreader, List.length_cons, List.length_nil]
    omega
  | ended =>
    simp only [Pool.readerStep, hreader] at hs
    cases hs
    refine work_lt_of_reader rfl ?_
    simp only [readerWork, hreader, Pool.stop]
    omega
  | closing =>
    simp only [Pool.readerStep, hreader] at hs
    cases hs
    refine work_lt_of_reader rfl ?_
    simp only [readerWork, hreader]
    omega

theorem thread_ending (h : Ending pool) (hs : pool.threadStep index delivered stage = some next) :
    Ending next := by
  have hkept : ∀ next : Pool, next.reader = pool.reader →
      next.session.stopping = pool.session.stopping → next.connected = pool.connected →
      Ending next := by
    intro next hreader hstopping hconnected
    rw [Ending, hreader, hstopping, hconnected]
    exact h
  cases stage with
  | waiting =>
    simp only [Pool.threadStep] at hs
    split at hs
    · split at hs
      · cases hs
        exact hkept _ rfl rfl rfl
      · cases hs
    · cases hs
      exact hkept _ rfl rfl rfl
  | checking pending =>
    simp only [Pool.threadStep] at hs
    split at hs <;> cases hs <;> exact hkept _ rfl rfl rfl
  | finishing pending chores =>
    cases chores with
    | nil =>
      cases hs
      exact hkept _ rfl rfl rfl
    | cons chore chores =>
      cases hs
      rcases h with hleaving | hstopped
      · obtain ⟨session, requests, requested, connected, sent, hperform, -⟩ :=
          perform_cases pool delivered chore
        rw [hperform]
        exact .inl hleaving
      · exact .inr (perform_ending pool delivered chore hstopped)
  | returned => cases hs
  | _ =>
    cases hs
    exact hkept _ rfl rfl rfl

theorem reader_ending (h : Ending pool) (hs : pool.readerStep delivered = some next) :
    Ending next := by
  rcases h with hleaving | hstopped
  · cases hreader : pool.reader with
    | ended =>
      rw [Pool.readerStep, hreader] at hs
      cases hs
      exact .inl trivial
    | closing =>
      rw [Pool.readerStep, hreader] at hs
      cases hs
      exact .inl trivial
    | joining =>
      simp only [Pool.readerStep, hreader] at hs
      split at hs
      · cases hs
        exact .inl trivial
      · cases hs
    | returned => rw [Pool.readerStep, hreader] at hs; cases hs
    | _ =>
      rw [hreader] at hleaving
      cases hleaving
  · have hchore : ∀ (chore : Chore) (reader : ReaderStage),
        Ending { pool.perform delivered chore with reader } :=
      fun chore _ ↦ .inr (perform_ending pool delivered chore hstopped)
    cases hreader : pool.reader with
    | refusing pending chores =>
      simp only [Pool.readerStep, hreader] at hs
      cases chores with
      | nil => cases hs; exact .inr hstopped
      | cons chore chores => cases hs; exact hchore chore _
    | shutting chores =>
      simp only [Pool.readerStep, hreader] at hs
      cases chores with
      | nil => cases hs; exact .inr hstopped
      | cons chore chores => cases hs; exact hchore chore _
    | admitting pending =>
      simp only [Pool.readerStep, hreader] at hs
      split at hs <;> cases hs <;> exact .inr hstopped
    | received frame =>
      simp only [Pool.readerStep, hreader] at hs
      split at hs <;> cases hs <;> exact .inr hstopped
    | joining =>
      simp only [Pool.readerStep, hreader] at hs
      split at hs
      · cases hs
        exact .inl trivial
      · cases hs
    | ended =>
      rw [Pool.readerStep, hreader] at hs
      cases hs
      exact .inl trivial
    | receiving => rw [Pool.readerStep, hreader] at hs; cases hs
    | returned => rw [Pool.readerStep, hreader] at hs; cases hs
    | _ =>
      rw [Pool.readerStep, hreader] at hs
      cases hs
      exact .inr hstopped

theorem receive_ending {incoming : Except TransportError Frame} (h : Ending pool)
    (hs : pool.step (.receive incoming) = some next) : Ending next ∧ work next < work pool := by
  simp only [Pool.step] at hs
  split at hs
  · next hreader =>
    rcases h with hleaving | ⟨-, hclosed⟩
    · rw [hreader] at hleaving
      cases hleaving
    · cases incoming with
      | ok frame =>
        simp only [hclosed] at hs
        cases hs
      | error failure =>
        cases hs
        refine ⟨.inl trivial, work_lt_of_reader ?_ ?_⟩ <;> simp only [Pool.receive]
        · split <;> rfl
        · split <;> simp only [readerWork, hreader, Pool.countWith] <;> omega
  · cases hs

theorem ending_step {event : Event} (h : Ending pool) (hs : pool.step event = some next) :
    Ending next ∧ work next + (if internal event then 1 else 0) ≤ work pool := by
  cases event with
  | reader delivered => exact ⟨reader_ending h hs, reader_work h hs⟩
  | receive incoming => exact receive_ending h hs
  | thread index delivered =>
    obtain ⟨stage, hstage, hthread⟩ := Option.bind_eq_some_iff.mp hs
    exact ⟨thread_ending h hthread, thread_work hstage hthread⟩
  | requestStop =>
    cases hs
    exact ⟨.inr ⟨rfl, rfl⟩, Nat.le_refl _⟩
  | elsewhere call =>
    cases hs
    exact ⟨h, Nat.le_refl _⟩

theorem thread_enabled (pool : Pool) (index : ℕ) (delivered : Bool) {stage : ThreadStage}
    (hclosed : pool.queueClosed = true) (hstage : stage ≠ .returned) :
    ∃ next, pool.threadStep index delivered stage = some next := by
  cases stage with
  | waiting =>
    cases hqueue : pool.queue with
    | nil =>
      simp only [Pool.threadStep, hqueue, hclosed, if_true]
      exact ⟨_, rfl⟩
    | cons pending queue =>
      simp only [Pool.threadStep, hqueue]
      exact ⟨_, rfl⟩
  | checking pending =>
    simp only [Pool.threadStep]
    split <;> exact ⟨_, rfl⟩
  | finishing pending chores => cases chores <;> exact ⟨_, rfl⟩
  | returned => exact absurd rfl hstage
  | _ => exact ⟨_, rfl⟩

theorem reader_enabled (delivered : Bool) (hreceiving : pool.reader ≠ .receiving)
    (hjoining : pool.reader ≠ .joining)
    (hreturned : pool.reader ≠ .returned) : ∃ next, pool.readerStep delivered = some next := by
  cases hreader : pool.reader with
  | receiving => exact absurd hreader hreceiving
  | joining => exact absurd hreader hjoining
  | returned => exact absurd hreader hreturned
  | admitting pending =>
    simp only [Pool.readerStep, hreader]
    split <;> exact ⟨_, rfl⟩
  | received frame =>
    simp only [Pool.readerStep, hreader]
    split <;> exact ⟨_, rfl⟩
  | refusing pending chores =>
    cases chores <;> exact ⟨_, by rw [Pool.readerStep, hreader]⟩
  | shutting chores => cases chores <;> exact ⟨_, by rw [Pool.readerStep, hreader]⟩
  | _ => exact ⟨_, by rw [Pool.readerStep, hreader]⟩

/-- A pool that has not returned has a thread, or its reader, that can take a step. -/
theorem enabled_of_running (hclosing : Closing pool) (hrunning : pool.stopped ≠ true) :
    ∃ event, internal event = true ∧ (pool.step event).isSome = true := by
  by_cases hreceiving : pool.reader = .receiving
  · refine ⟨.receive (.error { error := [] }), rfl, ?_⟩
    simp only [Pool.step, hreceiving]
    rfl
  · by_cases hjoining : pool.reader = .joining
    · by_cases hall : pool.threads.all ThreadStage.isReturned
      · refine ⟨.reader true, rfl, ?_⟩
        simp only [Pool.step, Pool.readerStep, hjoining, hall, if_true]
        rfl
      · rw [Bool.not_eq_true, List.all_eq_false] at hall
        obtain ⟨stage, hmem, hstage⟩ := hall
        obtain ⟨index, hindex⟩ := List.mem_iff_getElem?.mp hmem
        have hclosed : pool.queueClosed = true := hclosing.closed.mpr (.inl hjoining)
        have hworking : stage ≠ .returned := by
          rintro rfl
          exact hstage rfl
        obtain ⟨next, hnext⟩ :=
          thread_enabled pool index true hclosed hworking
        refine ⟨.thread index true, rfl, ?_⟩
        simp only [Pool.step, hindex]
        exact Option.isSome_iff_exists.mpr ⟨next, hnext⟩
    · have hreturned : pool.reader ≠ .returned := fun hreader ↦
        hrunning (hclosing.stopped.mpr hreader)
      obtain ⟨next, hnext⟩ := reader_enabled true hreceiving hjoining hreturned
      exact ⟨.reader true, rfl, Option.isSome_iff_exists.mpr ⟨next, hnext⟩⟩

end Steps

section Stopping

variable {o next : Observed}

def begins : ThreadStage → Multiset PendingFrame
  | .starting pending => {pending}
  | _ => 0

/-- The requests whose handling has begun: they have reached the device or are about to. -/
def begun (o : Observed) : Multiset PendingFrame :=
  total begins o.pool.threads + ↑o.ledger.handled

def notHello (pending : PendingFrame) : Prop := pending.frame.type ≠ .hello

instance : DecidablePred notHello := fun _ ↦ inferInstanceAs (Decidable (_ ≠ _))

/-- Once the session is stopping, the same requests have begun, greetings apart. -/
structure Frozen (o next : Observed) : Prop where
  stopping : next.pool.session.stopping = true
  begun : (begun next).filter notHello = (begun o).filter notHello

theorem Frozen.refl (h : o.pool.session.stopping = true) : Frozen o o := ⟨h, rfl⟩

theorem Frozen.trans {last : Observed} (h : Frozen o next) (h' : Frozen next last) :
    Frozen o last := ⟨h'.stopping, h'.begun.trans h.begun⟩

theorem Frozen.of_same (hstopping : next.pool.session.stopping = true)
    (hthreads : next.pool.threads = o.pool.threads)
    (hhandled : next.ledger.handled = o.ledger.handled) :
    Frozen o next := ⟨hstopping, by rw [DrainedPool.begun, hthreads, hhandled, DrainedPool.begun]⟩

theorem Frozen.of_thread {index : ℕ} {old new : ThreadStage} {extra : Multiset PendingFrame}
    (hstopping : next.pool.session.stopping = true) (ht : o.pool.threads[index]? = some old)
    (hthreads : next.pool.threads = o.pool.threads.set index new)
    (hmoved : begins new + ↑next.ledger.handled = begins old + ↑o.ledger.handled + extra)
    (hextra : extra.filter notHello = 0) : Frozen o next := by
  obtain ⟨others, hold, hset⟩ := total_apart begins ht
  refine ⟨hstopping, ?_⟩
  have hgrown : DrainedPool.begun next = DrainedPool.begun o + extra := by
    rw [DrainedPool.begun, DrainedPool.begun, hthreads, hset, hold, add_right_comm, hmoved]
    abel
  rw [hgrown, Multiset.filter_add, hextra, add_zero]

theorem Frozen.of_idle {index : ℕ} {old new : ThreadStage}
    (hstopping : next.pool.session.stopping = true) (ht : o.pool.threads[index]? = some old)
    (hthreads : next.pool.threads = o.pool.threads.set index new)
    (hmoved : begins new + ↑next.ledger.handled = begins old + ↑o.ledger.handled) :
    Frozen o next :=
  .of_thread hstopping ht hthreads (hmoved.trans (add_zero _).symm) (Multiset.filter_zero _)

theorem begins_of_handles {session : WorkerSession} {device : SyntheticDevice}
    {pending : PendingFrame} {stage : ThreadStage} (h : Handles session device pending stage) :
    begins stage = 0 := by
  cases h <;> rfl

theorem perform_stopping (pool : Pool) (delivered : Bool) (chore : Chore)
    (h : pool.session.stopping = true) : (pool.perform delivered chore).session.stopping = true := by
  cases chore with
  | send response =>
    simp only [Pool.perform, Pool.send]
    split
    · exact h
    · rfl
  | stop => rfl
  | _ => exact h

theorem frozen_thread {pool : Pool} {index : ℕ} {delivered : Bool} {stage : ThreadStage}
    (hstopping : o.pool.session.stopping = true) (ht : o.pool.threads[index]? = some stage)
    (hs : o.pool.threadStep index delivered stage = some pool) :
    Frozen o ⟨pool, o.ledger.noteThread o.pool stage⟩ := by
  cases stage with
  | waiting =>
    simp only [Pool.threadStep] at hs
    split at hs
    · split at hs
      · cases hs
        exact .of_idle hstopping ht rfl rfl
      · cases hs
    · cases hs
      exact .of_idle hstopping ht rfl rfl
  | checking pending =>
    simp only [Pool.threadStep, hstopping, Bool.true_and] at hs
    split at hs
    · cases hs
      exact .of_idle hstopping ht rfl rfl
    · next hhello =>
      cases hs
      have hgreeting : begins (.starting pending) + ↑o.ledger.handled =
          begins (.checking pending) + ↑o.ledger.handled + {pending} := by
        simp only [begins]
        abel
      refine .of_thread hstopping ht rfl hgreeting ?_
      · rw [Multiset.filter_eq_nil]
        intro asked hasked hnot
        rw [Multiset.mem_singleton.mp hasked] at hnot
        exact hhello (decide_eq_true hnot)
  | starting pending =>
    obtain ⟨-, hhandles⟩ := handleFrame_refines o.pool.session o.pool.device pending
    have hnone := begins_of_handles hhandles
    simp only [Pool.threadStep] at hs
    generalize handleFrame o.pool.session o.pool.device pending = result at hs hnone
    cases hs
    have hvisit : (↑(o.ledger.noteThread o.pool (.starting pending)).handled :
        Multiset PendingFrame) = ↑o.ledger.handled + {pending} := handled_visit rfl
    refine .of_idle hstopping ht rfl ?_
    rw [hnone, hvisit]
    simp only [begins]
    abel
  | finishing pending chores =>
    cases chores with
    | nil =>
      cases hs
      exact .of_idle hstopping ht rfl rfl
    | cons chore chores =>
      have hkept := perform_stopping o.pool delivered chore hstopping
      obtain ⟨session, requests, requested, connected, sent, hperform, -⟩ :=
        perform_cases o.pool delivered chore
      rw [hperform] at hkept
      simp only [Pool.threadStep, hperform] at hs
      cases hs
      have hvisits := (did_keeps o.ledger (some pending) chore).2.2.2.2.2.1
      refine .of_idle hkept ht rfl ?_
      simp only [Ledger.noteThread, Ledger.handled, hvisits]
      rfl
  | returned => cases hs
  | _ =>
    cases hs
    exact .of_idle hstopping ht rfl rfl

theorem noteReader_handled (ledger : Ledger) (pool : Pool) :
    (ledger.noteReader pool).handled = ledger.handled := by
  unfold Ledger.noteReader
  split
  · split <;> rfl
  · split <;> rfl
  · next pending chore chores hreader =>
    rw [Ledger.handled, (did_keeps ledger (some pending) chore).2.2.2.2.2.1, Ledger.handled]
  · next chore chores hreader =>
    rw [Ledger.handled, (did_keeps ledger none chore).2.2.2.2.2.1, Ledger.handled]
  · rfl

theorem reader_keeps {pool next : Pool} {delivered : Bool}
    (hs : pool.readerStep delivered = some next) : next.threads = pool.threads ∧
      (pool.session.stopping = true → next.session.stopping = true) := by
  have hchore : ∀ (chore : Chore) (reader : ReaderStage),
      ({ pool.perform delivered chore with reader } : Pool).threads = pool.threads ∧
        (pool.session.stopping = true →
          ({ pool.perform delivered chore with reader } : Pool).session.stopping = true) := by
    intro chore reader
    refine ⟨?_, perform_stopping pool delivered chore⟩
    obtain ⟨session, requests, requested, connected, sent, hperform, -⟩ :=
      perform_cases pool delivered chore
    rw [hperform]
  cases hreader : pool.reader with
  | refusing pending chores =>
    simp only [Pool.readerStep, hreader] at hs
    cases chores with
    | nil => cases hs; exact ⟨rfl, id⟩
    | cons chore chores => cases hs; exact hchore chore _
  | shutting chores =>
    simp only [Pool.readerStep, hreader] at hs
    cases chores with
    | nil => cases hs; exact ⟨rfl, id⟩
    | cons chore chores => cases hs; exact hchore chore _
  | admitting pending =>
    simp only [Pool.readerStep, hreader] at hs
    split at hs <;> cases hs <;> exact ⟨rfl, id⟩
  | received frame =>
    simp only [Pool.readerStep, hreader] at hs
    split at hs <;> cases hs <;> exact ⟨rfl, id⟩
  | joining =>
    simp only [Pool.readerStep, hreader] at hs
    split at hs
    · cases hs
      exact ⟨rfl, id⟩
    · cases hs
  | ended =>
    rw [Pool.readerStep, hreader] at hs
    cases hs
    exact ⟨rfl, fun _ ↦ rfl⟩
  | receiving => rw [Pool.readerStep, hreader] at hs; cases hs
  | returned => rw [Pool.readerStep, hreader] at hs; cases hs
  | _ =>
    rw [Pool.readerStep, hreader] at hs
    cases hs
    exact ⟨rfl, id⟩

theorem frozen_step {event : Event} (hstopping : o.pool.session.stopping = true)
    (hs : o.step event = some next) : Frozen o next := by
  obtain ⟨pool, hpool, rfl⟩ := Option.map_eq_some_iff.mp hs
  cases event with
  | reader delivered =>
    obtain ⟨hthreads, hkept⟩ := reader_keeps hpool
    exact .of_same (hkept hstopping) hthreads (noteReader_handled o.ledger o.pool)
  | thread index delivered =>
    obtain ⟨stage, hstage, hthread⟩ := Option.bind_eq_some_iff.mp hpool
    simp only [Ledger.note, hstage]
    exact frozen_thread hstopping hstage hthread
  | requestStop =>
    cases hpool
    exact .of_same rfl rfl rfl
  | elsewhere call =>
    cases hpool
    refine .of_same hstopping rfl ?_
    simp only [Ledger.handled, Ledger.note, List.filterMap_append]
    exact List.append_nil _
  | receive incoming =>
    simp only [Pool.step] at hpool
    split at hpool
    · split at hpool
      · cases hpool
      · cases hpool
        cases incoming with
        | ok frame => exact .of_same hstopping rfl rfl
        | error failure =>
          refine .of_same ?_ ?_ rfl <;> simp only [Pool.receive] <;> split
          · exact hstopping
          · exact hstopping
          · rfl
          · rfl
    · cases hpool

end Stopping

section Runs

variable {config : WorkerSessionConfig} {device : SyntheticDevice} {o later : Observed}

theorem card_begins_le (threads : List ThreadStage) :
    (total begins threads).card ≤ threads.length := by
  induction threads with
  | nil => exact Nat.le_refl 0
  | cons stage threads ih =>
    have hone : (begins stage).card ≤ 1 := by
      cases stage <;> simp [begins]
    rw [total_cons, Multiset.card_add, List.length_cons]
    omega

/-- Once a session is stopping it stays so, and of the requests other than greetings only those
whose handling had begun ever reach the device: at most one for each thread is still to come. -/
theorem stop_is_final (hstop : o.pool.session.stopping = true)
    (h : Reaches Observed.step anyStep o later) :
    later.pool.session.stopping = true ∧
      (begun later).filter notHello = (begun o).filter notHello ∧
      (Multiset.filter notHello ↑later.ledger.handled).card ≤
        (Multiset.filter notHello ↑o.ledger.handled).card + o.pool.threads.length := by
  have hfrozen : Frozen o later := by
    induction h with
    | refl => exact .refl hstop
    | tail _ _ hs ih => exact ih.trans (frozen_step ih.stopping hs)
  refine ⟨hfrozen.stopping, hfrozen.begun, ?_⟩
  have hreached : Multiset.filter notHello ↑later.ledger.handled ≤ (begun o).filter notHello := by
    rw [← hfrozen.begun]
    exact Multiset.filter_le_filter _ (Multiset.le_add_left _ _)
  have hcard := Multiset.card_le_card hreached
  have hbegins := Multiset.card_le_card (Multiset.filter_le notHello (total begins o.pool.threads))
  have hthreads := card_begins_le o.pool.threads
  rw [begun, Multiset.filter_add, Multiset.card_add] at hcard
  omega

def singleWorker : WorkerSessionConfig := { boot := ⟨9⟩, threads := 1 }

/-- The thread has taken a heartbeat and passed the check when the session is asked to stop, and
another one waits in the queue. -/
def interrupted : List Event :=
  [.reader true, .receive (.ok { type := .heartbeatRequest }), .reader true, .reader true,
    .thread 0 true, .thread 0 true, .reader true,
    .receive (.ok { type := .heartbeatRequest }), .reader true, .reader true, .requestStop]

/-- The thread finishes the one request and drops the other. -/
def finishing : List Event := List.replicate 8 (.thread 0 true)

def atStop : Observed :=
  drive Observed.step (newlyObserved singleWorker singleWorker.newDevice) interrupted

theorem stop_is_final_interrupted :
    (drive Observed.step atStop finishing).ledger.dropped.length = 1 ∧
      (drive Observed.step atStop finishing).pool.session.stopping = true ∧
      (Multiset.filter notHello
          ↑(drive Observed.step atStop finishing).ledger.handled).card ≤
        (Multiset.filter notHello ↑atStop.ledger.handled).card + atStop.pool.threads.length := by
  have hstop : atStop.pool.session.stopping = true := by decide +kernel
  have hlater : Reaches Observed.step anyStep atStop (drive Observed.step atStop finishing) :=
    reaches_drive fun _ _ _ ↦ trivial
  refine ⟨by decide +kernel, ?_, ?_⟩
  · exact (stop_is_final hstop hlater).1
  · exact (stop_is_final hstop hlater).2.2

/-- A session that receives no more frames comes to its end: its own threads take no more steps than
there is work, whatever else happens, and until it has returned one of them can take a step. -/
theorem pool_drains {pool after : Pool} {events : List Event}
    (h : Reaches Pool.step anyStep (newPool config device) pool) (hending : Ending pool)
    (hrun : run Pool.step pool events = some after) :
    events.countP internal + work after ≤ work pool ∧
      (after.stopped ≠ true → ∃ event, internal event = true ∧ (after.step event).isSome = true) := by
  have hclosing : Closing pool :=
    h.invariant (closing_new config device) fun _ _ _ hkept _ hs ↦ closing_step hkept hs
  have hafter : Closing after :=
    invariant_of_run (fun _ _ _ hkept hs ↦ closing_step hkept hs) hclosing hrun
  refine ⟨?_, fun hrunning ↦ enabled_of_running hafter hrunning⟩
  exact countP_add_le (fun _ _ _ hkept hs ↦ (ending_step hkept hs).1)
    (fun _ _ _ hkept hs ↦ (ending_step hkept hs).2) hending hrun

def halted : Pool := drive Pool.step (newPool singleWorker singleWorker.newDevice) interrupted

theorem pool_drains_halted : ∃ after, run Pool.step halted finishing = some after ∧
    finishing.countP internal + work after ≤ work halted := by
  have hreaches : Reaches Pool.step anyStep (newPool singleWorker singleWorker.newDevice) halted :=
    reaches_drive fun _ _ _ ↦ trivial
  have hending : Ending halted := .inr (by decide +kernel)
  have hruns : (run Pool.step halted finishing).isSome = true := by decide +kernel
  obtain ⟨after, hafter⟩ := Option.isSome_iff_exists.mp hruns
  exact ⟨after, hafter, (pool_drains hreaches hending hafter).1⟩

end Runs

end RateGovernor.Safety.DrainedPool
