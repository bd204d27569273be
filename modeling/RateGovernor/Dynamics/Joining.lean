import RateGovernor.Dynamics.Pooling

namespace RateGovernor.Dynamics.Joining

open Model.CheckedMath Model.Identity Model.Reason Model.Entities Model.Calls Model.Synthetic
open Model.Wire Model.Worker Model.WorkerPool Foundation.GuardedRun Foundation.Slots
open Dynamics.Pooling

def Leaving : ReaderStage → Prop
  | .ended | .closing | .joining | .returned => True
  | _ => False

/-- What the end of a session has done, and in which order: the queue is closed before the pool is
joined, a thread returns only once the closed queue is empty, and all have returned at the end. -/
structure Closing (pool : Pool) : Prop where
  closed : pool.queueClosed = true ↔ pool.reader = .joining ∨ pool.reader = .returned
  idle : .returned ∈ pool.threads → pool.queueClosed = true ∧ pool.queue = []
  joined : pool.reader = .returned → ∀ stage ∈ pool.threads, stage = .returned
  stopped : pool.stopped = true ↔ pool.reader = .returned

def early : ReaderStage → Bool
  | .joining | .returned => false
  | _ => true

def looping : ThreadStage → Bool
  | .returned => false
  | _ => true

section Steps

variable {pool next : Pool} {delivered : Bool} {index : ℕ} {stage : ThreadStage}

theorem Closing.setThread {new : ThreadStage} (h : Closing pool)
    (ht : pool.threads[index]? = some stage)
    (hthreads : next.threads = pool.threads.set index new) (hreader : next.reader = pool.reader)
    (hclosed : next.queueClosed = pool.queueClosed) (hstopped : next.stopped = pool.stopped)
    (hold : looping stage = true) (hnew : looping new = true)
    (hqueue : pool.queue = [] → next.queue = []) : Closing next := by
  refine ⟨?_, ?_, ?_, ?_⟩
  · rw [hclosed, hreader]
    exact h.closed
  · rw [hthreads, hclosed]
    intro hmem
    rcases List.mem_or_eq_of_mem_set hmem with hmem | heq
    · exact ⟨(h.idle hmem).1, hqueue (h.idle hmem).2⟩
    · rw [← heq] at hnew
      cases hnew
  · rw [hreader]
    intro hreturned
    rw [h.joined hreturned stage (List.mem_of_getElem? ht)] at hold
    cases hold
  · rw [hstopped, hreader]
    exact h.stopped

theorem Closing.thread (h : Closing pool) (ht : pool.threads[index]? = some stage)
    (hs : pool.threadStep index delivered stage = some next) : Closing next := by
  cases stage with
  | waiting =>
    simp only [Pool.threadStep] at hs
    split at hs
    · next hqueue =>
      split at hs
      · next hclosed =>
        cases hs
        refine ⟨h.closed, fun _ ↦ ⟨hclosed, hqueue⟩, ?_, h.stopped⟩
        intro hreturned
        have hold := h.joined hreturned _ (List.mem_of_getElem? ht)
        cases hold
      · cases hs
    · next hqueue =>
      cases hs
      refine h.setThread ht rfl rfl rfl rfl rfl rfl ?_
      intro hnil
      rw [hqueue] at hnil
      cases hnil
  | checking pending =>
    simp only [Pool.threadStep] at hs
    split at hs <;> cases hs <;> exact h.setThread ht rfl rfl rfl rfl rfl rfl id
  | starting pending =>
    obtain ⟨-, hhandles⟩ := handleFrame_refines pool.session pool.device pending
    simp only [Pool.threadStep] at hs
    generalize handleFrame pool.session pool.device pending = result at hs hhandles
    cases hs
    refine h.setThread ht rfl rfl rfl rfl rfl ?_ id
    cases hstage : result.1 with
    | returned =>
      rw [hstage] at hhandles
      cases hhandles
    | _ => rfl
  | greeting pending =>
    cases hs
    exact h.setThread ht rfl rfl rfl rfl rfl rfl id
  | measuring pending message =>
    cases hs
    exact h.setThread ht rfl rfl rfl rfl rfl rfl id
  | finishing pending chores =>
    cases chores with
    | nil =>
      cases hs
      exact h.setThread ht rfl rfl rfl rfl rfl rfl id
    | cons chore chores =>
      obtain ⟨session, requests, requested, connected, sent, hperform, -⟩ :=
        perform_cases pool delivered chore
      simp only [Pool.threadStep, hperform] at hs
      cases hs
      exact h.setThread ht rfl rfl rfl rfl rfl rfl id
  | dropping pending =>
    cases hs
    exact h.setThread ht rfl rfl rfl rfl rfl rfl id
  | returned => cases hs

theorem Closing.move {old new : ReaderStage} (h : Closing pool) (hold : pool.reader = old)
    (hreader : next.reader = new) (hthreads : next.threads = pool.threads)
    (hclosed : next.queueClosed = pool.queueClosed) (hstopped : next.stopped = pool.stopped)
    (hearly : early old = true) (hearly' : early new = true) : Closing next := by
  have hopen : pool.queueClosed ≠ true := by
    intro hclosed
    rcases h.closed.mp hclosed with hlate | hlate <;> rw [← hold, hlate] at hearly <;> cases hearly
  have hrunning : pool.stopped ≠ true := by
    intro hstopped
    rw [← hold, h.stopped.mp hstopped] at hearly
    cases hearly
  refine ⟨?_, ?_, ?_, ?_⟩
  · rw [hclosed, hreader]
    refine ⟨fun hclosed ↦ absurd hclosed hopen, ?_⟩
    rintro (rfl | rfl) <;> cases hearly'
  · rw [hthreads]
    exact fun hmem ↦ absurd (h.idle hmem).1 hopen
  · rw [hreader]
    rintro rfl
    cases hearly'
  · rw [hstopped, hreader]
    refine ⟨fun hstopped ↦ absurd hstopped hrunning, ?_⟩
    rintro rfl
    cases hearly'

theorem Closing.reader (h : Closing pool) (hs : pool.readerStep delivered = some next) :
    Closing next := by
  cases hreader : pool.reader with
  | admitting pending =>
    simp only [Pool.readerStep, hreader] at hs
    split at hs <;> cases hs <;>
      exact h.move hreader rfl rfl rfl rfl rfl rfl
  | refusing pending chores =>
    simp only [Pool.readerStep, hreader] at hs
    cases chores with
    | nil =>
      cases hs
      exact h.move hreader rfl rfl rfl rfl rfl rfl
    | cons chore chores =>
      obtain ⟨session, requests, requested, connected, sent, hperform, -⟩ :=
        perform_cases pool delivered chore
      simp only [hperform] at hs
      cases hs
      exact h.move hreader rfl rfl rfl rfl rfl rfl
  | shutting chores =>
    simp only [Pool.readerStep, hreader] at hs
    cases chores with
    | nil =>
      cases hs
      exact h.move hreader rfl rfl rfl rfl rfl rfl
    | cons chore chores =>
      obtain ⟨session, requests, requested, connected, sent, hperform, -⟩ :=
        perform_cases pool delivered chore
      simp only [hperform] at hs
      cases hs
      exact h.move hreader rfl rfl rfl rfl rfl rfl
  | received frame =>
    simp only [Pool.readerStep, hreader] at hs
    split at hs <;> cases hs <;>
      exact h.move hreader rfl rfl rfl rfl rfl rfl
  | polling =>
    simp only [Pool.readerStep, hreader] at hs
    cases hs
    cases hstopping : pool.session.stopping <;>
      exact h.move hreader rfl rfl rfl rfl rfl rfl
  | measuring message =>
    simp only [Pool.readerStep, hreader] at hs
    cases hs
    exact h.move hreader rfl rfl rfl rfl rfl rfl
  | ended =>
    simp only [Pool.readerStep, hreader] at hs
    cases hs
    exact h.move hreader rfl rfl rfl rfl rfl rfl
  | closing =>
    simp only [Pool.readerStep, hreader] at hs
    cases hs
    have hopen : .returned ∉ pool.threads := by
      intro hmem
      have hlate := h.closed.mp (h.idle hmem).1
      rw [hreader] at hlate
      rcases hlate with hlate | hlate <;> cases hlate
    have hrunning : pool.stopped ≠ true := by
      intro hstopped
      have hlate := h.stopped.mp hstopped
      rw [hreader] at hlate
      cases hlate
    refine ⟨⟨fun _ ↦ .inl rfl, fun _ ↦ rfl⟩, fun hmem ↦ absurd hmem hopen, ?_,
      fun hstopped ↦ absurd hstopped hrunning, ?_⟩
    · rintro ⟨⟩
    · rintro ⟨⟩
  | joining =>
    simp only [Pool.readerStep, hreader] at hs
    split at hs
    · next hall =>
      cases hs
      refine ⟨⟨fun _ ↦ .inr rfl, fun _ ↦ h.closed.mpr (.inl hreader)⟩, h.idle, fun _ stage hstage ↦ ?_,
        fun _ ↦ rfl, fun _ ↦ rfl⟩
      have hmatch := List.all_eq_true.mp hall stage hstage
      cases stage <;> first | rfl | cases hmatch
    · cases hs
  | receiving => rw [Pool.readerStep, hreader] at hs; cases hs
  | returned => rw [Pool.readerStep, hreader] at hs; cases hs

theorem closing_step {event : Event} (h : Closing pool) (hs : pool.step event = some next) :
    Closing next := by
  cases event with
  | reader delivered => exact h.reader hs
  | thread index delivered =>
    obtain ⟨stage, hstage, hthread⟩ := Option.bind_eq_some_iff.mp hs
    exact h.thread hstage hthread
  | requestStop =>
    cases hs
    exact ⟨h.closed, h.idle, h.joined, h.stopped⟩
  | elsewhere call =>
    cases hs
    exact ⟨h.closed, h.idle, h.joined, h.stopped⟩
  | receive incoming =>
    simp only [Pool.step] at hs
    split at hs
    · next hreader =>
      split at hs
      · cases hs
      · cases hs
        cases incoming with
        | ok frame => exact h.move hreader rfl rfl rfl rfl rfl rfl
        | error failure =>
          simp only [Pool.receive]
          split <;> exact h.move hreader rfl rfl rfl rfl rfl rfl
    · cases hs

theorem closing_new (config : WorkerSessionConfig) (device : SyntheticDevice) :
    Closing (newPool config device) := by
  refine ⟨⟨nofun, nofun⟩, ?_, nofun, nofun, nofun⟩
  intro hmem
  cases List.eq_of_mem_replicate hmem

end Steps

end RateGovernor.Dynamics.Joining
