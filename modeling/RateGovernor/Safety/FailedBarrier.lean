import RateGovernor.Safety.JournalSessions

namespace RateGovernor.Safety.FailedBarrier

open Model.CheckedMath Model.Journal Model.JournalWriter Dynamics.Commits Dynamics.Framing
open Dynamics.Transactions CrashPrefix JournalSessions

variable {config : JournalConfig} {journal : JournalFile} {io : Io}
  {steps : List (JournalCall × Io)}

/-- Over any calls on a new journal in which no write of a record fails, whatever its barriers do:
the scanner takes the file and returns every transaction a commit of which returned ok exactly when
no commit record is written behind another of the same transaction, and the payloads, the types of
the records that are committed and the file are ones the scanner reads. -/
theorem kept_through_failed_barriers_iff (hcreate : JournalFile.create config io = some journal)
    (hwrites : ∀ step ∈ steps, ¬Fails step.2) :
    Kept (Session.run { journal } steps) ↔ Along Orderly { journal } steps ∧
      (Session.run { journal } steps).journal.file.length ≤ kJournalMaxScanBytes := by
  obtain ⟨scan, htracks⟩ := tracks_create hcreate
  exact kept_run_iff htracks hwrites

/-- A barrier fails; the transaction is rolled back and the next one committed. -/
def rolledBack : List (JournalCall × Io) :=
  [(.begin 1, []), (.append .flowPut [1], []), (.commit, [.done, .failed 0]), (.rollback, []),
    (.begin 2, []), (.append .flowPut [2], []), (.commit, [])]

def retried : List (JournalCall × Io) :=
  [(.begin 1, []), (.commit, [.done, .failed 0]), (.commit, [])]

theorem not_fails_done (rest : Io) : ¬Fails (.done :: rest) := by
  rintro ⟨n, hfails⟩
  cases hfails

theorem rolledBack_writes : ∀ step ∈ rolledBack, ¬Fails step.2 := by
  simp only [rolledBack, List.forall_mem_cons]
  exact ⟨not_fails_nil, not_fails_nil, not_fails_done _, not_fails_nil, not_fails_nil,
    not_fails_nil, not_fails_nil, fun _ hnone ↦ absurd hnone List.not_mem_nil⟩

/-- The commit record that is refused is in the file, but the rollback keeps a second one away from
it: the next commit record stands behind a begin record of its own. -/
theorem rolledBack_orderly : Along Orderly { journal := newJournal {} } rolledBack := by
  have hone : [(1 : UInt8)].length ≤ kScanPayloadBound := Nat.le_of_ble_eq_true rfl
  have hplain : Plain .flowPut := ⟨JournalRecordType.noConfusion, JournalRecordType.noConfusion⟩
  refine ⟨trivial, fun _ ↦ ⟨hone, ?_⟩, fun _ ↦ ⟨by decide +kernel, ?_⟩, trivial, trivial,
    fun _ ↦ ⟨hone, ?_⟩, fun _ ↦ ⟨by decide +kernel, fun _ record hrecord ↦ ?_⟩, trivial⟩
  · intro htype
    cases htype
  · intro hdurable
    cases hdurable
  · intro htype
    cases htype
  · have htype : record.type = .flowPut := by
      rw [List.mem_singleton.1 hrecord]
      rfl
    rw [htype]
    exact hplain

theorem kept_rolledBack : Kept (Session.run { journal := newJournal {} } rolledBack) := by
  refine (@kept_through_failed_barriers_iff {} (newJournal {}) [] _ rfl rolledBack_writes).2 ⟨?_, ?_⟩
  · exact rolledBack_orderly
  · decide +kernel

theorem retried_commit_corrupts : ¬∀ (config : JournalConfig) (io : Io) (journal : JournalFile)
    (steps : List (JournalCall × Io)), JournalFile.create config io = some journal →
      (∀ step ∈ steps, ¬Fails step.2) → Kept (Session.run { journal } steps) := by
  intro h
  have hwrites : ∀ step ∈ retried, ¬Fails step.2 := by
    simp only [retried, List.forall_mem_cons]
    exact ⟨not_fails_nil, not_fails_done _, not_fails_nil,
      fun _ hnone ↦ absurd hnone List.not_mem_nil⟩
  have hkept := (h {} [] (newJournal {}) retried rfl hwrites).ok
  revert hkept
  decide +kernel

end RateGovernor.Safety.FailedBarrier
