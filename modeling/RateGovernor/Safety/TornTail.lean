import RateGovernor.Dynamics.Reopening
import RateGovernor.Dynamics.Start

namespace RateGovernor.Safety.TornTail

open Model.CheckedMath Model.EngineState Model.Journal Model.JournalWriter Model.Durability
open Model.Execution Model.Recovery Foundation.ByteCodec Foundation.GuardedRun
open Dynamics.Install Dynamics.Evolution Dynamics.Framing Dynamics.Commits Dynamics.Journaling
open Dynamics.Reopening Dynamics.Start

variable {s t : System} {action : Action} {base : List JournalRecord}
  {log : List (JournalRecordType × Bytes)}

def written (s : System) (action : Action) : List (JournalRecordType × Bytes) :=
  match sectionOf s action.event with
  | none => []
  | some decision => contents s.engine decision

/-- The records committed along a run, in order. -/
def committedAlong : System → List Action → List (JournalRecordType × Bytes)
  | _, [] => []
  | s, action :: actions => written s action ++ match step s action with
    | none => []
    | some t => committedAlong t actions

/-- The section of the action commits, and leaves the file too small to be compacted. -/
def Appends (s : System) (action : Action) : Prop :=
  Uncompacted s action ∧ ∀ decision, sectionOf s action.event = some decision →
    decision.records ≠ [] → (decision.commit s.engine action.io).status = none

theorem logging_step (hstrict : s.engine.config.durability = .strict)
    (h : Logging s.engine.durability base log) (hok : Appends s action)
    (hstep : step s action = some t) :
    Logging t.engine.durability base (log ++ written s action) := by
  cases writes_step hstrict h hok.1 hstep with
  | appended decision hsection htables hlogging =>
    rw [written, hsection]
    exact hlogging
  | broken decision hsection k hrecords error hstatus =>
    rw [hok.2 decision hsection hrecords] at hstatus
    cases hstatus

theorem logging_run {actions : List Action} (hstrict : s.engine.config.durability = .strict)
    (h : Logging s.engine.durability base log) (hok : Guarded step Appends s actions)
    (hrun : run step s actions = some t) :
    Logging t.engine.durability base (log ++ committedAlong s actions) := by
  induction actions generalizing s log with
  | nil =>
    cases hrun
    rw [committedAlong, List.append_nil]
    exact h
  | cons action actions ih =>
    obtain ⟨happends, hrest⟩ := hok
    cases hstep : step s action with
    | none =>
      simp only [run, hstep] at hrun
      cases hrun
    | some u =>
      simp only [run, hstep] at hrun hrest
      have hlogging := ih ((config_step hstep).symm ▸ hstrict)
        (logging_step hstrict h happends hstep) hrest hrun
      rw [List.append_assoc] at hlogging
      simp only [committedAlong, hstep]
      exact hlogging

/-- What a scan reports of a file a working journal has written. -/
theorem scan_of_logging (h : Logging s.engine.durability base log)
    (hsize : (fileOf s.engine.durability).length ≤ kJournalMaxScanBytes) :
    (scanJournalFile (fileOf s.engine.durability)).ok = true ∧
      Follows base log (scanJournalFile (fileOf s.engine.durability)).committed := by
  obtain ⟨journal, scan, hjournal, hsound, -, hfollows⟩ := h.sound
  have hfile : fileOf s.engine.durability = journal.file := by rw [fileOf, hjournal]; rfl
  rw [hfile] at hsize ⊢
  obtain ⟨-, -, hcommitted, hok⟩ := finish_tail scan
  rw [scanJournalFile_of_clean hsound.clean hsize, hcommitted]
  exact ⟨hok.2 (.inl hsound.status), hfollows⟩

/-- When the crash has cut the file between two records, whatever is committed after the recovery
is found behind what was found by it. -/
theorem committed_after_recovery {config : EngineConfig} {file : Bytes} {demotedNs advancedNs : U64}
    {io : Io} {engine : Engine} {actions : List Action}
    (hcut : (scanJournalFile file).discardedTruncatedBytes = 0)
    (hbound : config.journal.maxPayloadBytes.toNat ≤ kScanPayloadBound)
    (hroom : RoomToRecover config file demotedNs advancedNs io)
    (hrecover : recoverEngine config file demotedNs advancedNs io = .ok engine)
    (hhealthy : engine.durability.degraded = false)
    (hok : Guarded step Appends { engine } actions)
    (hrun : run step { engine } actions = some t)
    (hsize : (fileOf t.engine.durability).length ≤ kJournalMaxScanBytes) :
    (scanJournalFile (fileOf t.engine.durability)).ok = true ∧
      Follows (scanJournalFile file).committed
        (recoveryRecords config file demotedNs advancedNs io ++ committedAlong { engine } actions)
        (scanJournalFile (fileOf t.engine.durability)).committed := by
  have hrecovered := recovered_spec hrecover hhealthy hcut hbound hroom
  have hstrict : engine.config.durability = .strict := by
    rw [hrecovered.config]
    rfl
  exact scan_of_logging (logging_run hstrict hrecovered.logging hok hrun) hsize

section Samples

theorem roomy_iff {durability : Durability} {size : ℕ} : Roomy durability size ↔
    (durability.journal.all fun journal ↦ decide (journal.config.maxBytes = 0 ∨
      journal.sizeBytes.toNat + size ≤ journal.config.maxBytes.toNat)) = true := by
  unfold Roomy
  cases durability.journal with
  | none => exact ⟨fun _ ↦ rfl, fun _ _ h ↦ nomatch h⟩
  | some journal =>
    rw [Option.all_some, decide_eq_true_iff]
    refine ⟨fun h ↦ h journal rfl, ?_⟩
    rintro h _ hjournal
    cases hjournal
    exact h

instance {durability : Durability} {size : ℕ} : Decidable (Roomy durability size) :=
  decidable_of_iff _ roomy_iff.symm

theorem appends_iff : Appends s action ↔
    ((sectionOf s action.event).all fun decision ↦
      decide (Roomy s.engine.durability (sectionSize s.engine decision)) &&
      (decision.records.isEmpty ||
        decide ((decision.commit s.engine action.io).status = none))) = true := by
  unfold Appends Uncompacted
  cases sectionOf s action.event with
  | none => exact ⟨fun _ ↦ rfl, fun _ ↦ ⟨fun _ h ↦ (nomatch h), fun _ h ↦ (nomatch h)⟩⟩
  | some decision =>
    rw [Option.all_some, Bool.and_eq_true, Bool.or_eq_true, decide_eq_true_iff,
      decide_eq_true_iff, List.isEmpty_iff]
    constructor
    · intro h
      exact ⟨h.1 decision rfl, Classical.or_iff_not_imp_left.2 (h.2 decision rfl)⟩
    · rintro ⟨hroom, hdone⟩
      refine ⟨?_, ?_⟩
      · rintro _ hsection
        cases hsection
        exact hroom
      · rintro _ hsection
        cases hsection
        exact Classical.or_iff_not_imp_left.1 hdone

instance : Decidable (Appends s action) := decidable_of_iff _ appends_iff.symm

def firstStart : System := { engine := (construct {} none {} (JournalFile.create {} []) []).1 }

def firstJournal : Bytes := fileOf firstStart.engine.durability

def afterCrash (file : Bytes) (P : Engine → Bool) : Bool :=
  match recoverEngine {} file 0 0 [] with
  | .error _ => false
  | .ok engine => !engine.durability.degraded && P engine

theorem of_afterCrash (file : Bytes) {P : Engine → Bool} (h : afterCrash file P = true) :
    ∃ engine, recoverEngine {} file 0 0 [] = .ok engine ∧
      engine.durability.degraded = false ∧ P engine = true := by
  unfold afterCrash at h
  split at h
  · cases h
  · next engine hrecover =>
    simp only [Bool.and_eq_true, Bool.not_eq_true'] at h
    exact ⟨engine, hrecover, h⟩

def sampleActions : List Action := [⟨.putGrant sampleGrant, []⟩, ⟨.putResource sampleResource, []⟩]

/-- The crash loses nothing of the journal, and what is put in after the recovery is found behind
what was committed before. -/
theorem committed_after_clean_cut : ∃ engine t,
    recoverEngine {} firstJournal 0 0 [] = .ok engine ∧
    run step { engine } sampleActions = some t ∧
    (scanJournalFile (fileOf t.engine.durability)).ok = true ∧
      Follows (scanJournalFile firstJournal).committed
        (recoveryRecords {} firstJournal 0 0 [] ++ committedAlong { engine } sampleActions)
        (scanJournalFile (fileOf t.engine.durability)).committed := by
  obtain ⟨engine, hrecover, hhealthy, hruns⟩ := of_afterCrash firstJournal
    (P := fun engine ↦ match run step { engine } sampleActions with
      | none => false
      | some t => decide (Guarded step Appends { engine } sampleActions ∧
          (fileOf t.engine.durability).length ≤ kJournalMaxScanBytes)) (by decide +kernel)
  split at hruns
  · cases hruns
  · next t hrun =>
    obtain ⟨hok, hsize⟩ := of_decide_eq_true hruns
    have hcut : (scanJournalFile firstJournal).discardedTruncatedBytes = 0 := by decide +kernel
    have hroom : RoomToRecover {} firstJournal 0 0 [] := by
      unfold RoomToRecover
      decide +kernel
    exact ⟨engine, t, hrecover, hrun,
      committed_after_recovery hcut (by decide) hroom hrecover hhealthy hok hrun hsize⟩

/-- One byte of a torn record in front of what the recovery appends, and the file cannot be
read again. -/
theorem torn_byte_poisons : ∃ engine,
    recoverEngine {} (firstJournal.take 1) 0 0 [] = .ok engine ∧
    engine.durability.degraded = false ∧
    (scanJournalFile (fileOf engine.durability)).ok = false := by
  obtain ⟨engine, hrecover, hhealthy, hfailed⟩ := of_afterCrash (firstJournal.take 1)
    (P := fun engine ↦ !(scanJournalFile (fileOf engine.durability)).ok) (by decide +kernel)
  exact ⟨engine, hrecover, hhealthy, by simpa using hfailed⟩

end Samples

end RateGovernor.Safety.TornTail
