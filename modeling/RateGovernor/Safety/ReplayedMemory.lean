import RateGovernor.Dynamics.Founding
import RateGovernor.Dynamics.Spacing
import RateGovernor.Safety.BurstAccounts

namespace RateGovernor.Safety.ReplayedMemory

open Model.CheckedMath Model.Identity Model.Envelope Model.Journal Model.JournalWriter
open Model.EngineState Model.Durability Model.Execution Foundation.KeyedTable
open Foundation.GuardedRun Dynamics.Sections Dynamics.Staging Dynamics.Turns Dynamics.Evolution
open Dynamics.Commits Dynamics.Journaling Dynamics.Start Dynamics.Serials Dynamics.Records
open Dynamics.Compacting Dynamics Dynamics.Mirroring Dynamics.Spacing Dynamics.Founding TornTail
open BurstAccounts

variable {start s t : System} {action : Action} {actions : List Action} {staged : List Staged}
  {replay : Replay}

def stagedBy (s : System) (action : Action) : List Staged :=
  match sectionOf s action.event with
  | none => []
  | some decision => decision.records

/-- The objects staged along a run, in order. -/
def stagedAlong : System → List Action → List Staged
  | _, [] => []
  | s, action :: actions => stagedBy s action ++ match step s action with
    | none => []
    | some t => stagedAlong t actions

/-- What the action stages is appended to the journal, with none of its texts cut short, while there
are identities left for attempts. -/
structure Journals (s : System) (action : Action) : Prop where
  appends : Appends s action
  serviceable : Serviceable s
  texts : ∀ record ∈ stagedBy s action, Staged.TextsFit record

instance (s : System) (action : Action) : Decidable (Journals s action) :=
  decidable_of_iff (Appends s action ∧ Serviceable s ∧
      ∀ record ∈ stagedBy s action, Staged.TextsFit record)
    ⟨fun h ↦ ⟨h.1, h.2.1, h.2.2⟩, fun h ↦ ⟨h.appends, h.serviceable, h.texts⟩⟩

/-- What the action stages is committed, under the same conditions. -/
structure Sustains (s : System) (action : Action) : Prop where
  commits : Commits s action
  serviceable : Serviceable s
  texts : ∀ record ∈ stagedBy s action, Staged.TextsFit record

theorem Journals.sustains (h : Journals s action) : Sustains s action :=
  ⟨h.appends.2, h.serviceable, h.texts⟩

/-- Along a run, the replay of what is journalled keeps up with the memory. -/
theorem mirrored_run (horderly : Orderly s) (hspacious : Spacious s.engine.config)
    (h : Mirrored staged s.engine.tables (serialsOf s.engine.control) replay)
    (hok : Guarded step Sustains s actions) (hrun : run step s actions = some t) :
    Orderly t ∧ Mirrored (staged ++ stagedAlong s actions) t.engine.tables
      (serialsOf t.engine.control)
      (replayed s.engine.config replay (committedAlong s actions)) := by
  induction actions generalizing s staged replay with
  | nil =>
    cases hrun
    rw [stagedAlong, List.append_nil]
    exact ⟨horderly, h⟩
  | cons action actions ih =>
    obtain ⟨hsustains, hrest⟩ := hok
    cases hstep : step s action with
    | none =>
      simp only [run, hstep] at hrun
      cases hrun
    | some u =>
      simp only [run, hstep] at hrun hrest
      have hconfig := config_step hstep
      obtain ⟨decision, hsection, -⟩ := settled_step hsustains.commits hstep
      have hstaged : stagedBy s action = decision.records := by rw [stagedBy, hsection]
      have hwritten : written s action = contents s.engine decision := by rw [written, hsection]
      have hmirrored := mirrored_step horderly hspacious hsustains.commits hsection
        (hstaged ▸ hsustains.texts) h hstep
      have hnext := ih
        (orderly_step horderly hspacious hsustains.serviceable hsustains.commits hstep)
        (hconfig.symm ▸ hspacious) hmirrored hrest hrun
      rw [List.append_assoc, hconfig] at hnext
      simp only [stagedAlong, committedAlong, hstep, hstaged, hwritten, replayed_append]
      exact hnext

theorem mirrored_of_founded (h : Founded start) :
    Mirrored [] start.engine.tables (serialsOf start.engine.control)
      (replayed start.engine.config (.fresh start.engine.config)
        ([firstRecord].map content ++ [engineBanner start.engine.config])) := by
  obtain ⟨htables, henvelope, hattempt, -⟩ := Numbering.replay_of_fresh h.fresh
  have hfirst : replayed start.engine.config (.fresh start.engine.config)
      ([firstRecord].map content) = .fresh start.engine.config := rfl
  have hbanner : replayed start.engine.config (.fresh start.engine.config)
      [engineBanner start.engine.config] = .fresh start.engine.config := by
    have hstaged := @replayed_staged start.engine.config start.engine.config.boot
      (.fresh start.engine.config) [.epoch (Replay.fresh start.engine.config).tables.epoch
        .engineShutdown] fun record hmem ↦ by rw [List.mem_singleton.mp hmem]; trivial
    refine Eq.trans hstaged ?_
    simp only [Snapshots.restoreAll, List.map_cons, List.map_nil, List.foldl_cons, List.foldl_nil,
      Staged.kept, Replay.restore, Bool.and_eq_true, decide_eq_true_eq]
    exact if_neg fun hnewer ↦ UInt64.lt_irrefl _ hnewer.2
  rw [replayed_append, hfirst]
  rw [hbanner, htables, serialsOf, henvelope, hattempt]
  exact ⟨rfl, fun _ ↦ rfl, fun _ _ ↦ rfl, rfl, rfl, Nat.le_refl _⟩

/-- What a recovery rebuilds from the file of the engine, before it demotes anything. -/
def rescanned (s : System) : Replay :=
  applySnapshotRecords s.engine.config (.fresh s.engine.config)
    (scanJournalFile (fileOf s.engine.durability)).committed

theorem config_run (hrun : run step start actions = some s) :
    s.engine.config = start.engine.config := by
  refine invariant_of_run (I := fun s ↦ s.engine.config = start.engine.config) ?_ rfl hrun
  exact fun _ _ _ hsame hstep ↦ (config_step hstep).trans hsame

theorem mirrored_of_logging (hstart : Founded start) (hspacious : Spacious start.engine.config)
    (hok : Guarded step Sustains start actions) (hrun : run step start actions = some s)
    (hlogging : Logging s.engine.durability [firstRecord]
      ([engineBanner start.engine.config] ++ committedAlong start actions))
    (hsize : (fileOf s.engine.durability).length ≤ kJournalMaxScanBytes) :
    Mirrored (stagedAlong start actions) s.engine.tables (serialsOf s.engine.control)
      (rescanned s) := by
  obtain ⟨-, hfollows⟩ := scan_of_logging hlogging hsize
  have hrescanned : rescanned s = replayed start.engine.config
      (replayed start.engine.config (.fresh start.engine.config)
        ([firstRecord].map content ++ [engineBanner start.engine.config]))
      (committedAlong start actions) := by
    rw [rescanned, applySnapshotRecords_eq, hfollows.contents, config_run hrun,
      ← List.append_assoc, replayed_append]
  obtain ⟨-, hmirrored⟩ := mirrored_run (orderly_of_fresh hstart.fresh) hspacious
    (mirrored_of_founded hstart) hok hrun
  rw [← hrescanned, List.nil_append] at hmirrored
  exact hmirrored

/-- A replay of the journal rebuilds all tables and counters of identities of the engine, but that a
burst leaves counters it has misread in an envelope until the envelope is written again. -/
theorem replay_is_memory (hstart : Founded start) (hspacious : Spacious start.engine.config)
    (hok : Guarded step Journals start actions) (hrun : run step start actions = some s)
    (hsize : (fileOf s.engine.durability).length ≤ kJournalMaxScanBytes) :
    (scanJournalFile (fileOf s.engine.durability)).ok = true ∧
      Mirrored (stagedAlong start actions) s.engine.tables (serialsOf s.engine.control)
        (rescanned s) ∧
      ((∀ record ∈ stagedAlong start actions, counters record = false) →
        (rescanned s).tables = s.engine.tables ∧ (rescanned s).orphans = 0) := by
  have happends := hok.mono fun _ _ hjournals ↦ hjournals.appends
  have hlogging := logging_run hstart.strict hstart.logging happends hrun
  obtain ⟨hscan, -⟩ := scan_of_logging hlogging hsize
  have hmirrored := mirrored_of_logging hstart hspacious
    (hok.mono fun _ _ hjournals ↦ hjournals.sustains) hrun hlogging hsize
  exact ⟨hscan, hmirrored, fun hnone ↦ hmirrored.exact hnone⟩

section Exactness

/-- What the action stages is journalled, and no part of a burst is spent by it. -/
structure JournalsWhole (s : System) (action : Action) : Prop where
  journals : Journals s action
  spendsNothing : ∀ id tokens now, action.event = .consumeBurst id tokens now → stagedBy s action = []

theorem consumed_of_counters {event : Event} {record : Staged} (h : Stages s event record)
    (hcounters : counters record = true) : ∃ id tokens now, event = .consumeBurst id tokens now := by
  cases h with
  | consumed => exact ⟨_, _, _, rfl⟩
  | _ => cases hcounters

theorem no_counters_by (h : JournalsWhole s action) : ∀ record ∈ stagedBy s action,
    counters record = false := by
  intro record hmem
  by_contra hcounters
  obtain ⟨decision, hsection⟩ : ∃ decision, sectionOf s action.event = some decision := by
    cases hsection : sectionOf s action.event with
    | none =>
      rw [stagedBy, hsection] at hmem
      cases hmem
    | some decision => exact ⟨decision, rfl⟩
  have hstaged : stagedBy s action = decision.records := by rw [stagedBy, hsection]
  obtain ⟨id, tokens, now, hevent⟩ := consumed_of_counters
    (stages_of_sectionOf hsection (hstaged ▸ hmem)) (Bool.eq_true_of_not_eq_false hcounters)
  rw [h.spendsNothing id tokens now hevent] at hmem
  cases hmem

theorem no_counters_along (hok : Guarded step JournalsWhole s actions) :
    ∀ record ∈ stagedAlong s actions, counters record = false := by
  induction actions generalizing s with
  | nil =>
    intro record hmem
    cases hmem
  | cons action actions ih =>
    obtain ⟨hwhole, hrest⟩ := hok
    intro record hmem
    obtain hmem | hmem := List.mem_append.mp hmem
    · exact no_counters_by hwhole record hmem
    · cases hstep : step s action with
      | none =>
        rw [hstep] at hmem
        cases hmem
      | some t =>
        rw [hstep] at hmem
        simp only [hstep] at hrest
        exact ih hrest record hmem

/-- In a run in which no part of a burst is spent, a replay of the journal is the memory. -/
theorem replay_equals_memory (hstart : Founded start) (hspacious : Spacious start.engine.config)
    (hok : Guarded step JournalsWhole start actions) (hrun : run step start actions = some s)
    (hsize : (fileOf s.engine.durability).length ≤ kJournalMaxScanBytes) :
    (scanJournalFile (fileOf s.engine.durability)).ok = true ∧
      (rescanned s).tables = s.engine.tables ∧ (rescanned s).orphans = 0 := by
  have hjournals := hok.mono fun _ _ hwhole ↦ hwhole.journals
  have hlogging := logging_run hstart.strict hstart.logging
    (hjournals.mono fun _ _ h ↦ h.appends) hrun
  obtain ⟨hscan, -⟩ := scan_of_logging hlogging hsize
  have hmirrored := mirrored_of_logging hstart hspacious
    (hjournals.mono fun _ _ h ↦ h.sustains) hrun hlogging hsize
  exact ⟨hscan, hmirrored.exact (no_counters_along hok)⟩

end Exactness

section Samples

theorem founded_journalledStart : Founded journalledStart where
  strict := rfl
  healthy := logging_journalledStart.healthy
  built := by
    refine ⟨_, _, _, unlimited, [], newJournal unlimited, [], rfl, by decide, ?_, rfl⟩
    rintro journal ⟨⟩
    exact .inl rfl

def sizeWithin (actions : List Action) : Bool :=
  (run step journalledStart actions).all fun s ↦
    decide ((fileOf s.engine.durability).length ≤ kJournalMaxScanBytes)

theorem run_of_sizeWithin (hsome : (run step journalledStart actions).isSome = true)
    (hsize : sizeWithin actions = true) : ∃ s, run step journalledStart actions = some s ∧
      (fileOf s.engine.durability).length ≤ kJournalMaxScanBytes := by
  obtain ⟨s, hrun⟩ := Option.isSome_iff_exists.mp hsome
  rw [sizeWithin, hrun] at hsize
  exact ⟨s, hrun, of_decide_eq_true hsize⟩

/-- An envelope is opened and applied, and a part of its burst is spent. -/
theorem replay_is_memory_spent : ∃ s, run step journalledStart spendSample = some s ∧
    Mirrored (stagedAlong journalledStart spendSample) s.engine.tables
      (serialsOf s.engine.control) (rescanned s) := by
  have hspacious : Spacious journalledStart.engine.config := by decide
  have hok : Guarded step Journals journalledStart spendSample := by decide +kernel
  obtain ⟨s, hrun, hsize⟩ : ∃ s, run step journalledStart spendSample = some s ∧
      (fileOf s.engine.durability).length ≤ kJournalMaxScanBytes :=
    run_of_sizeWithin (by decide +kernel) (by decide +kernel)
  obtain ⟨-, hmirrored, -⟩ :=
    replay_is_memory founded_journalledStart hspacious hok hrun hsize
  exact ⟨s, hrun, hmirrored⟩

theorem guarded_whole (hok : Guarded step Journals s actions)
    (hnone : ∀ action ∈ actions, ∀ id tokens now, action.event ≠ .consumeBurst id tokens now) :
    Guarded step JournalsWhole s actions := by
  induction actions generalizing s with
  | nil => trivial
  | cons action actions ih =>
    obtain ⟨hjournals, hrest⟩ := hok
    have hspends : ∀ id tokens now, action.event = .consumeBurst id tokens now →
        stagedBy s action = [] := fun id tokens now hevent ↦
      absurd hevent (hnone action List.mem_cons_self id tokens now)
    refine ⟨⟨hjournals, hspends⟩, ?_⟩
    split
    · trivial
    · next t hstep =>
      simp only [hstep] at hrest
      exact ih hrest fun other hmem ↦ hnone other (List.mem_cons_of_mem _ hmem)

/-- An envelope is opened and applied, and its readback confirms it. -/
theorem replay_equals_memory_applied : ∃ s, run step journalledStart applySample = some s ∧
    (rescanned s).tables = s.engine.tables ∧ (rescanned s).orphans = 0 := by
  have hspacious : Spacious journalledStart.engine.config := by decide
  have hok : Guarded step JournalsWhole journalledStart applySample := by
    refine guarded_whole (by decide +kernel) fun action hmem id tokens now hevent ↦ ?_
    have hkinds : ∀ action ∈ applySample,
        action.event.ctorIdx ≠ (Event.consumeBurst {} 0 0).ctorIdx := by decide
    have hkind := hkinds action hmem
    rw [hevent] at hkind
    exact absurd rfl hkind
  obtain ⟨s, hrun, hsize⟩ : ∃ s, run step journalledStart applySample = some s ∧
      (fileOf s.engine.durability).length ≤ kJournalMaxScanBytes :=
    run_of_sizeWithin (by decide +kernel) (by decide +kernel)
  obtain ⟨-, hexact⟩ :=
    replay_equals_memory founded_journalledStart hspacious hok hrun hsize
  exact ⟨s, hrun, hexact⟩

/-- What a replay of the journal of a run makes of the bucket of the first envelope, and the memory. -/
def capacities (actions : List Action) (s : System) : Option U64 × Option U64 :=
  (((replayed journalledStart.engine.config (.fresh journalledStart.engine.config)
      (sampleEntries actions)).tables.envelopes.find 1).map (·.bucket.capacity),
    (s.engine.tables.envelopes.find 1).map (·.bucket.capacity))

/-- Once a part of a burst is spent, the replay has a bucket that the memory does not have. -/
theorem replay_differs_spent : Founded journalledStart ∧
    Guarded step Journals journalledStart spendSample ∧
    ∃ s, run step journalledStart spendSample = some s ∧
      (fileOf s.engine.durability).length ≤ kJournalMaxScanBytes ∧
      (rescanned s).tables ≠ s.engine.tables := by
  have hok : Guarded step Journals journalledStart spendSample := by decide +kernel
  obtain ⟨s, hrun, hsize⟩ : ∃ s, run step journalledStart spendSample = some s ∧
      (fileOf s.engine.durability).length ≤ kJournalMaxScanBytes :=
    run_of_sizeWithin (by decide +kernel) (by decide +kernel)
  refine ⟨founded_journalledStart, hok, s, hrun, hsize, fun hsame ↦ ?_⟩
  have hlogging := logging_run rfl logging_journalledStart (hok.mono fun _ _ h ↦ h.appends) hrun
  obtain ⟨-, hfollows⟩ := scan_of_logging hlogging hsize
  have hrescanned : rescanned s = replayed journalledStart.engine.config
      (.fresh journalledStart.engine.config) (sampleEntries spendSample) := by
    rw [rescanned, applySnapshotRecords_eq, hfollows.contents, config_run hrun]
    rfl
  have hdiffers : (run step journalledStart spendSample).map (capacities spendSample) =
      some (some 1, some 10) := by decide +kernel
  rw [hrun, Option.map_some, capacities, ← hrescanned, hsame] at hdiffers
  obtain ⟨hreplayed, hmemory⟩ := Prod.mk.inj (Option.some.inj hdiffers)
  rw [hreplayed] at hmemory
  cases hmemory

end Samples

end RateGovernor.Safety.ReplayedMemory
