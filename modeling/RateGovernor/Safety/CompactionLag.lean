import RateGovernor.Dynamics.Lagging
import RateGovernor.Safety.ReplayedMemory

namespace RateGovernor.Safety.CompactionLag

open Model.Identity Model.Journal Model.JournalWriter Model.EngineState Model.Durability
open Model.Execution
open Foundation.ByteCodec Foundation.GuardedRun Dynamics.Sections Dynamics.Evolution
open Dynamics.Halting
open Dynamics.Install Dynamics.Commits Dynamics.Records Dynamics.Snapshots Dynamics.Compacting
open Dynamics.Start Dynamics.Serials Dynamics.Numbering Dynamics Dynamics.Mirroring Dynamics.Spacing
open Dynamics.Founding Dynamics.Journaling Dynamics.Lagging TornTail ReplayedMemory BurstAccounts

variable {start s t u : System} {action : Action} {actions : List Action}
  {base : List JournalRecord} {log : List (JournalRecordType × Bytes)}

/-- A compaction along a run: the section whose commit counts it, and how many records of the section
had been written when it last replaced the file. -/
structure Compaction (start : System) (actions : List Action) where
  before : List Action
  action : Action
  since : List Action
  found : System
  left : System
  decision : Section
  lost : ℕ
  count : ℕ
  split : before ++ action :: since = actions
  reached : run step start before = some found
  stepped : step found action = some left
  sectioned : sectionOf found action.event = some decision
  positive : 0 < lost
  within : lost ≤ decision.records.length
  whole : lost = decision.records.length ∨
    decision.chunked = true ∧ kMaxRecordsPerTransaction ∣ lost
  happened : 0 < count
  few : count ≤ decision.records.length
  counted : left.engine.durability.compactions =
    found.engine.durability.compactions + UInt64.ofNat count

def Compaction.cons (compaction : Compaction u actions) (hstep : step s action = some u) :
    Compaction s (action :: actions) :=
  { compaction with
    before := action :: compaction.before
    split := congrArg (action :: ·) compaction.split
    reached := by
      simp only [run, hstep]
      exact compaction.reached }

/-- What the file holds behind the last compaction: the tables as the section found them, the records
it wrote later, and what was committed since. -/
def Compaction.contents (compaction : Compaction start actions) : List (JournalRecordType × Bytes) :=
  buildSnapshotRecords compaction.found.engine.config compaction.found.engine.tables ++
    ((Journaling.contents compaction.found.engine compaction.decision).drop compaction.lost ++
      committedAlong compaction.left compaction.since)

theorem stuck_run (h : Stuck s.engine.config s.engine.durability)
    (hrun : run step s actions = some t) : Stuck t.engine.config t.engine.durability :=
  invariant_of_run (I := fun s ↦ Stuck s.engine.config s.engine.durability)
    (fun _ _ _ hstuck hstep ↦ (stuck_step hstuck hstep).1) h hrun

/-- A journal that works at the end of a run holds all that was committed, or all of it from the
last compaction on. -/
theorem logging_or_compacted (hstrict : s.engine.config.durability = .strict)
    (h : Logging s.engine.durability base log) (hrun : run step s actions = some t)
    (hworking : ¬ Stuck t.engine.config t.engine.durability) :
    Guarded step Commits s actions ∧
      (Logging t.engine.durability base (log ++ committedAlong s actions) ∨
        ∃ compaction : Compaction s actions,
          Logging t.engine.durability [compactedHeader] compaction.contents) := by
  induction actions generalizing s base log with
  | nil =>
    cases hrun
    refine ⟨trivial, .inl ?_⟩
    rw [committedAlong, List.append_nil]
    exact h
  | cons action actions ih =>
    cases hstep : step s action with
    | none =>
      simp only [run, hstep] at hrun
      cases hrun
    | some u =>
      simp only [run, hstep] at hrun
      have hstrict' : u.engine.config.durability = .strict := (config_step hstep).symm ▸ hstrict
      obtain ⟨decision, hsection, hcommits, hretains⟩ :=
        retains_step hstrict h hstep fun hstuck ↦ hworking (stuck_run hstuck hrun)
      have hwritten : written s action = contents s.engine decision := by rw [written, hsection]
      have hguarded (hrest : Guarded step Commits u actions) :
          Guarded step Commits s (action :: actions) := by
        refine ⟨hcommits, ?_⟩
        rw [hstep]
        exact hrest
      cases hretains with
      | appended counted logging =>
        obtain ⟨hrest, hlogging | ⟨compaction, hlogging⟩⟩ := ih hstrict' logging hrun
        · refine ⟨hguarded hrest, .inl ?_⟩
          simp only [committedAlong, hstep, hwritten]
          rw [List.append_assoc] at hlogging
          exact hlogging
        · exact ⟨hguarded hrest, .inr ⟨compaction.cons hstep, hlogging⟩⟩
      | @compacted lost count positive within whole happened few counted logging =>
        obtain ⟨hrest, hlogging | ⟨compaction, hlogging⟩⟩ := ih hstrict' logging hrun
        · have hlength : (contents s.engine decision).length = decision.records.length :=
            List.length_map _
          rw [hlength] at within whole few
          refine ⟨hguarded hrest, .inr ⟨⟨[], action, actions, s, u, decision, lost, count, rfl, rfl,
            hstep, hsection, positive, within, whole, happened, few, counted⟩, ?_⟩⟩
          rw [List.append_assoc] at hlogging
          exact hlogging
        · exact ⟨hguarded hrest, .inr ⟨compaction.cons hstep, hlogging⟩⟩

/-- There are identities left for attempts, and no text that is staged is cut short. -/
structure Serves (s : System) (action : Action) : Prop where
  serviceable : Serviceable s
  texts : ∀ record ∈ stagedBy s action, Staged.TextsFit record

instance (s : System) (action : Action) : Decidable (Serves s action) :=
  decidable_of_iff (Serviceable s ∧ ∀ record ∈ stagedBy s action, Staged.TextsFit record)
    ⟨fun h ↦ ⟨h.1, h.2⟩, fun h ↦ ⟨h.serviceable, h.texts⟩⟩

theorem textsFit_run (h : TextsFit s.engine.tables) (hok : Guarded step Sustains s actions)
    (hrun : run step s actions = some t) : TextsFit t.engine.tables := by
  induction actions generalizing s with
  | nil =>
    cases hrun
    exact h
  | cons action actions ih =>
    obtain ⟨hsustains, hrest⟩ := hok
    cases hstep : step s action with
    | none =>
      simp only [run, hstep] at hrun
      cases hrun
    | some u =>
      simp only [run, hstep] at hrun hrest
      obtain ⟨decision, hsection, htables, -⟩ := settled_step hsustains.commits hstep
      have hstaged : stagedBy s action = decision.records := by rw [stagedBy, hsection]
      have hfits : TextsFit (installed s.engine.config s.engine.tables decision.records) :=
        textsFit_installed h (hstaged ▸ hsustains.texts)
      exact ih (htables ▸ hfits) hrest hrun

theorem textsFit_of_fresh (h : Fresh s) : TextsFit s.engine.tables := by
  obtain ⟨htables, -⟩ := replay_of_fresh h
  rw [htables]
  intro staged hmem
  obtain rfl := List.mem_singleton.mp hmem
  trivial

/-- As long as the journal works, it replays to the memory of the engine, until a commit makes it
large enough to be compacted. What is written of that section before the compaction is lost to the
file: behind it the journal replays from the tables as the section found them. -/
theorem compaction_lag (hstart : Founded start) (hspacious : Spacious start.engine.config)
    (hok : Guarded step Serves start actions) (hrun : run step start actions = some s)
    (hworking : ¬ Stuck s.engine.config s.engine.durability)
    (hsize : (fileOf s.engine.durability).length ≤ kJournalMaxScanBytes) :
    (scanJournalFile (fileOf s.engine.durability)).ok = true ∧
      (Mirrored (stagedAlong start actions) s.engine.tables (serialsOf s.engine.control)
          (rescanned s) ∨
        ∃ (compaction : Compaction start actions) (found : Replay),
          Rebuilt start.engine.config compaction.found.engine.tables found ∧
          rescanned s = replayed start.engine.config found
            ((contents compaction.found.engine compaction.decision).drop compaction.lost ++
              committedAlong compaction.left compaction.since)) := by
  obtain ⟨hcommits, hlogging⟩ :=
    logging_or_compacted hstart.strict hstart.logging hrun hworking
  have hsustains : Guarded step Sustains start actions := (hok.both hcommits).mono
    fun _ _ h ↦ ⟨h.2, h.1.serviceable, h.1.texts⟩
  rcases hlogging with hlogging | ⟨compaction, hlogging⟩
  · exact ⟨(scan_of_logging hlogging hsize).1,
      .inl (mirrored_of_logging hstart hspacious hsustains hrun hlogging hsize)⟩
  · obtain ⟨hscan, hfollows⟩ := scan_of_logging hlogging hsize
    obtain ⟨hbefore, -⟩ := Guarded.of_append (compaction.split.symm ▸ hsustains) compaction.reached
    obtain ⟨horderly, -⟩ := mirrored_run (orderly_of_fresh hstart.fresh) hspacious
      (mirrored_of_founded hstart) hbefore compaction.reached
    have htexts := textsFit_run (textsFit_of_fresh hstart.fresh) hbefore compaction.reached
    have hrebuilt := replayed_snapshot horderly.ordered.snapshotable htexts
    have hconfig := config_run compaction.reached
    rw [hconfig] at hrebuilt
    refine ⟨hscan, .inr ⟨compaction, _, hrebuilt, ?_⟩⟩
    have hheader : replayed start.engine.config (.fresh start.engine.config)
        ([compactedHeader].map content) = .fresh start.engine.config := rfl
    rw [rescanned, applySnapshotRecords_eq, hfollows.contents, config_run hrun, replayed_append,
      hheader, Compaction.contents, replayed_append, hconfig]

section Sample

/-- A journal that is compacted as soon as anything is added to the banner of its engine. -/
def tightConfig : JournalConfig := { unlimited with maxBytes := 300 }

def tightJournal : JournalFile := (JournalFile.create tightConfig []).getD {}

def tightStart : System := { engine := (construct {} none {} (some tightJournal) []).1 }

theorem founded_tightStart : Founded tightStart where
  strict := rfl
  healthy := by decide +kernel
  built := by
    refine ⟨_, _, _, tightConfig, [], tightJournal, [], rfl, by decide, ?_, rfl⟩
    rintro journal ⟨⟩
    exact .inr (by decide +kernel)

def flowAction : Action := ⟨.putFlow sampleFlow, []⟩

/-- A flow is put into the engine and is not in its journal. -/
theorem compaction_lag_flow : ∃ s, run step tightStart [flowAction] = some s ∧
    s.engine.tables.flows.size = 1 ∧
    ∃ (compaction : Compaction tightStart [flowAction]) (found : Replay),
      Rebuilt tightStart.engine.config compaction.found.engine.tables found ∧
      rescanned s = replayed tightStart.engine.config found
        ((contents compaction.found.engine compaction.decision).drop compaction.lost ++
          committedAlong compaction.left compaction.since) ∧
      (rescanned s).tables.flows.size = 0 := by
  have hspacious : Spacious tightStart.engine.config := by decide
  have hok : Guarded step Serves tightStart [flowAction] := by decide +kernel
  have htest : (run step tightStart [flowAction]).all (fun s ↦
      s.engine.tables.flows.size = 1 ∧ (rescanned s).tables.flows.size = 0 ∧
        s.engine.durability.degraded = false ∧
        (s.engine.durability.journal.map (·.isOpen)) = some true ∧
        (fileOf s.engine.durability).length ≤ kJournalMaxScanBytes) = true := by
    decide +kernel
  obtain ⟨s, hrun⟩ : ∃ s, run step tightStart [flowAction] = some s :=
    Option.isSome_iff_exists.mp (by decide +kernel)
  rw [hrun, Option.all_some, decide_eq_true_eq] at htest
  obtain ⟨hflow, hnone, hhealthy, hopen, hsize⟩ := htest
  have hworking : ¬ Stuck s.engine.config s.engine.durability := by
    rintro ⟨-, hdegraded | hclosed⟩
    · rw [hhealthy] at hdegraded
      cases hdegraded
    · obtain ⟨journal, hjournal, hisOpen⟩ := Option.map_eq_some_iff.mp hopen
      rw [hclosed journal hjournal] at hisOpen
      cases hisOpen
  obtain ⟨-, hmirrored | ⟨compaction, found, hrebuilt, hreplay⟩⟩ :=
    compaction_lag founded_tightStart hspacious hok hrun hworking hsize
  · have hflows := congrArg Tables.flows hmirrored.others
    rw [hflows] at hnone
    rw [hflow] at hnone
    cases hnone
  · exact ⟨s, hrun, hflow, compaction, found, hrebuilt, hreplay, hnone⟩

end Sample

end RateGovernor.Safety.CompactionLag
