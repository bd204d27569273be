import RateGovernor.Dynamics.Severing
import RateGovernor.Safety.FailedCommit
import RateGovernor.Safety.ReplayedMemory

namespace RateGovernor.Safety.CrashAtomicity

open Model.Identity Model.Journal Model.EngineState Model.Durability Model.Execution
open Foundation.ByteCodec Foundation.GuardedRun Dynamics.Sections Dynamics.Evolution
open Dynamics.Install Dynamics.Commits Dynamics.Transactions Dynamics.Journaling
open Dynamics.Compacting Dynamics.Records Dynamics.Restoring Dynamics.Staging Dynamics.Start
open Dynamics.Mirroring Dynamics.Spacing Dynamics.Founding
open Dynamics Dynamics.Severing TornTail ReplayedMemory BurstAccounts
open FailedCommit (scan_of_reads)

variable {start s t u : System} {action : Action} {actions done : List Action} {n : ℕ}
  {base : List JournalRecord} {log : List (JournalRecordType × Bytes)} {part : List Staged}

/-- The longest part of the run whose file lies within the first bytes, and the state after it. -/
structure CutAt (start : System) (actions : List Action) (n : ℕ) (done : List Action)
    (t : System) : Prop where
  initial : done <+: actions
  reached : run step start done = some t
  kept : (fileOf t.engine.durability).length ≤ n
  longest : ∀ before u, before <+: actions → run step start before = some u →
    (fileOf u.engine.durability).length ≤ n → before <+: done

/-- What of the next action has been kept: nothing, or whole transactions of a section that is
committed in several. -/
inductive Amid (actions done : List Action) (t : System) : List Staged → Prop
  | between : Amid actions done t []
  | within {action : Action} {decision : Section} {count : ℕ} (next : done ++ [action] <+: actions)
      (sectioned : sectionOf t action.event = some decision) (chunked : decision.chunked = true)
      (whole : kMaxRecordsPerTransaction ∣ count) (short : count < decision.records.length) :
      Amid actions done t (decision.records.take count)

theorem amid_of_splits {decision : Section} {count : ℕ} (hnext : done ++ [action] <+: actions)
    (hsection : sectionOf t action.event = some decision) (hsplits : Splits decision count) :
    Amid actions done t (decision.records.take count) := by
  rcases hsplits with rfl | ⟨hchunked, hwhole, hshort⟩
  · exact .between
  · exact .within hnext hsection hchunked hwhole hshort

theorem Amid.cons (h : Amid actions done t part) :
    Amid (action :: actions) (action :: done) t part := by
  cases h with
  | between => exact .between
  | within next sectioned chunked whole short =>
    exact .within (List.cons_prefix_cons.mpr ⟨rfl, next⟩) sectioned chunked whole short

theorem file_run (hstrict : s.engine.config.durability = .strict)
    (h : Logging s.engine.durability base log) (hok : Guarded step Appends s actions)
    (hrun : run step s actions = some t) :
    fileOf s.engine.durability <+: fileOf t.engine.durability := by
  induction actions generalizing s log with
  | nil =>
    cases hrun
    exact List.prefix_refl _
  | cons action actions ih =>
    obtain ⟨happends, hrest⟩ := hok
    cases hstep : step s action with
    | none =>
      simp only [run, hstep] at hrun
      cases hrun
    | some u =>
      simp only [run, hstep] at hrun hrest
      have hfirst := severed_step hstrict h happends.1 happends.2 hstep
      exact hfirst.extended.trans (ih ((config_step hstep).symm ▸ hstrict)
        (logging_step hstrict h happends hstep) hrest hrun)

theorem holds_of_logging (h : Logging s.engine.durability base log) :
    Holds (fileOf s.engine.durability) base log := by
  obtain ⟨journal, scan, hjournal, hsound, -, hfollows⟩ := h.sound
  have hfile : fileOf s.engine.durability = journal.file := by rw [fileOf, hjournal]; rfl
  rw [hfile]
  exact ⟨_, reads_of_clean hsound.clean hsound.status, hfollows⟩

theorem CutAt.none (hstrict : s.engine.config.durability = .strict)
    (h : Logging s.engine.durability base log) (hok : Guarded step Appends s (action :: actions))
    (hstep : step s action = some u) (hbehind : (fileOf s.engine.durability).length ≤ n)
    (hcut : n < (fileOf u.engine.durability).length) : CutAt s (action :: actions) n [] s := by
  refine ⟨List.nil_prefix, rfl, hbehind, fun before v hbefore hrun hwithin ↦ ?_⟩
  cases before with
  | nil => exact List.nil_prefix
  | cons first before =>
    obtain ⟨rfl, rest, rfl⟩ := List.cons_prefix_cons.mp hbefore
    obtain ⟨happends, hrest⟩ := hok
    simp only [run, hstep] at hrun hrest
    have hgrown := file_run ((config_step hstep).symm ▸ hstrict)
      (logging_step hstrict h happends hstep) (hrest.of_append hrun).1 hrun
    exact absurd hwithin (Nat.not_le.mpr (Nat.lt_of_lt_of_le hcut hgrown.length_le))

theorem CutAt.cons (h : CutAt u actions n done t) (hstep : step s action = some u) :
    CutAt s (action :: actions) n (action :: done) t := by
  refine ⟨List.cons_prefix_cons.mpr ⟨rfl, h.initial⟩, ?_, h.kept,
    fun before v hbefore hrun hwithin ↦ ?_⟩
  · simp only [run, hstep]
    exact h.reached
  · cases before with
    | nil => exact List.nil_prefix
    | cons first before =>
      obtain ⟨rfl, hrest⟩ := List.cons_prefix_cons.mp hbefore
      simp only [run, hstep] at hrun
      exact List.cons_prefix_cons.mpr ⟨rfl, h.longest before v hrest hrun hwithin⟩

/-- A file that is cut behind the start of a run holds what the actions before the cut have
committed, and whole transactions of the next. -/
theorem severed_run (hstrict : s.engine.config.durability = .strict)
    (h : Logging s.engine.durability base log) (hok : Guarded step Appends s actions)
    (hrun : run step s actions = some t) (hbehind : (fileOf s.engine.durability).length ≤ n) :
    ∃ done u part, CutAt s actions n done u ∧ Amid actions done u part ∧
      Holds ((fileOf t.engine.durability).take n) base
        (log ++ committedAlong s done ++ part.map (Staged.record s.engine.config.boot)) := by
  induction actions generalizing s log with
  | nil =>
    cases hrun
    refine ⟨[], _, [], ⟨List.prefix_refl _, rfl, hbehind, fun _ _ hbefore _ _ ↦ hbefore⟩, .between, ?_⟩
    rw [List.take_of_length_le hbehind, committedAlong, List.map_nil, List.append_nil,
      List.append_nil]
    exact holds_of_logging h
  | cons action actions ih =>
    have hall := hok
    obtain ⟨happends, hrest⟩ := hok
    cases hstep : step s action with
    | none =>
      simp only [run, hstep] at hrun
      cases hrun
    | some u =>
      simp only [run, hstep] at hrun hrest
      have hconfig := config_step hstep
      have hlogging := logging_step hstrict h happends hstep
      by_cases hcut : n < (fileOf u.engine.durability).length
      · obtain ⟨rest, hfile⟩ := file_run (hconfig.symm ▸ hstrict) hlogging hrest hrun
        obtain ⟨held, ⟨decision, count, hsection, hsplits, rfl⟩, hholds⟩ :=
          (severed_step hstrict h happends.1 happends.2 hstep).within n hbehind hcut
        refine ⟨[], s, decision.records.take count, .none hstrict h hall hstep hbehind hcut,
          amid_of_splits (List.prefix_append [action] actions) hsection hsplits, ?_⟩
        rw [← hfile, List.take_append_of_le_length hcut.le, committedAlong, List.append_nil,
          List.map_take]
        exact hholds
      · obtain ⟨done, v, part, hcutAt, hamid, hholds⟩ :=
          ih (hconfig.symm ▸ hstrict) hlogging hrest hrun (Nat.le_of_not_lt hcut)
        refine ⟨action :: done, v, part, hcutAt.cons hstep, hamid.cons, ?_⟩
        rw [hconfig, List.append_assoc log] at hholds
        simp only [committedAlong, hstep]
        exact hholds

/-- The replay keeps up with a section that is cut between its transactions. -/
theorem mirrored_part {staged : List Staged} {replay : Replay} (horderly : Orderly t)
    (hspacious : Spacious t.engine.config)
    (hmirrored : Mirrored staged t.engine.tables (serialsOf t.engine.control) replay)
    (htexts : ∀ action, done ++ [action] <+: actions →
      ∀ record ∈ stagedBy t action, Staged.TextsFit record)
    (hamid : Amid actions done t part) :
    Mirrored (staged ++ part) (installed t.engine.config t.engine.tables part)
      (serialsOf t.engine.control) (replayed t.engine.config replay
        (part.map (Staged.record t.engine.config.boot))) := by
  cases hamid with
  | between =>
    rw [List.append_nil]
    exact hmirrored
  | @within action decision count next sectioned chunked whole short =>
    have hstages {record : Staged} (hmem : record ∈ decision.records.take count) :
        Stages t action.event record :=
      stages_of_sectionOf sectioned (List.mem_of_mem_take hmem)
    have hstaged : stagedBy t action = decision.records := by rw [stagedBy, sectioned]
    refine hmirrored.replay_records
      (dues_of_split horderly hspacious sectioned (.inr ⟨chunked, whole, short⟩)) ?_ ?_ ?_ _
    · exact fun record hmem ↦ replayable_of_stages (hstages hmem)
    · exact fun record hmem ↦ htexts action next record (hstaged ▸ List.mem_of_mem_take hmem)
    · exact fun record hmem envelope ↦ planless_of_stages horderly.ordered (hstages hmem)

/-- What a recovery rebuilds from a file, before it demotes anything. -/
def rebuilt (s : System) (file : Bytes) : Replay :=
  applySnapshotRecords s.engine.config (.fresh s.engine.config) (scanJournalFile file).committed

theorem crashed_journal (hstart : Founded start) (hspacious : Spacious start.engine.config)
    (hok : Guarded step Journals start actions) (hrun : run step start actions = some s)
    (hbehind : (fileOf start.engine.durability).length ≤ n)
    (hsize : ((fileOf s.engine.durability).take n).length ≤ kJournalMaxScanBytes) :
    ∃ done t part log, CutAt start actions n done t ∧ Amid actions done t part ∧
      (scanJournalFile ((fileOf s.engine.durability).take n)).ok = true ∧
      Follows [firstRecord] ([engineBanner start.engine.config] ++ log)
        (scanJournalFile ((fileOf s.engine.durability).take n)).committed ∧
      Mirrored (stagedAlong start done ++ part) (installed t.engine.config t.engine.tables part)
        (serialsOf t.engine.control) (rebuilt start ((fileOf s.engine.durability).take n)) := by
  have happends := hok.mono fun _ _ hjournals ↦ hjournals.appends
  obtain ⟨done, t, part, hcut, hamid, committed, hreads, hfollows⟩ :=
    severed_run hstart.strict hstart.logging happends hrun hbehind
  obtain ⟨hscan, hcommitted⟩ := scan_of_reads hreads hsize
  rw [List.append_assoc] at hfollows
  refine ⟨done, t, part, _, hcut, hamid, hscan, hcommitted ▸ hfollows, ?_⟩
  obtain ⟨rest, hsplit⟩ := hcut.initial
  obtain ⟨hdone, hafter⟩ := Guarded.of_append (hsplit ▸ hok) hcut.reached
  have hconfig := config_run hcut.reached
  obtain ⟨horderly, hmirrored⟩ := mirrored_run (orderly_of_fresh hstart.fresh) hspacious
    (mirrored_of_founded hstart) (hdone.mono fun _ _ hjournals ↦ hjournals.sustains) hcut.reached
  have hrebuilt : rebuilt start ((fileOf s.engine.durability).take n) =
      replayed start.engine.config (replayed start.engine.config
        (replayed start.engine.config (.fresh start.engine.config)
          ([firstRecord].map content ++ [engineBanner start.engine.config]))
        (committedAlong start done)) (part.map (Staged.record start.engine.config.boot)) := by
    rw [rebuilt, applySnapshotRecords_eq, hcommitted, hfollows.contents, ← List.append_assoc,
      replayed_append, replayed_append]
  rw [hrebuilt, ← hconfig]
  rw [List.nil_append, ← hconfig] at hmirrored
  rw [← hconfig] at hspacious
  refine mirrored_part horderly hspacious hmirrored (fun action hnext ↦ ?_) hamid
  obtain ⟨later, hlater⟩ := hnext
  have hrest : rest = action :: later := by
    rw [← hsplit, List.append_assoc, List.singleton_append] at hlater
    exact (List.append_cancel_left hlater).symm
  rw [hrest] at hafter
  exact hafter.1.texts

/-- A crash loses whole actions from the end of a run, or whole transactions of a section that is
committed in several: whatever bytes the file has kept behind its start, its replay leads to the
tables after the longest part of the run that lies within them, with what is kept of the next. -/
theorem crash_atomic (hstart : Founded start) (hspacious : Spacious start.engine.config)
    (hok : Guarded step Journals start actions) (hrun : run step start actions = some s)
    (hbehind : (fileOf start.engine.durability).length ≤ n)
    (hsize : ((fileOf s.engine.durability).take n).length ≤ kJournalMaxScanBytes) :
    ∃ done t part, CutAt start actions n done t ∧ Amid actions done t part ∧
      (scanJournalFile ((fileOf s.engine.durability).take n)).ok = true ∧
      Mirrored (stagedAlong start done ++ part) (installed t.engine.config t.engine.tables part)
        (serialsOf t.engine.control) (rebuilt start ((fileOf s.engine.durability).take n)) := by
  obtain ⟨done, t, part, -, hcut, hamid, hscan, -, hmirrored⟩ :=
    crashed_journal hstart hspacious hok hrun hbehind hsize
  exact ⟨done, t, part, hcut, hamid, hscan, hmirrored⟩

/-- The crash comes amid the transaction that publishes the application of an envelope. -/
theorem crash_atomic_dispatch : ∃ s, run step journalledStart spendSample = some s ∧
    ∃ done t part, CutAt journalledStart spendSample 4000 done t ∧
      Amid spendSample done t part ∧
      Mirrored (stagedAlong journalledStart done ++ part)
        (installed t.engine.config t.engine.tables part) (serialsOf t.engine.control)
        (rebuilt journalledStart ((fileOf s.engine.durability).take 4000)) := by
  have hspacious : Spacious journalledStart.engine.config := by decide
  have hok : Guarded step Journals journalledStart spendSample := by decide +kernel
  have hbehind : (fileOf journalledStart.engine.durability).length ≤ 4000 := by decide +kernel
  obtain ⟨s, hrun⟩ : ∃ s, run step journalledStart spendSample = some s :=
    Option.isSome_iff_exists.mp (by decide +kernel)
  have hsize : ((fileOf s.engine.durability).take 4000).length ≤ kJournalMaxScanBytes :=
    (List.length_take_le 4000 _).trans (by decide +kernel)
  obtain ⟨done, t, part, hcut, hamid, -, hmirrored⟩ :=
    crash_atomic founded_journalledStart hspacious hok hrun hbehind hsize
  exact ⟨s, hrun, done, t, part, hcut, hamid, hmirrored⟩

end RateGovernor.Safety.CrashAtomicity
