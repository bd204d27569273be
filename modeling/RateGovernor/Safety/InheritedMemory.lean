import RateGovernor.Dynamics.Carrying
import RateGovernor.Safety.CrashAtomicity
import RateGovernor.Safety.RestoredClaims

namespace RateGovernor.Safety.InheritedMemory

open Model.CheckedMath Model.Identity Model.Entities Model.Envelope Model.Journal
open Model.JournalWriter Model.EngineState Model.Durability Model.Authority Model.Maintenance
open Model.EnvelopeCodec Model.Execution Model.Recovery Foundation.ByteCodec Foundation.KeyedTable
open Foundation.GuardedRun Dynamics.Install Dynamics.Start Dynamics.Commits Dynamics.Records
open Dynamics.Compacting Dynamics.Mirroring Dynamics.Spacing Dynamics.Founding Dynamics.Demotion
open Dynamics.Rereading Dynamics.Carrying Dynamics.Framing TornTail BurstAccounts ReplayedMemory
open CrashAtomicity RestoredClaims

variable {start s : System} {actions : List Action} {given : EngineConfig} {file : Bytes}
  {demotedNs advancedNs now : U64} {io : Io} {engine : Engine} {n : ℕ}

section Envelopes

theorem demotedEnvelope_uncounted (envelope : RateEnvelope) (now : U64) :
    (demotedEnvelope (uncounted envelope) now).map uncounted =
      (demotedEnvelope envelope now).map uncounted := by
  unfold demotedEnvelope
  simp only [apply_ite (Option.map uncounted)]
  rfl

theorem epochDemoted_uncounted (now : U64) (envelope : RateEnvelope) :
    (epochDemoted now (uncounted envelope)).map uncounted =
      (epochDemoted now envelope).map uncounted := by
  unfold epochDemoted
  simp only [apply_ite (Option.map uncounted)]
  rfl

theorem getD_uncounted {rewrite : RateEnvelope → Option RateEnvelope} {envelope other : RateEnvelope}
    (hrewrite : ∀ e, (rewrite (uncounted e)).map uncounted = (rewrite e).map uncounted)
    (h : uncounted envelope = uncounted other) :
    uncounted ((rewrite envelope).getD envelope) = uncounted ((rewrite other).getD other) := by
  have hsame := hrewrite envelope
  rw [h, hrewrite other] at hsame
  cases hfirst : rewrite envelope <;> cases hsecond : rewrite other <;>
    rw [hfirst, hsecond] at hsame
  · exact h
  · cases hsame
  · cases hsame
  · exact (Option.some.inj hsame).symm

theorem handedOut_uncounted {envelope other : RateEnvelope} (h : uncounted envelope = uncounted other) :
    uncounted (handedOut given demotedNs advancedNs envelope) =
      uncounted (handedOut given demotedNs advancedNs other) := by
  have hdemoted : uncounted ((demotedEnvelope envelope demotedNs).getD envelope) =
      uncounted ((demotedEnvelope other demotedNs).getD other) :=
    @getD_uncounted (demotedEnvelope · demotedNs) _ _
      (demotedEnvelope_uncounted · demotedNs) h
  unfold handedOut
  simp only
  split
  · exact getD_uncounted (epochDemoted_uncounted advancedNs) hdemoted
  · exact hdemoted

end Envelopes

section Epochs

theorem fresh_le_effective {records : List JournalRecord} (hmem : engineBanner start.engine.config ∈
      records.map content) :
    (Replay.fresh start.engine.config).tables.epoch.value ≤
      (Replay.fresh (effectiveConfig given records).normalized).tables.epoch.value := by
  obtain ⟨banner, hbanner, hcontent⟩ := List.mem_map.mp hmem
  have hrecorded : (Replay.fresh start.engine.config).tables.epoch ∈ recordedEpochs banner := by
    have htype : banner.type = .epochAdvance := congrArg Prod.fst hcontent
    have hpayload : banner.payload = encodeEpochPayload
        (Replay.fresh start.engine.config).tables.epoch start.engine.config.boot .engineShutdown :=
      congrArg Prod.snd hcontent
    unfold recordedEpochs
    rw [htype]
    simp only
    rw [hpayload, read_epoch]
    exact List.mem_singleton_self _
  have hle := recorded_le_highest hbanner hrecorded
  have hstart : (Replay.fresh start.engine.config).tables.epoch.valid = true := by
    simp only [Replay.fresh]
    split
    · next hvalid => exact hvalid
    · rfl
  have hvalid : (highestRecordedEpoch records).valid = true := by
    rw [StrongId.valid, decide_eq_true_eq] at hstart ⊢
    intro hzero
    rw [hzero] at hle
    exact hstart (UInt64.le_antisymm hle UInt64.zero_le)
  have heffective : (Replay.fresh (effectiveConfig given records).normalized).tables.epoch =
      highestRecordedEpoch records := by
    simp only [Replay.fresh, EngineConfig.normalized, effectiveConfig, hvalid, if_true]
  rw [heffective]
  exact hle

end Epochs

/-- The engine of a recovery has the tables and counters of its predecessor, but that attempts in
flight are settled and envelopes are handed out without what they claimed. What a burst has left of
an envelope's counters is as in the journal. -/
structure Inherits (given : EngineConfig) (demotedNs advancedNs : U64) (staged : List Staged)
    (tables : Tables) (serials : Serials) (engine : Engine) : Prop where
  authorities : SameAuthorities tables engine.tables
  attempts : ∀ k, engine.tables.attempts.find k =
    (tables.attempts.find k).map (settledAttempt demotedNs)
  envelopes : ∀ k, lastType k staged ≠ some .envelopeCounters → engine.tables.envelopes.find k =
    (tables.envelopes.find k).map (handedOut given demotedNs advancedNs)
  enduring : ∀ k, (engine.tables.envelopes.find k).map uncounted =
    (tables.envelopes.find k).map fun old ↦ uncounted (handedOut given demotedNs advancedNs old)
  epoch : tables.epoch.value ≤ engine.tables.epoch.value
  advanced : given.advanceEpochOnRecovery = true →
    tables.epoch.value < engine.tables.epoch.value
  envelopeIds : engine.control.nextEnvelopeId = serials.envelope
  attemptIds : engine.control.nextAttemptId = serials.attempt
  unbound : engine.control.backendBound = false

theorem reread_of_follows {log : List (JournalRecordType × Bytes)}
    (hlimits : SameLimits start.engine.config given.normalized)
    (hfollows : Follows [firstRecord] ([engineBanner start.engine.config] ++ log)
      (scanJournalFile file).committed) :
    ∃ epoch, reread given file = shifted (CrashAtomicity.rebuilt start file) epoch ∧
      (CrashAtomicity.rebuilt start file).tables.epoch.value ≤ epoch.value := by
  have hcontents := hfollows.contents
  have hbanner : engineBanner start.engine.config ∈
      (scanJournalFile file).committed.map content := by
    rw [hcontents]
    exact List.mem_append_right _ List.mem_cons_self
  have hsame : SameLimits start.engine.config
      (effectiveConfig given (scanJournalFile file).committed).normalized :=
    ⟨hlimits.envelopes, hlimits.attempts⟩
  obtain ⟨epoch, hreplay, hepoch⟩ := @replayed_shifted start.engine.config
    (.fresh start.engine.config) _ ((scanJournalFile file).committed.map content)
    (@fresh_le_effective start given _ hbanner)
  refine ⟨epoch, ?_, ?_⟩
  · simp only [reread, CrashAtomicity.rebuilt, applySnapshotRecords_eq]
    rw [replayed_limits hsame]
    exact hreplay
  · rw [CrashAtomicity.rebuilt, applySnapshotRecords_eq]
    exact hepoch

/-- What a recovery inherits from a file whose replay mirrors these tables. -/
theorem inherits_of_mirrored {staged : List Staged} {tables : Tables} {serials : Serials}
    {replay : Replay} {epoch : FabricEpoch} (hmirrored : Mirrored staged tables serials replay)
    (hreread : reread given file = shifted replay epoch)
    (hepoch : replay.tables.epoch.value ≤ epoch.value)
    (hrecover : recoverEngine given file demotedNs advancedNs io = .ok engine) :
    Inherits given demotedNs advancedNs staged tables serials engine := by
  obtain ⟨hauthorities, hattempts, henvelopeIds, hattemptIds⟩ := takenOver_of_recoverEngine hrecover
  obtain ⟨henvelopes, -, hunbound, hadvance⟩ := handover_of_recoverEngine hrecover
  have hreplayed : Dynamics.Demotion.replayed given file = (reread given file).tables := rfl
  rw [hreplayed, hreread] at henvelopes hadvance
  rw [hreread] at hauthorities hattempts henvelopeIds hattemptIds
  have hothers := hmirrored.others
  have hsame : SameAuthorities tables (shifted replay epoch).tables := by
    refine ⟨?_, ?_, ?_, ?_, ?_, ?_⟩ <;> simp only [shifted] <;> rw [hothers]
  have hstored : replay.tables.attempts = tables.attempts := by rw [hothers]
  have hsameEpoch : replay.tables.epoch = tables.epoch := by rw [hothers]
  rw [hsameEpoch] at hepoch
  refine ⟨hsame.trans hauthorities, fun k ↦ ?_, fun k hwhole ↦ ?_, fun k ↦ ?_, ?_, fun hconfigured ↦ ?_,
    henvelopeIds.trans hmirrored.envelopeSerial, hattemptIds.trans hmirrored.attemptSerial, hunbound⟩
  · rw [hattempts k, ← hstored]
    rfl
  · rw [henvelopes k, ← hmirrored.whole k hwhole]
    rfl
  · rw [henvelopes k]
    have henduring := hmirrored.enduring k
    show ((replay.tables.envelopes.find k).map _).map uncounted = _
    cases hfound : replay.tables.envelopes.find k <;> cases hold : tables.envelopes.find k <;>
      rw [hfound, hold] at henduring
    · rfl
    · cases henduring
    · cases henduring
    · exact congrArg some (handedOut_uncounted (Option.some.inj henduring))
  · split at hadvance
    · exact UInt64.le_trans hepoch (UInt64.le_of_lt hadvance)
    · rw [hadvance]
      exact hepoch
  · rw [if_pos hconfigured] at hadvance
    exact UInt64.lt_of_le_of_lt hepoch hadvance

/-- Whatever bytes of the journal a crash leaves behind its start, a recovery takes over the memory
of the engine as it was after the longest part of its run that they cover. -/
theorem memory_inherited (hstart : Founded start) (hspacious : Spacious start.engine.config)
    (hok : Guarded step Journals start actions) (hrun : run step start actions = some s)
    (hbehind : (fileOf start.engine.durability).length ≤ n)
    (hlimits : SameLimits start.engine.config given.normalized)
    (hrecover : recoverEngine given ((fileOf s.engine.durability).take n) demotedNs advancedNs io =
      .ok engine) :
    ∃ done t part, CutAt start actions n done t ∧ Amid actions done t part ∧
      Inherits given demotedNs advancedNs (stagedAlong start done ++ part)
        (installed t.engine.config t.engine.tables part) (serialsOf t.engine.control) engine := by
  obtain ⟨hscan, -⟩ := Dynamics.Reopening.recoverEngine_ok hrecover
  obtain ⟨done, t, part, log, hcut, hamid, -, hfollows, hmirrored⟩ :=
    crashed_journal hstart hspacious hok hrun hbehind (le_of_scan_ok hscan)
  obtain ⟨epoch, hreread, hepoch⟩ := reread_of_follows hlimits hfollows
  exact ⟨done, t, part, hcut, hamid, inherits_of_mirrored hmirrored hreread hepoch hrecover⟩

section Sample

/-- The process ends after a part of a burst was spent, and the whole of its journal is recovered. -/
theorem memory_inherited_spent : ∃ s engine, run step journalledStart spendSample = some s ∧
    recoverEngine {} ((fileOf s.engine.durability).take 8192) 9 9 [] = .ok engine ∧
    ∃ done t part, CutAt journalledStart spendSample 8192 done t ∧ Amid spendSample done t part ∧
      Inherits {} 9 9 (stagedAlong journalledStart done ++ part)
        (installed t.engine.config t.engine.tables part) (serialsOf t.engine.control) engine := by
  have hspacious : Spacious journalledStart.engine.config := by decide
  have hok : Guarded step Journals journalledStart spendSample := by decide +kernel
  have hbehind : (fileOf journalledStart.engine.durability).length ≤ 8192 := by decide +kernel
  have htest : (run step journalledStart spendSample).all (fun s ↦
      (fileOf s.engine.durability).length ≤ 8192 ∧
        (recoverFrom {} ((sampleEntries spendSample).map unplaced)
          (fileOf s.engine.durability) 9 9 []).isOk) = true := by
    decide +kernel
  obtain ⟨s, hrun⟩ : ∃ s, run step journalledStart spendSample = some s :=
    Option.isSome_iff_exists.mp (by decide +kernel)
  rw [hrun, Option.all_some, decide_eq_true_eq] at htest
  obtain ⟨hsize, hrecovers⟩ := htest
  have hlogging := logging_run (s := journalledStart) rfl logging_journalledStart
    (hok.mono fun _ _ hjournals ↦ hjournals.appends) hrun
  obtain ⟨hscan, -⟩ := scan_of_logging hlogging (hsize.trans (by decide +kernel))
  have hrecords : recordsIn (fileOf s.engine.durability) = sampleEntries spendSample :=
    hlogging.recordsIn
  rw [← hrecords, ← recoverEngine_eq hscan, ← List.take_of_length_le hsize] at hrecovers
  cases hrecover : recoverEngine {} ((fileOf s.engine.durability).take 8192) 9 9 [] with
  | error error =>
    rw [hrecover] at hrecovers
    cases hrecovers
  | ok engine =>
    exact ⟨s, engine, hrun, hrecover,
      memory_inherited founded_journalledStart hspacious hok hrun hbehind ⟨rfl, rfl⟩ hrecover⟩

end Sample

end RateGovernor.Safety.InheritedMemory
