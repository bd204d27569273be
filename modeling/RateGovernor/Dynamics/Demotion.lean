import RateGovernor.Dynamics.Reopening
import RateGovernor.Dynamics.Start

namespace RateGovernor.Dynamics.Demotion

open Model.CheckedMath Model.Identity Model.Reason Model.Entities Model.Envelope Model.EngineState
open Model.Journal Model.JournalWriter Model.Durability Model.Authority Model.Lifecycle
open Model.Maintenance Model.Execution Model.Recovery Foundation.ByteCodec Foundation.KeyedTable
open Install Staging Start Reopening

variable {config : EngineConfig} {file : Bytes} {demotedNs advancedNs now : U64} {io tailIo : Io}
  {engine : Engine} {actor : ActorContext} {epoch : FabricEpoch} {k : U64} {old : RateEnvelope}

section Replayed

/-- What the committed records of a file describe, before anything is demoted. -/
def replayed (config : EngineConfig) (file : Bytes) : Tables :=
  let records := (scanJournalFile file).committed
  let effective := (effectiveConfig config records).normalized
  (applySnapshotRecords effective (.fresh effective) records).tables

theorem tables_bannered (config : EngineConfig) (file : Bytes) (io : Io) :
    (bannered config file io).1.tables = (Replay.fresh
      (effectiveConfig config (scanJournalFile file).committed).normalized).tables :=
  tables_construct _ _ _ _ _

theorem tables_rebuilt (config : EngineConfig) (file : Bytes) (io : Io) :
    (rebuilt config file io).tables = replayed config file := by
  unfold rebuilt restored
  rw [bannered_eq, tables_bannered]
  rfl

end Replayed

section Merging

variable {α : Type} (key : α → U64)

theorem exists_mergeBy_self (candidate : α) (list : List α) :
    ∃ y ∈ mergeBy key candidate list, key y = key candidate := by
  induction list with
  | nil => exact ⟨candidate, List.mem_singleton.2 rfl, rfl⟩
  | cons existing list ih =>
    unfold mergeBy
    split
    · exact ⟨candidate, List.mem_cons_self, rfl⟩
    · obtain ⟨y, hy, hkey⟩ := ih
      exact ⟨y, List.mem_cons_of_mem _ hy, hkey⟩

theorem exists_mergeBy {x : α} {list : List α} (candidate : α) (h : x ∈ list) :
    ∃ y ∈ mergeBy key candidate list, key y = key x := by
  induction list with
  | nil => cases h
  | cons existing list ih =>
    unfold mergeBy
    obtain rfl | h := List.mem_cons.1 h
    · split
      · next hkey => exact ⟨candidate, List.mem_cons_self, hkey.symm⟩
      · exact ⟨x, List.mem_cons_self, rfl⟩
    · split
      · exact ⟨x, List.mem_cons_of_mem _ h, rfl⟩
      · obtain ⟨y, hy, hkey⟩ := ih h
        exact ⟨y, List.mem_cons_of_mem _ hy, hkey⟩

theorem exists_foldl_mergeBy {x : α} {list : List α} (merged : List α)
    (h : x ∈ list ∨ x ∈ merged) :
    ∃ y ∈ list.foldl (fun merged candidate ↦ mergeBy key candidate merged) merged,
      key y = key x := by
  induction list generalizing merged x with
  | nil => exact ⟨x, h.resolve_left List.not_mem_nil, rfl⟩
  | cons candidate list ih =>
    obtain h | h := h
    · obtain rfl | h := List.mem_cons.1 h
      · obtain ⟨y, hy, hkey⟩ := exists_mergeBy_self key x merged
        obtain ⟨z, hz, hz'⟩ := ih _ (.inr hy)
        exact ⟨z, hz, hz'.trans hkey⟩
      · exact ih _ (.inl h)
    · obtain ⟨y, hy, hkey⟩ := exists_mergeBy key candidate h
      obtain ⟨z, hz, hz'⟩ := ih _ (.inr hy)
      exact ⟨z, hz, hz'.trans hkey⟩

end Merging

section Passes

theorem id_of_demotedEnvelope {envelope : RateEnvelope} (h : demotedEnvelope old now = some envelope) :
    envelope.id = old.id := by
  unfold demotedEnvelope at h
  simp only at h
  split at h <;> cases h
  rfl

theorem id_of_epochDemoted {envelope : RateEnvelope} (h : epochDemoted now old = some envelope) :
    envelope.id = old.id := by
  unfold epochDemoted at h
  simp only at h
  split at h <;> cases h
  rfl

/-- The demotion that a recovery ends an incarnation with rewrites every envelope by its rule. -/
theorem find_demoteForRecovery (now : U64) (hactor : checkActor engine actor = none) (k : U64) :
    (installed engine.config engine.tables
        (demoteForRecovery engine actor now).records).envelopes.find k =
      (engine.tables.envelopes.find k).map fun old ↦ (demotedEnvelope old now).getD old := by
  rw [(installed_registries _ _).2.2.2.2.2.2]
  refine Registry.find_putAll_update (demotedEnvelope · now)
    (fun v w h ↦ congrArg (·.value) (id_of_demotedEnvelope h)) ?_ ?_ k
  · intro record hmem envelope henvelope
    obtain ⟨attempt, -, rfl⟩ | ⟨v, hv, w, hw, rfl⟩ := demoteForRecovery_records hmem
    · cases henvelope
    · cases henvelope
      exact ⟨v, Registry.mem_entries.1 hv, hw⟩
  · intro v w hv hw
    have hcandidate : w ∈ engine.tables.envelopes.entries.filterMap (demotedEnvelope · now) :=
      List.mem_filterMap.2 ⟨v, Registry.mem_entries.2 hv, hw⟩
    obtain ⟨u, hu, hkey⟩ := exists_foldl_mergeBy (fun e : RateEnvelope ↦ e.id.value) []
      (.inl hcandidate)
    refine ⟨.envelope .envelopeStateChange u, ?_, u, rfl, hkey⟩
    unfold demoteForRecovery
    rw [hactor]
    exact List.mem_append_right _ (List.mem_map.2 ⟨u, hu, rfl⟩)

theorem records_advanceEpoch (hvalid : epoch.valid = true)
    (hnewer : engine.tables.epoch.value < epoch.value) (hactor : checkActor engine actor = none) :
    (advanceEpoch engine epoch actor now).records =
      .epoch epoch .envelopeStaleFabricEpochAdvanced ::
        (engine.tables.envelopes.entries.filterMap (epochDemoted now)).map
          (.envelope .envelopeStateChange) := by
  unfold advanceEpoch
  rw [if_neg (by simp [hvalid, hnewer]), hactor]

theorem find_advanceEpoch (hvalid : epoch.valid = true)
    (hnewer : engine.tables.epoch.value < epoch.value) (hactor : checkActor engine actor = none)
    (k : U64) :
    (installed engine.config engine.tables
        (advanceEpoch engine epoch actor now).records).envelopes.find k =
      (engine.tables.envelopes.find k).map fun old ↦ (epochDemoted now old).getD old := by
  rw [(installed_registries _ _).2.2.2.2.2.2, records_advanceEpoch hvalid hnewer hactor]
  refine Registry.find_putAll_update (epochDemoted now)
    (fun v w h ↦ congrArg (·.value) (id_of_epochDemoted h)) ?_ ?_ k
  · intro record hmem envelope henvelope
    obtain rfl | hmem := List.mem_cons.1 hmem
    · cases henvelope
    · obtain ⟨w, hw, rfl⟩ := List.mem_map.1 hmem
      obtain ⟨v, hv, hvw⟩ := List.mem_filterMap.1 hw
      cases henvelope
      exact ⟨v, Registry.mem_entries.1 hv, hvw⟩
  · intro v w hv hw
    refine ⟨.envelope .envelopeStateChange w, List.mem_cons_of_mem _ ?_, w, rfl, rfl⟩
    exact List.mem_map.2 ⟨w, List.mem_filterMap.2 ⟨v, Registry.mem_entries.2 hv, hw⟩, rfl⟩

theorem settled_demoteForRecovery {attempt : EnforcementAttempt}
    (hactor : checkActor engine actor = none)
    (hfind : (installed engine.config engine.tables
      (demoteForRecovery engine actor now).records).attempts.find k = some attempt) :
    attemptInflight attempt.state = false := by
  rw [installed_attempts_putAll _ _ ?_] at hfind
  · cases hinflight : attemptInflight attempt.state with
    | false => rfl
    | true =>
      exfalso
      obtain ⟨record, hmem, hrecord⟩ | hold := Registry.find_putAll hfind
      · obtain ⟨found, -, rfl⟩ | ⟨v, -, w, -, rfl⟩ := demoteForRecovery_records hmem
        · cases hrecord
          cases hinflight
        · cases hrecord
      · have hkey := Registry.key_of_find hold
        have hcandidate : demotedAttempt attempt now ∈
            (inflightAttempts engine.tables).map (demotedAttempt · now) :=
          List.mem_map.2 ⟨attempt,
            List.mem_filter.2 ⟨Registry.mem_entries_of_find hold, hinflight⟩, rfl⟩
        obtain ⟨u, hu, hukey⟩ := exists_foldl_mergeBy
          (fun a : EnforcementAttempt ↦ a.id.value) [] (.inl hcandidate)
        have hstaged : .attempt .attemptTerminated u ∈
            (demoteForRecovery engine actor now).records := by
          unfold demoteForRecovery
          rw [hactor]
          exact List.mem_append_left _ (List.mem_map.2 ⟨u, hu, rfl⟩)
        obtain ⟨w, hw, record, hmem, hrecord⟩ :=
          Registry.find_putAll_of_mem (r := engine.tables.attempts) (f := attempt?) hstaged rfl
        have hsame : u.id.value = k := hukey.trans hkey
        rw [hsame, hfind] at hw
        cases hw
        obtain ⟨found, -, rfl⟩ | ⟨v, -, w, -, rfl⟩ := demoteForRecovery_records hmem
        · cases hrecord
          cases hinflight
        · cases hrecord
  · intro record hmem a
    obtain ⟨found, -, rfl⟩ | ⟨v, -, w, -, rfl⟩ := demoteForRecovery_records hmem <;> exact nofun

end Passes

section Performed

theorem perform_done {decision : Decision Status}
    (hreply : ∀ error, decision.reply (some error) ≠ none)
    (h : (decision.perform engine io).2.1 = none) :
    decision.reply none = none ∧ (decision.perform engine io).1.control = decision.settled ∧
      (decision.perform engine io).1.tables =
        installed engine.config engine.tables decision.records := by
  unfold Decision.perform at h ⊢
  split at h
  · next hempty =>
    rw [if_pos hempty]
    refine ⟨h, rfl, ?_⟩
    rw [List.isEmpty_iff.1 hempty]
    rfl
  · next hstaged =>
    rw [if_neg hstaged]
    simp only at h ⊢
    split at h
    · exact absurd h (hreply _)
    · exact ⟨h, rfl, rfl⟩

theorem demoteForRecovery_done
    (h : ((demoteForRecovery engine actor now).perform engine io).2.1 = none) :
    checkActor engine actor = none ∧
      ((demoteForRecovery engine actor now).perform engine io).1.control = engine.control ∧
      ((demoteForRecovery engine actor now).perform engine io).1.tables =
        installed engine.config engine.tables (demoteForRecovery engine actor now).records := by
  obtain ⟨hreply, hcontrol, htables⟩ := perform_done (fun _ ↦ demoteForRecovery_reply) h
  have hactor : checkActor engine actor = none := by
    cases hactor : checkActor engine actor with
    | none => rfl
    | some fence =>
      unfold demoteForRecovery at hreply
      rw [hactor] at hreply
      cases hreply
  refine ⟨hactor, hcontrol.trans ?_, htables⟩
  unfold demoteForRecovery
  rw [hactor]

theorem advanceEpoch_done (h : ((advanceEpoch engine epoch actor now).perform engine io).2.1 = none) :
    (epoch.valid = true ∧ engine.tables.epoch.value < epoch.value ∧
      checkActor engine actor = none) ∧
      ((advanceEpoch engine epoch actor now).perform engine io).1.control.backendBound = false ∧
      ((advanceEpoch engine epoch actor now).perform engine io).1.tables =
        installed engine.config engine.tables (advanceEpoch engine epoch actor now).records := by
  obtain ⟨hreply, hcontrol, htables⟩ := perform_done (fun _ ↦ advanceEpoch_reply) h
  have hguards : epoch.valid = true ∧ engine.tables.epoch.value < epoch.value ∧
      checkActor engine actor = none := by
    unfold advanceEpoch at hreply
    split at hreply
    · cases hreply
    · next hvalid =>
      split at hreply
      · cases hreply
      · next hactor =>
        simp only [Bool.or_eq_true, Bool.not_eq_true', decide_eq_true_eq, not_or,
          Bool.not_eq_false, UInt64.not_le] at hvalid
        exact ⟨hvalid.1, hvalid.2, hactor⟩
  refine ⟨hguards, ?_, htables⟩
  rw [hcontrol]
  unfold advanceEpoch
  rw [if_neg (by simp [hguards.1, hguards.2.1]), hguards.2.2]
  rfl

theorem epoch_demoteForRecovery : (installed engine.config engine.tables
    (demoteForRecovery engine actor now).records).epoch = engine.tables.epoch := by
  obtain hkept | ⟨reason, hmem⟩ := @installed_epoch engine.config engine.tables
    (demoteForRecovery engine actor now).records
  · exact hkept
  · obtain ⟨attempt, -, hrecord⟩ | ⟨v, -, w, -, hrecord⟩ := demoteForRecovery_records hmem <;>
      cases hrecord

theorem epoch_advanceEpoch (hvalid : epoch.valid = true)
    (hnewer : engine.tables.epoch.value < epoch.value) (hactor : checkActor engine actor = none) :
    (installed engine.config engine.tables (advanceEpoch engine epoch actor now).records).epoch =
      epoch := by
  rw [records_advanceEpoch hvalid hnewer hactor]
  obtain hkept | ⟨reason, hmem⟩ := @installed_epoch engine.config
    { engine.tables with epoch } ((engine.tables.envelopes.entries.filterMap (epochDemoted now)).map
      (.envelope .envelopeStateChange))
  · exact hkept
  · obtain ⟨w, -, hrecord⟩ := List.mem_map.1 hmem
    cases hrecord

end Performed

section Handover

def handedOut (config : EngineConfig) (demotedNs advancedNs : U64) (old : RateEnvelope) :
    RateEnvelope :=
  let demoted := (demotedEnvelope old demotedNs).getD old
  if config.advanceEpochOnRecovery then (epochDemoted advancedNs demoted).getD demoted else demoted

/-- The engine a recovery hands out, compared with what its file describes. -/
structure Handover (config : EngineConfig) (file : Bytes) (demotedNs advancedNs : U64)
    (engine : Engine) : Prop where
  envelopes : ∀ k, engine.tables.envelopes.find k =
    ((replayed config file).envelopes.find k).map (handedOut config demotedNs advancedNs)
  attempts : ∀ k attempt, engine.tables.attempts.find k = some attempt →
    attemptInflight attempt.state = false
  unbound : engine.control.backendBound = false
  epoch : if config.advanceEpochOnRecovery then
      (replayed config file).epoch.value < engine.tables.epoch.value
    else engine.tables.epoch = (replayed config file).epoch

theorem tailDropped_eq (truncate : Bool) (scan : JournalScanResult) (engine : Engine) (io : Io) :
    ∃ durability, tailDropped truncate scan engine io = { engine with durability } := by
  unfold tailDropped
  repeat' split
  all_goals exact ⟨_, rfl⟩

theorem handover_of_recoverEngine
    (h : recoverEngine config file demotedNs advancedNs io = .ok engine) :
    Handover config file demotedNs advancedNs engine := by
  obtain ⟨-, hdemoted, hadvanced, rfl⟩ := recoverEngine_ok h
  obtain ⟨hactor, hcontrol, htables⟩ := demoteForRecovery_done hdemoted
  have henvelopes := find_demoteForRecovery demotedNs hactor
  have hattempts := fun k a ↦ @settled_demoteForRecovery demotedNs (rebuilt config file io)
    (rebuiltActor config file io) k a hactor
  have hepoch := @epoch_demoteForRecovery demotedNs (rebuilt config file io)
    (rebuiltActor config file io)
  rw [← htables] at henvelopes hattempts hepoch
  rw [tables_rebuilt] at henvelopes hepoch
  have hunbound : (demoted config file demotedNs io).1.control.backendBound = false := by
    refine (congrArg (·.backendBound) hcontrol).trans ?_
    rw [rebuilt, restored, bannered_eq]
  have hflag : (demoted config file demotedNs io).1.config.advanceEpochOnRecovery =
      config.advanceEpochOnRecovery :=
    congrArg (·.advanceEpochOnRecovery) (perform_config _ _ _)
  unfold advanced advancedOnRecovery at hadvanced ⊢
  rw [hflag] at hadvanced ⊢
  by_cases hconfigured : config.advanceEpochOnRecovery = true
  · rw [if_pos hconfigured] at hadvanced
    rw [if_pos hconfigured]
    obtain ⟨⟨hvalid, hnewer, hactor'⟩, hbound, htables'⟩ := advanceEpoch_done hadvanced
    refine ⟨fun k ↦ ?_, fun k a hfind ↦ ?_, hbound, ?_⟩
    · rw [htables', find_advanceEpoch hvalid hnewer hactor']
      refine (congrArg _ (henvelopes k)).trans ?_
      rw [Option.map_map]
      congr 1
      funext old
      simp only [handedOut, hconfigured]
      rfl
    · rw [htables', advanceEpoch_attempts] at hfind
      exact hattempts k a hfind
    · rw [if_pos hconfigured, htables', epoch_advanceEpoch hvalid hnewer hactor', ← hepoch]
      exact hnewer
  · rw [if_neg hconfigured]
    refine ⟨fun k ↦ ?_, hattempts, hunbound, ?_⟩
    · refine (henvelopes k).trans ?_
      congr 1
      funext old
      simp only [handedOut, if_neg hconfigured]
    · rw [if_neg hconfigured]
      exact hepoch

theorem handover {truncate : Bool}
    (h : recoverEngineWith truncate config file demotedNs advancedNs io tailIo = .ok engine) :
    Handover config file demotedNs advancedNs engine := by
  unfold recoverEngineWith at h
  split at h
  · cases h
  · next recovered hrecovered =>
    cases h
    obtain ⟨durability, heq⟩ := tailDropped_eq truncate (scanJournalFile file) recovered tailIo
    obtain ⟨henvelopes, hattempts, hunbound, hepoch⟩ := handover_of_recoverEngine hrecovered
    rw [heq]
    exact ⟨henvelopes, hattempts, hunbound, hepoch⟩

end Handover

end RateGovernor.Dynamics.Demotion
