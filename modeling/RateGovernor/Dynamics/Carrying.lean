import RateGovernor.Dynamics.Demotion
import RateGovernor.Dynamics.Mirroring

namespace RateGovernor.Dynamics.Carrying

open Model.CheckedMath Model.Identity Model.Reason Model.Entities Model.Envelope Model.Journal
open Model.JournalWriter Model.EngineState Model.Durability Model.Authority Model.Lifecycle
open Model.Maintenance
open Model.RecordCodec Model.EnvelopeCodec Model.Execution Model.Recovery Foundation.ByteCodec
open Foundation.KeyedTable Install Staging
open Start Commits Compacting Reopening Demotion Mirroring

variable {config config' : EngineConfig} {replay : Replay} {type : JournalRecordType}
  {payload : Bytes} {contents : List (JournalRecordType × Bytes)}

section Limits

/-- Two configurations under which attempts are retained alike. -/
structure SameLimits (config config' : EngineConfig) : Prop where
  envelopes : config'.maxEnvelopes = config.maxEnvelopes
  attempts : config'.maxAttemptsPerEnvelope = config.maxAttemptsPerEnvelope

theorem record_limits (h : SameLimits config config') (replay : Replay) (type : JournalRecordType)
    (payload : Bytes) : replay.record config' type payload = replay.record config type payload := by
  have hretain (attempt : EnforcementAttempt) : replay.tables.retainAttempt config' attempt =
      replay.tables.retainAttempt config attempt := by
    unfold Tables.retainAttempt
    rw [h.envelopes, h.attempts]
  unfold Replay.record Replay.restoreAttempt
  simp only [hretain]

theorem replayed_limits (h : SameLimits config config') (replay : Replay)
    (contents : List (JournalRecordType × Bytes)) :
    Compacting.replayed config' replay contents = Compacting.replayed config replay contents := by
  induction contents generalizing replay with
  | nil => rfl
  | cons entry contents ih =>
    have hfirst := record_limits h replay entry.1 entry.2
    exact (congrArg (Compacting.replayed config' · contents) hfirst).trans (ih _)

end Limits

section Epochs

def shifted (replay : Replay) (epoch : FabricEpoch) : Replay :=
  { replay with tables := { replay.tables with epoch } }

/-- The epoch a replay has come to, once one more record is replayed. -/
def epochAfter (type : JournalRecordType) (payload : Bytes) (epoch : FabricEpoch) : FabricEpoch :=
  match type with
  | .epochAdvance => match decodePayload decodeEpochPayload payload with
    | none => epoch
    | some (recorded, _, _) =>
      if recorded.valid && epoch.value < recorded.value then recorded else epoch
  | _ => epoch

theorem epochAfter_mono {epoch epoch' : FabricEpoch} (type : JournalRecordType) (payload : Bytes)
    (h : epoch.value ≤ epoch'.value) :
    (epochAfter type payload epoch).value ≤ (epochAfter type payload epoch').value := by
  cases type with
  | epochAdvance =>
    simp only [epochAfter]
    cases decodePayload decodeEpochPayload payload with
    | none => exact h
    | some entry =>
      obtain ⟨recorded, -⟩ := entry
      simp only [Bool.and_eq_true, decide_eq_true_eq]
      split
      · split
        · exact UInt64.le_refl _
        · next hvalid hnot =>
          exact UInt64.not_lt.mp fun hlt ↦ hnot ⟨hvalid.1, hlt⟩
      · split
        · next hnewer => exact UInt64.le_trans h (UInt64.le_of_lt hnewer.2)
        · exact h
  | _ => exact h

theorem record_shifted (config : EngineConfig) (replay : Replay) (epoch : FabricEpoch)
    (type : JournalRecordType) (payload : Bytes) :
    (shifted replay epoch).record config type payload =
      shifted (replay.record config type payload) (epochAfter type payload epoch) := by
  cases type with
  | epochAdvance =>
    simp only [Replay.record, epochAfter]
    cases decodePayload decodeEpochPayload payload with
    | none => rfl
    | some entry =>
      obtain ⟨recorded, rest⟩ := entry
      simp only [shifted]
      by_cases hnewer : epoch.value < recorded.value <;>
        by_cases hlater : replay.tables.epoch.value < recorded.value <;>
        cases recorded.valid <;> simp [hnewer, hlater]
  | attemptCreated | attemptDispatched | attemptAcknowledged | attemptTerminated | attemptVerified
  | attemptCompensating =>
    simp only [Replay.record, epochAfter]
    cases decodePayload decodeAttempt payload with
    | none => rfl
    | some attempt =>
      simp only [shifted, Replay.restoreAttempt, retainAttempt_epoch]
      rfl
  | envelopeCounters =>
    simp only [Replay.record, epochAfter]
    cases decodePayload decodeBucketPayload payload with
    | none => rfl
    | some patch =>
      simp only [shifted, Replay.patchCounters]
      cases replay.tables.envelopes.find patch.id.value with
      | none => rfl
      | some envelope =>
        simp only
        split <;> rfl
  | _ =>
    simp only [Replay.record, epochAfter]
    repeat' split
    all_goals rfl

theorem epoch_record (config : EngineConfig) (replay : Replay) (type : JournalRecordType)
    (payload : Bytes) : (replay.record config type payload).tables.epoch =
      epochAfter type payload replay.tables.epoch :=
  congrArg (·.tables.epoch) (record_shifted config replay replay.tables.epoch type payload)

/-- Replays that start at different epochs differ in nothing else, and the later stays so. -/
theorem replayed_shifted (config : EngineConfig) (replay : Replay) {epoch : FabricEpoch}
    (contents : List (JournalRecordType × Bytes)) (h : replay.tables.epoch.value ≤ epoch.value) :
    ∃ later, Compacting.replayed config (shifted replay epoch) contents =
        shifted (Compacting.replayed config replay contents) later ∧
      (Compacting.replayed config replay contents).tables.epoch.value ≤ later.value := by
  induction contents generalizing replay epoch with
  | nil => exact ⟨epoch, rfl, h⟩
  | cons entry contents ih =>
    have hepoch := epochAfter_mono entry.1 entry.2 h
    rw [← epoch_record config] at hepoch
    obtain ⟨later, hreplay, hlater⟩ := ih (replay.record config entry.1 entry.2) hepoch
    refine ⟨later, ?_, hlater⟩
    have hfirst := record_shifted config replay epoch entry.1 entry.2
    exact (congrArg (Compacting.replayed config · contents) hfirst).trans hreplay

end Epochs

section Authorities

variable {tables tables' : Tables} {records : List Staged}

structure SameAuthorities (tables tables' : Tables) : Prop where
  flows : tables'.flows = tables.flows
  grants : tables'.grants = tables.grants
  reservations : tables'.reservations = tables.reservations
  policies : tables'.policies = tables.policies
  resources : tables'.resources = tables.resources
  backends : tables'.backends = tables.backends

theorem SameAuthorities.trans {tables'' : Tables} (h : SameAuthorities tables tables')
    (h' : SameAuthorities tables' tables'') : SameAuthorities tables tables'' :=
  ⟨h'.flows.trans h.flows, h'.grants.trans h.grants, h'.reservations.trans h.reservations,
    h'.policies.trans h.policies, h'.resources.trans h.resources, h'.backends.trans h.backends⟩

def Demoting : Staged → Prop
  | .attempt _ _ | .envelope _ _ | .epoch _ _ => True
  | _ => False

theorem sameAuthorities_installed (h : ∀ record ∈ records, Demoting record) :
    SameAuthorities tables (installed config tables records) := by
  obtain ⟨hflows, hgrants, hreservations, hpolicies, hresources, hbackends, -⟩ :=
    @installed_registries config tables records
  have hnone {α : Type} {key : α → UInt64} {r : Registry α key} {f : Staged → Option α}
      (hf : ∀ record, Demoting record → f record = none) : r.putAll f records = r :=
    Registry.putAll_of_none fun record hmem ↦ hf record (h record hmem)
  refine ⟨hflows.trans (hnone ?_), hgrants.trans (hnone ?_), hreservations.trans (hnone ?_),
    hpolicies.trans (hnone ?_), hresources.trans (hnone ?_), hbackends.trans (hnone ?_)⟩ <;>
  · intro record hdemoting
    cases record <;> first | rfl | cases hdemoting

end Authorities

section Recovery

variable {given : EngineConfig} {file : Bytes} {demotedNs advancedNs now : U64} {io : Io}
  {engine : Engine} {actor : ActorContext} {epoch : FabricEpoch}

def settledAttempt (now : U64) (attempt : EnforcementAttempt) : EnforcementAttempt :=
  if attemptInflight attempt.state then demotedAttempt attempt now else attempt

theorem demoting_demoteForRecovery {record : Staged}
    (h : record ∈ (demoteForRecovery engine actor now).records) : Demoting record := by
  rcases demoteForRecovery_records h with ⟨attempt, -, rfl⟩ | ⟨old, -, envelope, -, rfl⟩ <;> trivial

theorem demoting_advanceEpoch {record : Staged}
    (h : record ∈ (advanceEpoch engine epoch actor now).records) : Demoting record := by
  rcases advanceEpoch_records h with rfl | ⟨envelope, rfl⟩ <;> trivial

theorem find_attempts_demoteForRecovery (hactor : checkActor engine actor = none) (k : U64) :
    (installed engine.config engine.tables
        (demoteForRecovery engine actor now).records).attempts.find k =
      (engine.tables.attempts.find k).map (settledAttempt now) := by
  have hcreated : ∀ record ∈ (demoteForRecovery engine actor now).records, ∀ attempt,
      record ≠ .created attempt := by
    rintro record hmem attempt rfl
    exact demoting_demoteForRecovery hmem
  have hsettled : settledAttempt now = fun attempt ↦
      ((if attemptInflight attempt.state then some (demotedAttempt attempt now)
        else none : Option EnforcementAttempt)).getD attempt := by
    funext attempt
    unfold settledAttempt
    split <;> rfl
  rw [installed_attempts_putAll _ _ hcreated, hsettled]
  refine Registry.find_putAll_update (fun attempt ↦
      if attemptInflight attempt.state then some (demotedAttempt attempt now) else none) ?_ ?_ ?_ k
  · intro v w h
    split at h <;> cases h
    rfl
  · intro record hmem attempt hattempt
    rcases demoteForRecovery_records hmem with ⟨old, hold, rfl⟩ | ⟨old, -, envelope, -, rfl⟩
    · cases hattempt
      obtain ⟨hstored, hinflight⟩ := List.mem_filter.mp hold
      exact ⟨old, Registry.mem_entries.mp hstored, if_pos hinflight⟩
    · cases hattempt
  · intro v w hv hw
    split at hw <;> cases hw
    next hinflight =>
    have hcandidate : demotedAttempt v now ∈
        (inflightAttempts engine.tables).map (demotedAttempt · now) :=
      List.mem_map.mpr ⟨v, List.mem_filter.mpr ⟨Registry.mem_entries.mpr hv, hinflight⟩, rfl⟩
    obtain ⟨u, hu, hkey⟩ := exists_foldl_mergeBy
      (fun a : EnforcementAttempt ↦ a.id.value) [] (.inl hcandidate)
    refine ⟨.attempt .attemptTerminated u, ?_, u, rfl, hkey⟩
    unfold demoteForRecovery
    rw [hactor]
    exact List.mem_append_left _ (List.mem_map.mpr ⟨u, hu, rfl⟩)

theorem ids_advanceEpoch (engine : Engine) (epoch : FabricEpoch) (actor : ActorContext) (now : U64) :
    (advanceEpoch engine epoch actor now).settled.nextEnvelopeId = engine.control.nextEnvelopeId ∧
      (advanceEpoch engine epoch actor now).settled.nextAttemptId = engine.control.nextAttemptId := by
  unfold advanceEpoch
  split
  · exact ⟨rfl, rfl⟩
  · split <;> exact ⟨rfl, rfl⟩

/-- What the committed records of a file describe, with the counters of identities. -/
def reread (given : EngineConfig) (file : Bytes) : Replay :=
  let records := (scanJournalFile file).committed
  let effective := (effectiveConfig given records).normalized
  applySnapshotRecords effective (.fresh effective) records

theorem control_rebuilt (given : EngineConfig) (file : Bytes) (io : Io) :
    (rebuilt given file io).control.nextEnvelopeId = (reread given file).nextEnvelopeId ∧
      (rebuilt given file io).control.nextAttemptId = (reread given file).nextAttemptId := by
  unfold rebuilt restored
  rw [bannered_eq, tables_bannered]
  exact ⟨rfl, rfl⟩

/-- The engine of a recovery holds what its file describes, with the attempts that were in flight
settled. -/
structure TakenOver (given : EngineConfig) (file : Bytes) (demotedNs : U64) (engine : Engine) :
    Prop where
  authorities : SameAuthorities (reread given file).tables engine.tables
  attempts : ∀ k, engine.tables.attempts.find k =
    ((reread given file).tables.attempts.find k).map (settledAttempt demotedNs)
  envelopeIds : engine.control.nextEnvelopeId = (reread given file).nextEnvelopeId
  attemptIds : engine.control.nextAttemptId = (reread given file).nextAttemptId

theorem takenOver_of_recoverEngine
    (h : recoverEngine given file demotedNs advancedNs io = .ok engine) :
    TakenOver given file demotedNs engine := by
  obtain ⟨-, hdemoted, hadvanced, rfl⟩ := recoverEngine_ok h
  obtain ⟨hactor, hcontrol, htables⟩ := demoteForRecovery_done hdemoted
  have hreread : (rebuilt given file io).tables = (reread given file).tables :=
    tables_rebuilt given file io
  have hattempts := fun k ↦ @find_attempts_demoteForRecovery demotedNs (rebuilt given file io)
    (rebuiltActor given file io) hactor k
  have hauthorities := @sameAuthorities_installed (rebuilt given file io).config
    (rebuilt given file io).tables _ fun _ ↦ @demoting_demoteForRecovery demotedNs
      (rebuilt given file io) (rebuiltActor given file io) _
  rw [← htables, hreread] at hattempts hauthorities
  obtain ⟨henvelopeIds, hattemptIds⟩ := control_rebuilt given file io
  rw [← hcontrol] at henvelopeIds hattemptIds
  unfold advanced advancedOnRecovery at hadvanced ⊢
  split
  · next hconfigured =>
    rw [if_pos hconfigured] at hadvanced
    obtain ⟨-, -, htables'⟩ := advanceEpoch_done hadvanced
    obtain ⟨-, hcontrol', -⟩ := perform_done (fun _ ↦ advanceEpoch_reply) hadvanced
    obtain ⟨henvelopeIds', hattemptIds'⟩ := ids_advanceEpoch (demoted given file demotedNs io).1
      ⟨(demoted given file demotedNs io).1.tables.epoch.value + 1⟩ (rebuiltActor given file io)
      advancedNs
    refine ⟨hauthorities.trans ?_, fun k ↦ ?_, ?_, ?_⟩
    · rw [htables']
      exact sameAuthorities_installed fun _ ↦ demoting_advanceEpoch
    · rw [htables', advanceEpoch_attempts]
      exact hattempts k
    · rw [hcontrol']
      exact henvelopeIds'.trans henvelopeIds
    · rw [hcontrol']
      exact hattemptIds'.trans hattemptIds
  · exact ⟨hauthorities, hattempts, henvelopeIds, hattemptIds⟩

end Recovery

end RateGovernor.Dynamics.Carrying
