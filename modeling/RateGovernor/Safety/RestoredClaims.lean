import RateGovernor.Dynamics.Demotion
import RateGovernor.Safety.BurstAccounts

namespace RateGovernor.Safety.RestoredClaims

open Model.CheckedMath Model.Identity Model.Reason Model.Entities Model.Envelope Model.RecordCodec
open Model.EnvelopeCodec Model.EngineState Model.Journal Model.JournalWriter Model.Durability
open Model.Authority Model.Maintenance Model.Recovery Foundation.ByteCodec Foundation.KeyedTable
open Model.Execution Foundation.GuardedRun Dynamics.Install Dynamics.Journaling Dynamics.Reopening
open Dynamics.Commits Dynamics.Demotion Dynamics.Start TornTail BurstAccounts

variable {config : EngineConfig} {file : Bytes} {demotedNs advancedNs now : U64} {io tailIo : Io}
  {engine : Engine} {old : RateEnvelope} {records : List JournalRecord}

section Envelopes

def Claimed (envelope : RateEnvelope) : Prop :=
  envelope.effectVerified = true ∨ envelope.appliedRateUps ≠ 0 ∨ envelope.appliedBurstTokens ≠ 0 ∨
  envelope.state = .applied ∨ envelope.state = .dispatching ∨ envelope.state = .degraded ∨
  envelope.requiresRevalidation = true

structure Inactive (envelope : RateEnvelope) : Prop where
  applied : envelope.state ≠ .applied
  dispatching : envelope.state ≠ .dispatching
  unverified : envelope.effectVerified = false

theorem inactive_demoted (old : RateEnvelope) (now : U64) :
    Inactive ((demotedEnvelope old now).getD old) := by
  unfold demotedEnvelope
  simp only
  split
  · next h =>
    simp only [Bool.and_eq_true, Bool.not_eq_true', Bool.or_eq_false_iff,
      decide_eq_false_iff_not] at h
    exact ⟨h.2.1.1.1, h.2.1.1.2, h.1.1.1⟩
  · refine ⟨?_, ?_, rfl⟩
    all_goals
      simp only [Option.getD_some]
      split
      · exact nofun
      · next hactive =>
        simp only [Bool.or_eq_true, decide_eq_true_eq, not_or] at hactive
        first | exact hactive.1 | exact hactive.2

theorem doubted_demoted (h : Claimed old) (now : U64) :
    ((demotedEnvelope old now).getD old).requiresRevalidation = true := by
  unfold demotedEnvelope
  simp only
  split
  · next hnone =>
    simp only [Bool.and_eq_true, Bool.not_eq_true', Bool.or_eq_false_iff,
      decide_eq_false_iff_not, not_not] at hnone
    obtain ⟨⟨⟨hverified, hrate⟩, hburst⟩, ⟨⟨happlied, hdispatching⟩, hdegraded⟩, htrusted⟩ := hnone
    obtain h | h | h | h | h | h | h := h
    · exact absurd (hverified.symm.trans h) nofun
    · exact absurd hrate h
    · exact absurd hburst h
    · exact absurd h happlied
    · exact absurd h hdispatching
    · exact absurd h hdegraded
    · exact absurd (htrusted.symm.trans h) nofun
  · rfl

theorem inactive_advanced (h : Inactive old) (now : U64) :
    Inactive ((epochDemoted now old).getD old) := by
  unfold epochDemoted
  simp only
  split
  · exact h
  · refine ⟨?_, ?_, rfl⟩
    all_goals
      simp only [Option.getD_some]
      split
      · exact nofun
      · first | exact h.applied | exact h.dispatching

theorem doubted_advanced (h : old.requiresRevalidation = true) (now : U64) :
    ((epochDemoted now old).getD old).requiresRevalidation = true := by
  unfold epochDemoted
  simp only
  split
  · exact h
  · rfl

theorem inactive_handedOut (config : EngineConfig) (demotedNs advancedNs : U64)
    (old : RateEnvelope) : Inactive (handedOut config demotedNs advancedNs old) := by
  unfold handedOut
  simp only
  split
  · exact inactive_advanced (inactive_demoted old demotedNs) advancedNs
  · exact inactive_demoted old demotedNs

theorem doubted_handedOut (h : Claimed old) (config : EngineConfig) (demotedNs advancedNs : U64) :
    (handedOut config demotedNs advancedNs old).requiresRevalidation = true := by
  unfold handedOut
  simp only
  split
  · exact doubted_advanced (doubted_demoted h demotedNs) advancedNs
  · exact doubted_demoted h demotedNs

end Envelopes

section Epochs

def recordedEpochs (record : JournalRecord) : List FabricEpoch :=
  match record.type with
  | .epochAdvance => match decodePayload decodeEpochPayload record.payload with
    | none => []
    | some (epoch, _, _) => [epoch]
  | .envelopeOpened | .envelopeAuthorized | .envelopeStateChange | .envelopeBindingChange
  | .envelopeEffectRecorded => match decodePayload decodeEnvelope record.payload with
    | none => []
    | some envelope =>
      envelope.appliedEpoch ::
        if envelope.hasPlan then [envelope.plan.fingerprint.epoch] else []
  | .attemptCreated | .attemptDispatched | .attemptAcknowledged | .attemptTerminated
  | .attemptVerified => match decodePayload decodeAttempt record.payload with
    | none => []
    | some attempt => [attempt.epoch]
  | _ => []

theorem mentionedEpoch_eq (highest : FabricEpoch) (record : JournalRecord) :
    mentionedEpoch highest record = (recordedEpochs record).foldl higherEpoch highest := by
  obtain ⟨type, sequence, txnId, payload⟩ := record
  unfold mentionedEpoch recordedEpochs
  cases type with
  | epochAdvance =>
    simp only
    cases decodePayload decodeEpochPayload payload <;> rfl
  | envelopeOpened | envelopeAuthorized | envelopeStateChange | envelopeBindingChange
  | envelopeEffectRecorded =>
    simp only
    cases decodePayload decodeEnvelope payload with
    | none => rfl
    | some envelope =>
      simp only [List.foldl_cons]
      split <;> rfl
  | attemptCreated | attemptDispatched | attemptAcknowledged | attemptTerminated
  | attemptVerified =>
    simp only
    cases decodePayload decodeAttempt payload <;> rfl
  | _ => rfl

theorem le_higherEpoch (highest epoch : FabricEpoch) :
    highest.value ≤ (higherEpoch highest epoch).value ∧
      epoch.value ≤ (higherEpoch highest epoch).value := by
  unfold higherEpoch
  split
  · next h => exact ⟨UInt64.le_of_lt h, UInt64.le_refl _⟩
  · next h => exact ⟨UInt64.le_refl _, UInt64.not_lt.1 h⟩

theorem le_foldl_higherEpoch (epochs : List FabricEpoch) (highest : FabricEpoch) :
    highest.value ≤ (epochs.foldl higherEpoch highest).value ∧
      ∀ epoch ∈ epochs, epoch.value ≤ (epochs.foldl higherEpoch highest).value := by
  induction epochs generalizing highest with
  | nil => exact ⟨UInt64.le_refl _, fun _ h ↦ absurd h List.not_mem_nil⟩
  | cons epoch epochs ih =>
    obtain ⟨hle, hepoch⟩ := le_higherEpoch highest epoch
    obtain ⟨hrest, hall⟩ := ih (higherEpoch highest epoch)
    refine ⟨UInt64.le_trans hle hrest, fun e he ↦ ?_⟩
    obtain rfl | he := List.mem_cons.1 he
    · exact UInt64.le_trans hepoch hrest
    · exact hall e he

theorem recorded_le_highest {record : JournalRecord} {epoch : FabricEpoch} (hmem : record ∈ records)
    (hepoch : epoch ∈ recordedEpochs record) :
    epoch.value ≤ (highestRecordedEpoch records).value := by
  have hall : highestRecordedEpoch records =
      (records.flatMap recordedEpochs).foldl higherEpoch {} := by
    rw [List.foldl_flatMap, highestRecordedEpoch]
    congr 1
    funext highest record
    exact mentionedEpoch_eq highest record
  rw [hall]
  exact (le_foldl_higherEpoch _ _).2 epoch (List.mem_flatMap.2 ⟨record, hmem, hepoch⟩)

theorem epoch_record_le (config : EngineConfig) (replay : Replay) (type : JournalRecordType)
    (payload : Bytes) :
    replay.tables.epoch.value ≤ (replay.record config type payload).tables.epoch.value := by
  have hretain := retainAttempt_tables config replay.tables
  unfold Replay.record
  cases type with
  | epochAdvance =>
    simp only
    split
    · exact UInt64.le_refl _
    · split
      · next h =>
        simp only [Bool.and_eq_true, decide_eq_true_eq] at h
        exact UInt64.le_of_lt h.2
      · exact UInt64.le_refl _
  | attemptCreated | attemptDispatched | attemptAcknowledged | attemptTerminated | attemptVerified
  | attemptCompensating =>
    simp only
    split
    · exact UInt64.le_refl _
    · next attempt _ =>
      obtain ⟨attempts, order, lists, heq, -⟩ := hretain attempt
      simp only [Replay.restoreAttempt, heq]
      exact UInt64.le_refl _
  | envelopeCounters =>
    simp only
    split
    · exact UInt64.le_refl _
    · unfold Replay.patchCounters
      repeat' split
      all_goals exact UInt64.le_refl _
  | _ =>
    simp only
    repeat' split
    all_goals exact UInt64.le_refl _

theorem epoch_replay_le (config : EngineConfig) (replay : Replay) (records : List JournalRecord) :
    replay.tables.epoch.value ≤
      (applySnapshotRecords config replay records).tables.epoch.value := by
  unfold applySnapshotRecords
  induction records generalizing replay with
  | nil => exact UInt64.le_refl _
  | cons record records ih =>
    exact UInt64.le_trans (epoch_record_le config replay record.type record.payload) (ih _)

theorem recorded_le_replayed {record : JournalRecord} {epoch : FabricEpoch}
    (hmem : record ∈ (scanJournalFile file).committed) (hepoch : epoch ∈ recordedEpochs record) :
    epoch.value ≤ (replayed config file).epoch.value := by
  refine UInt64.le_trans ?_ (epoch_replay_le _ _ _)
  have hle := recorded_le_highest hmem hepoch
  simp only [Replay.fresh, EngineConfig.normalized, effectiveConfig]
  by_cases hvalid : (highestRecordedEpoch (scanJournalFile file).committed).valid = true
  · simp only [hvalid, if_true]
    exact hle
  · have hzero : (highestRecordedEpoch (scanJournalFile file).committed).value = 0 := by
      simpa [StrongId.valid] using hvalid
    rw [hzero] at hle
    exact UInt64.le_trans hle UInt64.zero_le

end Epochs

/-- Nothing of what an incarnation had in place is claimed for its successor, and everyone who
acted in it is fenced. -/
structure RestoresNoClaim (config : EngineConfig) (file : Bytes) (engine : Engine) : Prop where
  attempts : ∀ k attempt, engine.tables.attempts.find k = some attempt →
    attempt.state ≠ .created ∧ attempt.state ≠ .dispatched ∧ attempt.state ≠ .acknowledged
  envelopes : ∀ k envelope, engine.tables.envelopes.find k = some envelope →
    envelope.state ≠ .applied ∧ envelope.state ≠ .dispatching ∧ envelope.effectVerified = false ∧
      ∀ now, legallyEnforceableNow engine.tables envelope now = false
  doubted : ∀ k old, (replayed config file).envelopes.find k = some old → Claimed old →
    ∃ envelope, engine.tables.envelopes.find k = some envelope ∧
      envelope.requiresRevalidation = true
  unbound : engine.control.backendBound = false
  newer : ∀ record ∈ (scanJournalFile file).committed, ∀ epoch ∈ recordedEpochs record,
    epoch.value < engine.tables.epoch.value
  fenced : ∀ record ∈ (scanJournalFile file).committed, ∀ epoch ∈ recordedEpochs record,
    ∀ actor : ActorContext, actor.epoch.value ≤ epoch.value → (checkActor engine actor).isSome

theorem fenced_of_lower {actor : ActorContext} (h : actor.epoch.value < engine.tables.epoch.value) :
    (checkActor engine actor).isSome := by
  unfold checkActor
  split
  · rfl
  · split
    · rfl
    · next hsame =>
      rw [not_not.1 hsame] at h
      exact absurd h (UInt64.lt_irrefl _)

/-- A recovery that succeeds and advances the epoch restores no live claim. -/
theorem no_claim_restored {truncate : Bool} (hadvance : config.advanceEpochOnRecovery = true)
    (h : recoverEngineWith truncate config file demotedNs advancedNs io tailIo = .ok engine) :
    RestoresNoClaim config file engine := by
  obtain ⟨henvelopes, hattempts, hunbound, hepoch⟩ := handover h
  rw [if_pos hadvance] at hepoch
  have hnewer : ∀ record ∈ (scanJournalFile file).committed, ∀ epoch ∈ recordedEpochs record,
      epoch.value < engine.tables.epoch.value := fun record hmem epoch hmentioned ↦
    UInt64.lt_of_le_of_lt (recorded_le_replayed hmem hmentioned) hepoch
  refine ⟨fun k attempt hfind ↦ ?_, fun k envelope hfind ↦ ?_, fun k old hfind hclaimed ↦ ?_,
    hunbound, hnewer, fun record hmem epoch hmentioned actor hle ↦
      fenced_of_lower (UInt64.lt_of_le_of_lt hle (hnewer record hmem epoch hmentioned))⟩
  · have hsettled := hattempts k attempt hfind
    refine ⟨?_, ?_, ?_⟩ <;> (intro hstate; rw [hstate] at hsettled; cases hsettled)
  · rw [henvelopes k] at hfind
    obtain ⟨old, -, rfl⟩ := Option.map_eq_some_iff.1 hfind
    obtain ⟨happlied, hdispatching, hunverified⟩ :=
      inactive_handedOut config demotedNs advancedNs old
    refine ⟨happlied, hdispatching, hunverified, fun now ↦ ?_⟩
    simp only [legallyEnforceableNow, happlied, decide_false, Bool.false_and]
  · refine ⟨_, ?_, doubted_handedOut hclaimed config demotedNs advancedNs⟩
    rw [henvelopes k, hfind]
    rfl

section Sample

/-- An envelope is applied, and its revocation is on the way. -/
def revokingSample : List Action := applySample ++ [⟨.revoke ⟨1⟩ .none actor 7 {}, []⟩]

/-- The effect of the envelope was verified and its revocation dispatched before the recovery; after
it the envelope is doubted and the revocation has come to an ambiguous end. -/
def overtaken (s : System) (engine : Engine) : Bool :=
  (s.engine.tables.envelopes.find 1).any (fun envelope ↦
      envelope.effectVerified && envelope.appliedRateUps ≠ 0) &&
    (s.engine.tables.attempts.find 2).any (·.state = .created) &&
    (engine.tables.envelopes.find 1).any (·.requiresRevalidation) &&
    (engine.tables.attempts.find 2).any (·.state = .ambiguous)

theorem no_claim_after_revokingSample : ∃ s engine,
    run step journalledStart revokingSample = some s ∧
    recoverEngineWith false {} (fileOf s.engine.durability) 9 9 [] [] = .ok engine ∧
    overtaken s engine = true ∧
    RestoresNoClaim {} (fileOf s.engine.durability) engine := by
  obtain ⟨s, engine, hrun, hrecover, -, hovertaken⟩ := of_recovering
    (show Guarded step Appends journalledStart revokingSample by decide +kernel)
    (show recovering revokingSample overtaken = true by decide +kernel)
  have hok : recoverEngineWith false {} (fileOf s.engine.durability) 9 9 [] [] = .ok engine := by
    simp only [recoverEngineWith, hrecover]
    rfl
  exact ⟨s, engine, hrun, hok, hovertaken, no_claim_restored rfl hok⟩

end Sample

end RateGovernor.Safety.RestoredClaims
