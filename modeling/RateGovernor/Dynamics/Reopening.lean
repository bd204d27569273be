import RateGovernor.Dynamics.Journaling
import RateGovernor.Model.Recovery

namespace RateGovernor.Dynamics.Reopening

open Model.CheckedMath Model.Identity Model.Reason Model.Entities Model.Journal Model.JournalWriter
open Model.EngineState Model.Durability Model.Authority Model.Maintenance Model.Execution
open Model.Envelope Model.RecordCodec Model.EnvelopeCodec Model.Recovery Foundation.ByteCodec
open Foundation.KeyedTable Install Staging Halting Framing
open Commits Journaling

section Stages

variable (config : EngineConfig) (file : Bytes) (demotedNs advancedNs : U64) (io : Io)

/-- The engine over the reopened file, with its banner appended and nothing replayed. -/
def bannered : Engine × Io :=
  reopened (effectiveConfig config (scanJournalFile file).committed) file io.tail

def rebuilt : Engine := restored (bannered config file io).1 (scanJournalFile file).committed

def rebuiltActor : ActorContext := recoveryActor (rebuilt config file io).tables.epoch config.boot

def demotion : Decision Status :=
  demoteForRecovery (rebuilt config file io) (rebuiltActor config file io) demotedNs

def demoted : Engine × Status × Io :=
  (demotion config file demotedNs io).perform (rebuilt config file io) (bannered config file io).2

def advance : Decision Status :=
  advanceEpoch (demoted config file demotedNs io).1
    ⟨(demoted config file demotedNs io).1.tables.epoch.value + 1⟩ (rebuiltActor config file io)
    advancedNs

def advanced : Engine × Status × Io :=
  advancedOnRecovery (demoted config file demotedNs io).1 (rebuiltActor config file io) advancedNs
    (demoted config file demotedNs io).2.2

def bannerRecord : JournalRecordType × Bytes :=
  Staged.record (bannered config file io).1.config.boot
    (.epoch (bannered config file io).1.tables.epoch .engineShutdown)

def recoveryRecords : List (JournalRecordType × Bytes) :=
  [bannerRecord config file io] ++
  contents (rebuilt config file io) (demotion config file demotedNs io) ++
  if config.advanceEpochOnRecovery then
    contents (demoted config file demotedNs io).1 (advance config file demotedNs advancedNs io)
  else []

def recoverySize : ℕ :=
  transactionSize [bannerRecord config file io] +
  (sectionSize (rebuilt config file io) (demotion config file demotedNs io) +
  if config.advanceEpochOnRecovery then
    sectionSize (demoted config file demotedNs io).1 (advance config file demotedNs advancedNs io)
  else 0)

def restoredAttempt (record : JournalRecord) : Option EnforcementAttempt :=
  match record.type with
  | .attemptCreated | .attemptDispatched | .attemptAcknowledged | .attemptTerminated
  | .attemptVerified | .attemptCompensating => decodePayload decodeAttempt record.payload
  | _ => none

end Stages

variable {config : EngineConfig} {file : Bytes} {demotedNs advancedNs : U64} {io : Io}
  {engine : Engine}

/-- A recovery that succeeds has come through all its stages. -/
theorem recoverEngine_ok (h : recoverEngine config file demotedNs advancedNs io = .ok engine) :
    (scanJournalFile file).ok = true ∧ (demoted config file demotedNs io).2.1 = none ∧
      (advanced config file demotedNs advancedNs io).2.1 = none ∧
      engine = (advanced config file demotedNs advancedNs io).1 := by
  unfold recoverEngine at h
  simp only at h
  split at h
  · cases h
  · next hok =>
    split at h
    · cases h
    · split at h
      · cases h
      · next hdemoted =>
        split at h
        · cases h
        · next hadvanced =>
          cases h
          exact ⟨by simpa using hok, hdemoted, hadvanced, rfl⟩

section Records

variable {now : U64} {actor : ActorContext} {epoch : FabricEpoch} {record : Staged}

theorem demoteForRecovery_records (h : record ∈ (demoteForRecovery engine actor now).records) :
    (∃ attempt ∈ inflightAttempts engine.tables,
      record = .attempt .attemptTerminated (demotedAttempt attempt now)) ∨
    ∃ old ∈ engine.tables.envelopes.entries, ∃ envelope,
      demotedEnvelope old now = some envelope ∧
      record = .envelope .envelopeStateChange envelope := by
  unfold demoteForRecovery at h
  split at h
  · exact nomatch h
  · obtain h | h := List.mem_append.1 h
    · obtain ⟨attempt, hattempt, rfl⟩ := List.mem_map.1 h
      obtain h | h := mem_foldl_mergeBy hattempt
      · obtain ⟨found, hfound, rfl⟩ := List.mem_map.1 h
        exact .inl ⟨found, hfound, rfl⟩
      · exact nomatch h
    · obtain ⟨envelope, henvelope, rfl⟩ := List.mem_map.1 h
      obtain h | h := mem_foldl_mergeBy henvelope
      · obtain ⟨old, hold, hdemoted⟩ := List.mem_filterMap.1 h
        exact .inr ⟨old, hold, envelope, hdemoted, rfl⟩
      · exact nomatch h

theorem advanceEpoch_records (h : record ∈ (advanceEpoch engine epoch actor now).records) :
    record = .epoch epoch .envelopeStaleFabricEpochAdvanced ∨
      ∃ envelope, record = .envelope .envelopeStateChange envelope := by
  unfold advanceEpoch at h
  split at h
  · exact nomatch h
  · split at h
    · exact nomatch h
    · obtain rfl | h := List.mem_cons.1 h
      · exact .inl rfl
      · obtain ⟨envelope, -, rfl⟩ := List.mem_map.1 h
        exact .inr ⟨envelope, rfl⟩

theorem demoteForRecovery_reply {error : Error} :
    (demoteForRecovery engine actor now).reply (some error) ≠ none := by
  unfold demoteForRecovery
  split <;> exact nofun

theorem advanceEpoch_reply {error : Error} :
    (advanceEpoch engine epoch actor now).reply (some error) ≠ none := by
  unfold advanceEpoch
  split
  · exact nofun
  · split <;> exact nofun

theorem demoteForRecovery_plain {content}
    (h : content ∈ contents engine (demoteForRecovery engine actor now)) : Plain content.1 := by
  obtain ⟨record, hrecord, rfl⟩ := List.mem_map.1 h
  obtain ⟨attempt, -, rfl⟩ | ⟨old, -, envelope, -, rfl⟩ := demoteForRecovery_records hrecord
  · exact ⟨nofun, nofun⟩
  · exact ⟨nofun, nofun⟩

theorem advanceEpoch_plain {content}
    (h : content ∈ contents engine (advanceEpoch engine epoch actor now)) : Plain content.1 := by
  obtain ⟨record, hrecord, rfl⟩ := List.mem_map.1 h
  obtain rfl | ⟨envelope, rfl⟩ := advanceEpoch_records hrecord
  · exact ⟨nofun, nofun⟩
  · exact ⟨nofun, nofun⟩

end Records

def RoomToRecover (config : EngineConfig) (file : Bytes) (demotedNs advancedNs : U64) (io : Io) :
    Prop :=
  config.journal.maxBytes = 0 ∨
    file.length + recoverySize config file demotedNs advancedNs io ≤ config.journal.maxBytes.toNat

theorem bannered_eq (config : EngineConfig) (file : Bytes) (io : Io) :
    (bannered config file io).1 =
      { config := (effectiveConfig config (scanJournalFile file).committed).normalized
        tables := (bannered config file io).1.tables
        durability := (commitRecords
          (effectiveConfig config (scanJournalFile file).committed).normalized
          (bannered config file io).1.tables
          { journal := some (JournalFile.reopen config.journal file) }
          [bannerRecord config file io] io.tail).durability } := rfl

theorem logging_reopen (hok : (scanJournalFile file).ok = true)
    (htail : (scanJournalFile file).discardedTruncatedBytes = 0)
    (hbound : config.journal.maxPayloadBytes.toNat ≤ kScanPayloadBound) :
    Logging { journal := some (JournalFile.reopen config.journal file) }
      (scanJournalFile file).committed [] := by
  obtain ⟨scan, hclean, hscan, hstatus⟩ := clean_of_scan hok htail
  refine ⟨rfl, _, scan, rfl, ⟨rfl, hbound, hclean, hstatus⟩, rfl, [], ?_, rfl⟩
  rw [hscan, (finish_tail scan).2.2.1, List.append_nil]

theorem bannered_spec (hok : (scanJournalFile file).ok = true)
    (htail : (scanJournalFile file).discardedTruncatedBytes = 0)
    (hbound : config.journal.maxPayloadBytes.toNat ≤ kScanPayloadBound)
    (hroom : RoomToRecover config file demotedNs advancedNs io) :
    (Logging (bannered config file io).1.durability (scanJournalFile file).committed
      [bannerRecord config file io] ∧
      Roomy (bannered config file io).1.durability
        (recoverySize config file demotedNs advancedNs io -
          transactionSize [bannerRecord config file io])) ∨
    (bannered config file io).1.durability.degraded = true := by
  have hlogging := logging_reopen hok htail hbound
  have hroom : Roomy { journal := some (JournalFile.reopen config.journal file) }
      (transactionSize [bannerRecord config file io] +
        (recoverySize config file demotedNs advancedNs io -
          transactionSize [bannerRecord config file io])) := by
    rintro journal hjournal
    cases hjournal
    refine hroom.imp_right fun hle ↦ ?_
    have hlt := config.journal.maxBytes.toNat_lt
    have hsize : (JournalFile.reopen config.journal file).sizeBytes.toNat = file.length :=
      UInt64.toNat_ofNat_of_lt' (by rw [UInt64.size]; omega)
    rw [hsize]
    refine Nat.le_trans (Nat.le_of_eq ?_) hle
    rw [recoverySize]
    omega
  have hplain : ∀ record ∈ [bannerRecord config file io], Plain record.1 := by
    intro record hmem
    obtain rfl := List.mem_singleton.1 hmem
    exact ⟨nofun, nofun⟩
  rw [bannered_eq]
  obtain ⟨-, hdone⟩ | ⟨⟨error, herror⟩, -⟩ := commitRecords_spec rfl hlogging
    (List.cons_ne_nil _ _) hplain hroom
    (rfl : commitRecords (effectiveConfig config (scanJournalFile file).committed).normalized
      (bannered config file io).1.tables
      { journal := some (JournalFile.reopen config.journal file) }
      [bannerRecord config file io] io.tail = _)
  · exact .inl hdone
  · exact .inr (degraded_of_commitRecords rfl rfl herror)

theorem perform_healthy {ρ : Type} {decision : Decision ρ}
    (hstrict : engine.config.durability = .strict)
    (h : (decision.perform engine io).1.durability.degraded = false) :
    engine.durability.degraded = false := by
  cases hdegraded : engine.durability.degraded with
  | false => rfl
  | true =>
    rw [durability_perform io ⟨hstrict, .inl hdegraded⟩, hdegraded] at h
    cases h

theorem perform_config {ρ : Type} (decision : Decision ρ) (engine : Engine) (io : Io) :
    (decision.perform engine io).1.config = engine.config := by
  unfold Decision.perform
  split
  · rfl
  · simp only
    split <;> rfl

theorem advanceEpoch_attempts {now : U64} {actor : ActorContext} {epoch : FabricEpoch}
    {tables : Tables} :
    (installed engine.config tables (advanceEpoch engine epoch actor now).records).attempts =
      tables.attempts := by
  have hnone : ∀ record ∈ (advanceEpoch engine epoch actor now).records, attempt? record = none := by
    intro record hmem
    obtain rfl | ⟨envelope, rfl⟩ := advanceEpoch_records hmem <;> rfl
  rw [installed_attempts_putAll, Registry.putAll_of_none hnone]
  intro record hmem attempt
  obtain rfl | ⟨envelope, rfl⟩ := advanceEpoch_records hmem <;> exact nofun

section Advance

variable {base : List JournalRecord} {log : List (JournalRecordType × Bytes)}

theorem advanced_spec
    (hconfig : (demoted config file demotedNs io).1.config = (rebuilt config file io).config)
    (hdone : (advanced config file demotedNs advancedNs io).2.1 = none)
    (h : Logging (demoted config file demotedNs io).1.durability base log)
    (hroom : Roomy (demoted config file demotedNs io).1.durability
      (if config.advanceEpochOnRecovery then sectionSize (demoted config file demotedNs io).1
        (advance config file demotedNs advancedNs io) else 0)) :
    Logging (advanced config file demotedNs advancedNs io).1.durability base
      (log ++ if config.advanceEpochOnRecovery then contents (demoted config file demotedNs io).1
        (advance config file demotedNs advancedNs io) else []) ∧
    (advanced config file demotedNs advancedNs io).1.tables.attempts =
      (demoted config file demotedNs io).1.tables.attempts := by
  have hflag : (demoted config file demotedNs io).1.config.advanceEpochOnRecovery =
      config.advanceEpochOnRecovery := by
    rw [hconfig]
    rfl
  unfold advanced advancedOnRecovery at hdone ⊢
  rw [hflag] at hdone ⊢
  split at hdone
  · next hadvance =>
    rw [if_pos hadvance] at hroom
    rw [if_pos hadvance, if_pos hadvance]
    have hstrict : (demoted config file demotedNs io).1.config.durability = .strict := by
      rw [hconfig]
      rfl
    obtain ⟨-, ⟨_, hengine⟩, hlogging, -⟩ | ⟨error, herror⟩ :=
      @perform_spec base log Status (advance config file demotedNs advancedNs io)
        (demoted config file demotedNs io).1 (demoted config file demotedNs io).2.2 hstrict h
        (fun _ ↦ advanceEpoch_plain) 0 hroom
    · refine ⟨hlogging, ?_⟩
      have hattempts := congrArg (·.tables.attempts) hengine
      exact hattempts.trans advanceEpoch_attempts
    · exact absurd (herror.symm.trans hdone) advanceEpoch_reply
  · next hkept =>
    rw [if_neg hkept, if_neg hkept, List.append_nil]
    exact ⟨h, rfl⟩

end Advance

theorem advanced_config : (advanced config file demotedNs advancedNs io).1.config =
    (demoted config file demotedNs io).1.config := by
  unfold advanced advancedOnRecovery
  split
  · exact perform_config _ _ _
  · rfl

theorem advanced_healthy
    (hstrict : (demoted config file demotedNs io).1.config.durability = .strict)
    (h : (advanced config file demotedNs advancedNs io).1.durability.degraded = false) :
    (demoted config file demotedNs io).1.durability.degraded = false := by
  unfold advanced advancedOnRecovery at h
  split at h
  · exact perform_healthy hstrict h
  · exact h

/-- The engine a recovery hands out, and what it has appended to the file by then. -/
structure Recovered (given : EngineConfig) (file : Bytes) (demotedNs advancedNs : U64) (io : Io)
    (engine : Engine) : Prop where
  config : engine.config = (effectiveConfig given (scanJournalFile file).committed).normalized
  logging : Logging engine.durability (scanJournalFile file).committed
    (recoveryRecords given file demotedNs advancedNs io)
  attempts : engine.tables.attempts = (installed (rebuilt given file io).config
    (rebuilt given file io).tables (demotion given file demotedNs io).records).attempts

theorem recovered_spec (h : recoverEngine config file demotedNs advancedNs io = .ok engine)
    (hhealthy : engine.durability.degraded = false)
    (htail : (scanJournalFile file).discardedTruncatedBytes = 0)
    (hbound : config.journal.maxPayloadBytes.toNat ≤ kScanPayloadBound)
    (hroom : RoomToRecover config file demotedNs advancedNs io) :
    Recovered config file demotedNs advancedNs io engine := by
  obtain ⟨hok, hdemoted, hadvanced, rfl⟩ := recoverEngine_ok h
  have hstrict : (rebuilt config file io).config.durability = .strict := rfl
  have hconfig : (demoted config file demotedNs io).1.config = (rebuilt config file io).config :=
    perform_config _ _ _
  obtain ⟨hlogging, hroomy⟩ | hdegraded := bannered_spec hok htail hbound hroom
  · have hsize : recoverySize config file demotedNs advancedNs io -
        transactionSize [bannerRecord config file io] =
        sectionSize (rebuilt config file io) (demotion config file demotedNs io) +
        if config.advanceEpochOnRecovery then sectionSize (demoted config file demotedNs io).1
          (advance config file demotedNs advancedNs io) else 0 := by
      rw [recoverySize, Nat.add_sub_cancel_left]
    rw [hsize] at hroomy
    obtain ⟨-, ⟨_, hengine⟩, hlogging, hroomy⟩ | ⟨error, herror⟩ :=
      @perform_spec _ _ Status (demotion config file demotedNs io) (rebuilt config file io)
        (bannered config file io).2 hstrict hlogging (fun _ ↦ demoteForRecovery_plain) _ hroomy
    · obtain ⟨hlogged, hattempts⟩ := advanced_spec hconfig hadvanced hlogging hroomy
      exact ⟨advanced_config.trans hconfig, hlogged,
        hattempts.trans (congrArg (·.tables.attempts) hengine)⟩
    · exact absurd (herror.symm.trans hdemoted) demoteForRecovery_reply
  · have hdemoted := advanced_healthy (hconfig ▸ hstrict) hhealthy
    have hrebuilt : (rebuilt config file io).durability.degraded = false :=
      perform_healthy hstrict hdemoted
    have hfalse : (bannered config file io).1.durability.degraded = false := hrebuilt
    rw [hdegraded] at hfalse
    cases hfalse

end RateGovernor.Dynamics.Reopening
