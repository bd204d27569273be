import RateGovernor.Dynamics.Torn

namespace RateGovernor.Dynamics.Rereading

open Model.CheckedMath Model.Reason Model.Journal Model.JournalWriter Model.EngineState
open Model.Durability Model.Maintenance Model.Recovery Foundation.ByteCodec Framing Commits
open Compacting Torn

variable {file : Bytes}

def unplaced (entry : JournalRecordType × Bytes) : JournalRecord :=
  { type := entry.1, sequence := 0, txnId := 0, payload := entry.2 }

theorem highestRecordedEpoch_eq (records : List JournalRecord) :
    highestRecordedEpoch ((records.map content).map unplaced) = highestRecordedEpoch records := by
  unfold highestRecordedEpoch
  rw [List.map_map, List.foldl_map]
  rfl

/-- What a recovery makes of a file, given the records a scan of it returns. -/
def recoverFrom (config : EngineConfig) (records : List JournalRecord) (file : Bytes)
    (demotedNs advancedNs : U64) : Io → Except Error Engine
  | .failed _ :: _ => .error reopenFailure
  | io =>
    let effective := effectiveConfig config records
    let built := reopened effective file io.tail
    let engine := restored built.1 records
    let actor := recoveryActor engine.tables.epoch effective.boot
    let demoted := (demoteForRecovery engine actor demotedNs).perform engine built.2
    match demoted.2.1 with
    | some error => .error error
    | none =>
      let advanced := advancedOnRecovery demoted.1 actor advancedNs demoted.2.2
      match advanced.2.1 with
      | some error => .error error
      | none => .ok advanced.1

theorem restored_eq (engine : Engine) (records : List JournalRecord) :
    restored engine ((records.map content).map unplaced) = restored engine records := by
  have hcontents : ((records.map content).map unplaced).map content = records.map content := by
    rw [List.map_map]
    exact List.map_id _
  unfold restored
  rw [applySnapshotRecords_eq, applySnapshotRecords_eq, hcontents]

/-- A recovery depends on what the records of a file say, and not on where they stand in it. -/
theorem recoverEngine_eq (hok : (scanJournalFile file).ok = true) (config : EngineConfig)
    (demotedNs advancedNs : U64) (io : Io) :
    recoverEngine config file demotedNs advancedNs io =
      recoverFrom config ((recordsIn file).map unplaced) file demotedNs advancedNs io := by
  have heffective : effectiveConfig config ((recordsIn file).map unplaced) =
      effectiveConfig config (scanJournalFile file).committed := by
    rw [← recordsIn_of_ok hok]
    unfold effectiveConfig
    rw [highestRecordedEpoch_eq]
  have hrestored (engine : Engine) : restored engine ((recordsIn file).map unplaced) =
      restored engine (scanJournalFile file).committed := by
    rw [← recordsIn_of_ok hok]
    exact restored_eq engine _
  have hcommitted : recoverFrom config ((recordsIn file).map unplaced) file demotedNs advancedNs io =
      recoverFrom config (scanJournalFile file).committed file demotedNs advancedNs io := by
    simp only [recoverFrom, heffective, hrestored]
  rw [hcommitted]
  exact if_neg (by rw [hok]; exact Bool.false_ne_true)

theorem recoverEngine_compacted {snapshot : List (JournalRecordType × Bytes)}
    (hplain : ∀ entry ∈ snapshot, Plain entry.1)
    (hfits : ∀ entry ∈ snapshot, entry.2.length ≤ kScanPayloadBound)
    (hsize : (compactedFile snapshot).length ≤ kJournalMaxScanBytes) (config : EngineConfig)
    (demotedNs advancedNs : U64) (io : Io) :
    recoverEngine config (compactedFile snapshot) demotedNs advancedNs io =
      recoverFrom config ((content compactedHeader :: snapshot).map unplaced)
        (compactedFile snapshot) demotedNs advancedNs io := by
  obtain ⟨scan, hclean, hstatus, hfollows⟩ := scan_compacted hplain hfits
  obtain ⟨-, -, hcommitted, hok⟩ := finish_tail scan
  have hscan := scanJournalFile_of_clean hclean hsize
  have hscanned : (scanJournalFile (compactedFile snapshot)).ok = true := by
    rw [hscan]
    exact hok.2 (.inl hstatus)
  have hrecords : recordsIn (compactedFile snapshot) = content compactedHeader :: snapshot := by
    rw [← recordsIn_of_ok hscanned, hscan, hcommitted]
    exact hfollows.contents
  rw [recoverEngine_eq hscanned, hrecords]

end RateGovernor.Dynamics.Rereading
