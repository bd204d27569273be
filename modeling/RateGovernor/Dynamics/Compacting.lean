import RateGovernor.Dynamics.Snapshots
import RateGovernor.Dynamics.Transactions

namespace RateGovernor.Dynamics.Compacting

open Model.CheckedMath Model.Reason Model.Journal Model.JournalWriter Model.EngineState
open Model.Durability Foundation.ByteCodec Foundation.KeyedTable Framing Commits Transactions
open Records Snapshots

variable {journal : JournalFile} {snapshot : List (JournalRecordType × Bytes)} {io : Io}

section Writing

theorem writeSnapshot_ok {bound : ℕ} {records : List JournalRecord} {written compacted : Bytes}
    {io io' : Io} (h : writeSnapshot bound records written io = (.ok compacted, io')) :
    compacted = written ++ records.flatMap frame := by
  induction records generalizing written io with
  | nil =>
    cases h
    rw [List.flatMap_nil, List.append_nil]
  | cons record records ih =>
    unfold writeSnapshot at h
    simp only at h
    split at h
    · cases h
    · next hencoded =>
      split at h
      · cases h
      · rw [ih h, (encodeJournalRecord_eq hencoded).1, List.append_assoc, List.flatMap_cons]

def overSnapshot (journal : JournalFile) (snapshot : List (JournalRecordType × Bytes))
    (compacted : Bytes) : JournalFile :=
  { journal with
    file := compacted
    sizeBytes := UInt64.ofNat compacted.length
    lastSequence := UInt64.ofNat (snapshot.length + 2)
    recordCount := UInt64.ofNat snapshot.length + 3 }

theorem replace_ok {compacted : Bytes} {result : Written}
    (hresult : journal.replace snapshot compacted io = result) (h : result.failure = none) :
    result.journal = overSnapshot journal snapshot compacted := by
  unfold JournalFile.replace at hresult
  split at hresult
  · split at hresult <;> (subst hresult; cases h)
  · split at hresult
    · subst hresult
      cases h
    · subst hresult
      rfl

/-- The file of a compaction, once it has been put in the place of the log. -/
def compactedFile (snapshot : List (JournalRecordType × Bytes)) : Bytes :=
  (compactedRecords snapshot).flatMap frame

theorem compactWith_ok {result : Written} (hresult : journal.compactWith snapshot io = result)
    (h : result.failure = none) : journal.isOpen = true ∧ journal.txnOpen = false ∧
      result.journal = overSnapshot journal snapshot (compactedFile snapshot) := by
  unfold JournalFile.compactWith at hresult
  split at hresult
  · subst hresult
    cases h
  · next hopen =>
    split at hresult
    · subst hresult
      cases h
    · next hclosed =>
      refine ⟨by simpa using hopen, Bool.eq_false_of_not_eq_true hclosed, ?_⟩
      split at hresult
      · subst hresult
        cases h
      · split at hresult
        · subst hresult
          cases h
        · subst hresult
          cases h
        · next hwritten =>
          rw [writeSnapshot_ok hwritten] at hresult
          exact replace_ok hresult h

/-- A compaction leaves the journal alone, closes it, or puts the snapshot in its place. -/
theorem compactWith_cases {result : Written}
    (hresult : journal.compactWith snapshot io = result) :
    result.journal = journal ∨
    (result.journal.isOpen = false ∧ (∃ failure, result.failure = some failure) ∧
      (result.journal.file = journal.file ∨ result.journal.file = compactedFile snapshot)) ∨
    (journal.txnOpen = false ∧
      result.journal = overSnapshot journal snapshot (compactedFile snapshot)) := by
  cases hfailure : result.failure with
  | none =>
    obtain ⟨-, hclosed, hjournal⟩ := compactWith_ok hresult hfailure
    exact .inr (.inr ⟨hclosed, hjournal⟩)
  | some failure =>
    unfold JournalFile.compactWith at hresult
    split at hresult
    · subst hresult
      exact .inl rfl
    · split at hresult
      · subst hresult
        exact .inl rfl
      · split at hresult
        · subst hresult
          exact .inl rfl
        · split at hresult
          · subst hresult
            exact .inl rfl
          · subst hresult
            exact .inl rfl
          · next hwritten =>
            rw [writeSnapshot_ok hwritten, List.nil_append] at hresult
            unfold JournalFile.replace at hresult
            repeat' split at hresult
            all_goals subst hresult
            · exact .inr (.inl ⟨rfl, ⟨_, rfl⟩, .inl rfl⟩)
            · exact .inl rfl
            · exact .inr (.inl ⟨rfl, ⟨_, rfl⟩, .inr rfl⟩)
            · cases hfailure

end Writing

section Committing

variable {config : EngineConfig} {tables : Tables} {durability : Durability}
  {records : List (JournalRecordType × Bytes)}

/-- A commit that counts a compaction leaves a snapshot of the tables, or a journal that failed. -/
theorem compacted_of_maybeCompact
    (h : (maybeCompact config tables durability journal io).1.compactions ≠ durability.compactions) :
    fileOf (maybeCompact config tables durability journal io).1 =
      compactedFile (buildSnapshotRecords config tables) := by
  unfold maybeCompact at h ⊢
  split at h
  · exact absurd rfl h
  · next hopen =>
    rw [if_neg hopen]
    split at h
    · exact absurd rfl h
    · next hlarge =>
      rw [if_neg hlarge]
      simp only at h ⊢
      cases hfailure : (journal.compactWith (buildSnapshotRecords config tables) io).failure with
      | some failure =>
        simp only [hfailure] at h
        exact absurd rfl h
      | none =>
        obtain ⟨-, -, hjournal⟩ := compactWith_ok rfl hfailure
        simp only
        rw [hjournal]
        rfl

theorem compacted_of_commitRecords
    (h : (commitRecords config tables durability records io).durability.compactions ≠
      durability.compactions) :
    fileOf (commitRecords config tables durability records io).durability =
      compactedFile (buildSnapshotRecords config tables) := by
  unfold commitRecords at h ⊢
  split at h
  · exact absurd rfl h
  · next hstrict =>
    rw [if_neg hstrict]
    split at h
    · exact absurd rfl h
    · next hhealthy =>
      rw [if_neg hhealthy]
      cases hjournal : durability.journal with
      | none =>
        simp only [hjournal] at h
        exact absurd rfl h
      | some journal =>
        simp only [hjournal] at h ⊢
        split at h
        · exact absurd rfl h
        · next hopen =>
          rw [if_neg hopen]
          split at h
          · exact absurd rfl h
          · next hrecords =>
            rw [if_neg hrecords]
            cases hfailure :
                (writeTransaction journal durability.nextTxnId records io).failure with
            | some failure =>
              simp only [hfailure] at h
              exact absurd rfl h
            | none =>
              simp only [hfailure] at h ⊢
              exact compacted_of_maybeCompact h

end Committing

section Scanning

/-! The records around the snapshot in a compacted file. -/

def compactedHeader : JournalRecord :=
  { type := .fileHeader, sequence := 0, txnId := 0, payload := bannerPayload }

def compactedBegin : JournalRecord :=
  { type := .txnBegin, sequence := 1, txnId := 1, payload := putU64 1 }

def compactedCommit (snapshot : List (JournalRecordType × Bytes)) : JournalRecord :=
  { type := .txnCommit, sequence := UInt64.ofNat (snapshot.length + 2), txnId := 1
    payload := commitPayload 1 (UInt64.ofNat snapshot.length)
      (UInt64.ofNat (snapshot.map (·.2.length)).sum) }

def snapshotRecords (snapshot : List (JournalRecordType × Bytes)) : List JournalRecord :=
  (snapshot.zipIdx 2).map fun (entry, sequence) ↦
    { type := entry.1, sequence := UInt64.ofNat sequence, txnId := 1, payload := entry.2 }

theorem content_snapshotRecords (snapshot : List (JournalRecordType × Bytes)) :
    (snapshotRecords snapshot).map content = snapshot := by
  rw [snapshotRecords, List.map_map]
  exact List.zipIdx_map_fst 2 snapshot

theorem mem_snapshotRecords {record : JournalRecord} (h : record ∈ snapshotRecords snapshot) :
    record.txnId = 1 ∧ content record ∈ snapshot := by
  refine ⟨?_, ?_⟩
  · obtain ⟨⟨entry, sequence⟩, -, rfl⟩ := List.mem_map.1 h
    rfl
  · rw [← content_snapshotRecords snapshot]
    exact List.mem_map_of_mem h

theorem compactedRecords_eq (snapshot : List (JournalRecordType × Bytes)) :
    compactedRecords snapshot =
      compactedHeader :: compactedBegin :: (snapshotRecords snapshot ++ [compactedCommit snapshot]) :=
  rfl

theorem fits_compacted (hfits : ∀ entry ∈ snapshot, entry.2.length ≤ kScanPayloadBound)
    {record : JournalRecord} (h : record ∈ compactedRecords snapshot) : Fits record := by
  rw [compactedRecords_eq, List.mem_cons, List.mem_cons, List.mem_append, List.mem_singleton] at h
  obtain rfl | rfl | hmem | rfl := h
  · exact Nat.le_of_ble_eq_true rfl
  · exact Nat.le_of_ble_eq_true rfl
  · exact hfits _ (mem_snapshotRecords hmem).2
  · have hsize := recordSize_commitPayload 1 (UInt64.ofNat snapshot.length)
      (UInt64.ofNat (snapshot.map (·.2.length)).sum)
    simp only [recordSize, kJournalRecordHeaderSize] at hsize
    simp only [Fits, kScanPayloadBound, compactedCommit]
    omega

theorem scan_compacted (hplain : ∀ entry ∈ snapshot, Plain entry.1)
    (hfits : ∀ entry ∈ snapshot, entry.2.length ≤ kScanPayloadBound) :
    ∃ scan, Clean (compactedFile snapshot) scan ∧ scan.result.status = .ok ∧
      Follows [compactedHeader] snapshot scan.result.committed := by
  have hheader : ∃ scan, ({} : Scan).accept compactedHeader = some scan ∧
      Follows [compactedHeader] [] scan.result.committed := ⟨_, rfl, [], rfl, rfl⟩
  have htxn : (1 : U64) ≠ 0 := by decide
  obtain ⟨opened, hopened, hbase⟩ := hheader
  obtain ⟨begun, hbegun, hinside⟩ :=
    accept_begin hbase htxn (show compactedBegin.txnId = 1 from rfl) rfl
  obtain ⟨filled, hfilled, hinside'⟩ := acceptAll_plain hinside htxn
    fun record hmem ↦ ⟨(mem_snapshotRecords hmem).1, hplain _ (mem_snapshotRecords hmem).2⟩
  obtain ⟨scan, hcommit, hdone⟩ :=
    accept_commit hinside' htxn (show (compactedCommit snapshot).txnId = 1 from rfl) rfl
  have haccept : acceptAll {} (compactedRecords snapshot) = some scan := by
    rw [compactedRecords_eq, acceptAll, hopened, Option.bind_some, acceptAll, hbegun,
      Option.bind_some, acceptAll_append, hfilled, Option.bind_some, acceptAll, hcommit]
    rfl
  rw [List.nil_append, List.nil_append, content_snapshotRecords] at hdone
  exact ⟨scan, clean_nil.frames (fun _ hmem ↦ fits_compacted hfits hmem) haccept,
    acceptAll_status haccept, hdone⟩

end Scanning

section Completing

theorem writeSnapshot_done {bound : ℕ} {records : List JournalRecord} (written : Bytes)
    (hfits : ∀ record ∈ records, Fits record ∧ record.payload.length ≤ bound) :
    writeSnapshot bound records written [] = (.ok (written ++ records.flatMap frame), []) := by
  induction records generalizing written with
  | nil => rw [List.flatMap_nil, List.append_nil]; rfl
  | cons record records ih =>
    obtain ⟨hrecord, hbound⟩ := hfits record List.mem_cons_self
    unfold writeSnapshot
    simp only [encodeJournalRecord_of_fits hrecord hbound, if_neg (frame_ne_nil record),
      List.tail_nil]
    rw [ih _ fun other hmem ↦ hfits other (List.mem_cons_of_mem _ hmem), List.append_assoc,
      List.flatMap_cons]

theorem compactWith_done (hopen : journal.isOpen = true) (hclosed : journal.txnOpen = false)
    (hbound : journal.config.maxPayloadBytes.toNat = kScanPayloadBound)
    (hfits : ∀ entry ∈ snapshot, entry.2.length ≤ kScanPayloadBound) :
    journal.compactWith snapshot [] =
      ⟨overSnapshot journal snapshot (compactedFile snapshot), none, []⟩ := by
  have hrecords : ∀ record ∈ compactedRecords snapshot, Fits record ∧
      record.payload.length ≤ journal.config.maxPayloadBytes.toNat := by
    intro record hmem
    have hfit := fits_compacted hfits hmem
    exact ⟨hfit, hbound ▸ hfit⟩
  unfold JournalFile.compactWith
  rw [if_neg (by rw [hopen]; exact nofun), if_neg (by rw [hclosed]; exact nofun)]
  simp only [List.tail_nil, writeSnapshot_done [] hrecords]
  rfl

theorem compactedFile_length_ge (snapshot : List (JournalRecordType × Bytes)) :
    snapshot.length * kJournalRecordHeaderSize ≤ (compactedFile snapshot).length := by
  have hframes (records : List JournalRecord) :
      records.length * kJournalRecordHeaderSize ≤ (records.flatMap frame).length := by
    induction records with
    | nil => exact Nat.le_of_eq (Nat.zero_mul _)
    | cons record records ih =>
      rw [List.length_cons, Nat.succ_mul, List.flatMap_cons, List.length_append, frame_length]
      omega
  refine Nat.le_trans (Nat.mul_le_mul_right _ ?_) (hframes (compactedRecords snapshot))
  have hlength := congrArg List.length (content_snapshotRecords snapshot)
  rw [List.length_map] at hlength
  rw [compactedRecords_eq, List.length_cons, List.length_cons, List.length_append, hlength]
  omega

end Completing

section Replaying

variable {config : EngineConfig} {tables : Tables} {boot}

def replayed (config : EngineConfig) (replay : Replay)
    (contents : List (JournalRecordType × Bytes)) : Replay :=
  contents.foldl (fun replay entry ↦ replay.record config entry.1 entry.2) replay

theorem applySnapshotRecords_eq (config : EngineConfig) (replay : Replay)
    (records : List JournalRecord) :
    applySnapshotRecords config replay records = replayed config replay (records.map content) := by
  rw [applySnapshotRecords, replayed, List.foldl_map]
  rfl

theorem replayed_append (replay : Replay) (contents more : List (JournalRecordType × Bytes)) :
    replayed config replay (contents ++ more) =
      replayed config (replayed config replay contents) more :=
  List.foldl_append

theorem replayed_staged (replay : Replay) {records : List Staged}
    (h : ∀ record ∈ records, Staged.Replayable record) :
    replayed config replay (records.map (Staged.record boot)) =
      restoreAll config replay (records.map Staged.kept) := by
  induction records generalizing replay with
  | nil => rfl
  | cons record records ih =>
    have hrest := ih (Replay.restore config replay (Staged.kept record))
      fun other hmem ↦ h other (List.mem_cons_of_mem _ hmem)
    rw [← record_staged (h record List.mem_cons_self)] at hrest
    exact hrest.trans (by rw [record_staged (h record List.mem_cons_self)]; rfl)

theorem plain_of_listed {staged : Staged} (h : Listed tables staged) :
    Plain (staged.record boot).1 := by
  cases h <;> exact ⟨nofun, nofun⟩

def TextsFit (tables : Tables) : Prop :=
  ∀ staged ∈ Tables.snapshot tables, Staged.TextsFit staged

instance : (staged : Staged) → Decidable (Staged.TextsFit staged)
  | .flow _ | .grant _ _ | .reservation _ _ | .policy _ _ | .resource _ _ | .created _
  | .attempt _ _ => inferInstanceAs (Decidable (_ ≤ _))
  | .backend _ | .envelope _ _ => inferInstanceAs (Decidable (_ ≤ _ ∧ _ ≤ _))
  | .epoch _ _ => isTrue trivial

instance (tables : Tables) : Decidable (TextsFit tables) :=
  inferInstanceAs (Decidable (∀ staged ∈ Tables.snapshot tables, _))

theorem kept_snapshot (h : Snapshotable config tables) (htexts : TextsFit tables) :
    (Tables.snapshot tables).map Staged.kept = Tables.snapshot tables := by
  refine (List.map_congr_left fun staged hmem ↦ ?_).trans (List.map_id _)
  refine kept_eq (htexts staged hmem) fun envelope henvelope ↦ ?_
  cases mem_snapshot.1 hmem with
  | envelope hv =>
    cases henvelope
    exact h.planless _ envelope (Registry.mem_entries.1 hv)
  | _ => cases henvelope

/-- Replaying the records of a snapshot rebuilds the tables it was taken from. -/
theorem replayed_snapshot (h : Snapshotable config tables) (htexts : TextsFit tables) :
    Rebuilt config tables
      (replayed config (.fresh config) (buildSnapshotRecords config tables)) := by
  unfold buildSnapshotRecords
  rw [replayed_staged _ fun record hmem ↦ replayable_of_listed (mem_snapshot.1 hmem),
    kept_snapshot h htexts]
  exact restoreAll_snapshot h

theorem snapshot_entries {entry : JournalRecordType × Bytes}
    (h : entry ∈ buildSnapshotRecords config tables) :
    Plain entry.1 ∧ entry.2.length ≤ kScanPayloadBound := by
  obtain ⟨staged, hstaged, rfl⟩ := List.mem_map.1 h
  exact ⟨plain_of_listed (mem_snapshot.1 hstaged), record_length_le _ staged⟩

theorem rebuilt_compacted (h : Snapshotable config tables) (htexts : TextsFit tables)
    (hsize : (compactedFile (buildSnapshotRecords config tables)).length ≤ kJournalMaxScanBytes) :
    (scanJournalFile (compactedFile (buildSnapshotRecords config tables))).ok = true ∧
      Rebuilt config tables (applySnapshotRecords config (.fresh config)
        (scanJournalFile (compactedFile (buildSnapshotRecords config tables))).committed) := by
  obtain ⟨scan, hclean, hstatus, hfollows⟩ := scan_compacted
    (fun _ hmem ↦ (snapshot_entries hmem).1) fun _ hmem ↦ (snapshot_entries hmem).2
  obtain ⟨-, -, hcommitted, hok⟩ := finish_tail scan
  rw [scanJournalFile_of_clean hclean hsize, hcommitted, applySnapshotRecords_eq,
    hfollows.contents]
  exact ⟨hok.2 (.inl hstatus), replayed_snapshot h htexts⟩

end Replaying

end RateGovernor.Dynamics.Compacting
