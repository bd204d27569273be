import RateGovernor.Dynamics.Framing
import RateGovernor.Model.Durability

namespace RateGovernor.Dynamics.Commits

open Model.CheckedMath Model.Reason Model.Journal Model.JournalWriter Model.EngineState
open Model.Durability Foundation.ByteCodec Framing

def content (record : JournalRecord) : JournalRecordType × Bytes := (record.type, record.payload)

def recordsIn (file : Bytes) : List (JournalRecordType × Bytes) :=
  (scanBytes file {}).result.committed.map content

def firstRecord : JournalRecord :=
  { type := .fileHeader, sequence := 1, txnId := 0, payload := bannerPayload }

/-- A new journal of the configuration when the file system carries out every operation. -/
def newJournal (config : JournalConfig) : JournalFile :=
  (JournalFile.writeRecord { config } .fileHeader 0 bannerPayload []).journal

def Plain (type : JournalRecordType) : Prop := type ≠ .txnBegin ∧ type ≠ .txnCommit

/-- The records are the base followed by new ones that say what is listed. -/
def Follows (base : List JournalRecord) (log : List (JournalRecordType × Bytes))
    (records : List JournalRecord) : Prop :=
  ∃ fresh, records = base ++ fresh ∧ fresh.map content = log

theorem Follows.contents {base records : List JournalRecord}
    {log : List (JournalRecordType × Bytes)} (h : Follows base log records) :
    records.map content = base.map content ++ log := by
  obtain ⟨fresh, rfl, rfl⟩ := h
  exact List.map_append

section Protocol

variable {scan : Scan} {record : JournalRecord} {txn : U64} {base : List JournalRecord}

/-- A scan inside a transaction that has so far held these records. -/
structure Inside (scan : Scan) (txn : U64) (base : List JournalRecord)
    (log pending : List (JournalRecordType × Bytes)) : Prop where
  txn : scan.pendingTxn = txn
  committed : Follows base log scan.result.committed
  pending : scan.pending.map content = pending

theorem accept_begin {log} (h : Follows base log scan.result.committed) (htxn : txn ≠ 0)
    (hid : record.txnId = txn) (htype : record.type = .txnBegin) :
    ∃ scan', scan.accept record = some scan' ∧ Inside scan' txn base log [] := by
  unfold Scan.accept
  simp only [hid, htxn, if_false, htype, if_true]
  exact ⟨_, rfl, rfl, h, rfl⟩

theorem accept_plain {log pending} (h : Inside scan txn base log pending) (htxn : txn ≠ 0)
    (hid : record.txnId = txn) (htype : Plain record.type) :
    ∃ scan', scan.accept record = some scan' ∧
      Inside scan' txn base log (pending ++ [content record]) := by
  unfold Scan.accept
  simp only [hid, htxn, if_false, htype.1, htype.2, h.txn]
  refine ⟨_, rfl, rfl, h.committed, ?_⟩
  rw [List.map_append, h.pending]
  rfl

theorem accept_commit {log pending} (h : Inside scan txn base log pending) (htxn : txn ≠ 0)
    (hid : record.txnId = txn) (htype : record.type = .txnCommit) :
    ∃ scan', scan.accept record = some scan' ∧
      Follows base (log ++ pending) scan'.result.committed := by
  obtain ⟨fresh, hcommitted, hlog⟩ := h.committed
  unfold Scan.accept
  simp only [hid, htxn, if_false, htype, reduceCtorEq, if_true, h.txn, ne_eq, not_true_eq_false]
  refine ⟨_, rfl, fresh ++ scan.pending, ?_, ?_⟩
  · rw [hcommitted, List.append_assoc]
  · rw [List.map_append, hlog, h.pending]

end Protocol

section Writer

variable {journal : JournalFile} {scan scan' : Scan} {type : JournalRecordType} {txn : U64}
  {payload : Bytes} {io : Io}

/-- An open journal whose file the scanner takes apart to its end. -/
structure Sound (journal : JournalFile) (scan : Scan) : Prop where
  isOpen : journal.isOpen = true
  bound : journal.config.maxPayloadBytes.toNat ≤ kScanPayloadBound
  clean : Clean journal.file scan
  status : scan.result.status = .ok

theorem Sound.recordsIn (h : Sound journal scan) :
    recordsIn journal.file = scan.result.committed.map content := by
  rw [Commits.recordsIn, h.clean.scanBytes]

def nextRecord (journal : JournalFile) (type : JournalRecordType) (txn : U64) (payload : Bytes) :
    JournalRecord :=
  { type, sequence := journal.lastSequence + 1, txnId := txn, payload }

def recordSize (payload : Bytes) : ℕ := kJournalRecordHeaderSize + payload.length

theorem recordsIn_partial {record : JournalRecord} (h : Sound journal scan) (hfits : Fits record)
    (haccept : scan.accept record = some scan') (n : ℕ) :
    recordsIn (journal.file ++ (frame record).take n) = scan.result.committed.map content ∨
      recordsIn (journal.file ++ (frame record).take n) = scan'.result.committed.map content := by
  unfold Commits.recordsIn
  rw [h.clean]
  by_cases hn : n < (frame record).length
  · refine .inl ?_
    by_cases hempty : (frame record).take n = []
    · rw [hempty, scanBytes_nil]
    · rw [scanBytes_of_truncated hempty (decode_cut hfits hn)]
      rfl
  · refine .inr ?_
    rw [List.take_of_length_le (Nat.not_lt.1 hn), ← List.append_nil (frame record),
      scanBytes_frame hfits haccept, scanBytes_nil]

theorem writeRecord_spec (h : Sound journal scan)
    (haccept : scan.accept (nextRecord journal type txn payload) = some scan') {result : Written}
    (hresult : journal.writeRecord type txn payload io = result) :
    (result.failure = none ∧ Sound result.journal scan' ∧
      ∃ file recordCount, result.journal = { journal with
        file, recordCount
        sizeBytes := journal.sizeBytes + UInt64.ofNat (recordSize payload)
        lastSequence := journal.lastSequence + 1 }) ∨
    ((∃ failure, result.failure = some failure) ∧
      ∃ file, result.journal = { journal with file } ∧
        (recordsIn file = scan.result.committed.map content ∨
          recordsIn file = scan'.result.committed.map content)) := by
  have hopen : ¬ (!journal.isOpen) = true := by rw [h.isOpen]; exact nofun
  unfold JournalFile.writeRecord at hresult
  rw [if_neg hopen] at hresult
  simp only at hresult
  split at hresult
  · subst hresult
    exact .inr ⟨⟨_, rfl⟩, journal.file, rfl, .inl h.recordsIn⟩
  · next hpayload =>
    split at hresult
    · subst hresult
      exact .inr ⟨⟨_, rfl⟩, journal.file, rfl, .inl h.recordsIn⟩
    · next hencoded =>
      obtain ⟨hframe, -⟩ := encodeJournalRecord_eq hencoded
      have hfits : Fits (nextRecord journal type txn payload) :=
        Nat.le_trans (Nat.not_lt.1 hpayload) h.bound
      rw [hframe] at hresult
      split at hresult
      · subst hresult
        exact .inr ⟨⟨_, rfl⟩, _, rfl, recordsIn_partial h hfits haccept _⟩
      · subst hresult
        refine .inl ⟨rfl, ⟨h.isOpen, h.bound, h.clean.frame hfits haccept, ?_⟩,
          journal.file ++ frame (nextRecord journal type txn payload), journal.recordCount + 1, ?_⟩
        · rw [(accept_tail haccept).2]
          exact h.status
        · simp only [frame_length]
          rfl

variable {base : List JournalRecord} {log pending records : List (JournalRecordType × Bytes)}

structure Writing (journal : JournalFile) (txn : U64) (base : List JournalRecord)
    (log pending : List (JournalRecordType × Bytes)) (size : ℕ) (origin : JournalFile) :
    Prop where
  sound : ∃ scan, Sound journal scan ∧ Inside scan txn base log pending
  txnOpen : journal.txnOpen = true
  txnId : journal.txnId = txn
  nonzero : txn ≠ 0
  config : journal.config = origin.config
  size : journal.sizeBytes = origin.sizeBytes + UInt64.ofNat size

/-- A failed write leaves a file with the old records, or with those of the transaction too. -/
def Failed (result : Written) (base : List JournalRecord)
    (log records : List (JournalRecordType × Bytes)) : Prop :=
  (∃ failure, result.failure = some failure) ∧
    (recordsIn result.journal.file = base.map content ++ log ∨
      recordsIn result.journal.file = base.map content ++ (log ++ records))

theorem recordSize_putU64 (txn : U64) : recordSize (putU64 txn) = 44 := by
  rw [recordSize, putU64_length]
  rfl

theorem recordSize_commitPayload (a b c : U64) : recordSize (commitPayload a b c) = 60 := by
  simp only [recordSize, commitPayload, List.length_flatten, List.map_cons, List.map_nil,
    putU64_length, List.sum_cons, List.sum_nil]
  rfl

theorem begin_spec (h : Sound journal scan) (hlog : Follows base log scan.result.committed)
    (hclosed : journal.txnOpen = false) {result : Written}
    (hresult : journal.begin txn io = result) (records : List (JournalRecordType × Bytes)) :
    (result.failure = none ∧ Writing result.journal txn base log [] 44 journal) ∨
      Failed result base log records := by
  unfold JournalFile.begin at hresult
  rw [if_neg (by rw [h.isOpen]; exact nofun), if_neg (by rw [hclosed]; exact nofun)] at hresult
  split at hresult
  · subst hresult
    exact .inr ⟨⟨_, rfl⟩, .inl (h.recordsIn.trans hlog.contents)⟩
  · next htxn =>
    obtain ⟨scan', haccept, hinside⟩ := @accept_begin scan
      (nextRecord journal .txnBegin txn (putU64 txn)) txn base log hlog htxn rfl rfl
    obtain ⟨hok, hsound, file, count, hjournal⟩ | ⟨⟨failure, hfailure⟩, file, hjournal, hfile⟩ :=
      writeRecord_spec h haccept
        (rfl : journal.writeRecord .txnBegin txn (putU64 txn) io = _)
    · simp only [hok] at hresult
      subst hresult
      refine .inl ⟨rfl, ⟨scan', ⟨hsound.isOpen, hsound.bound, hsound.clean, hsound.status⟩,
        hinside⟩, rfl, rfl, htxn, ?_, ?_⟩
      · simp only [hjournal]
      · simp only [hjournal, recordSize_putU64]
    · simp only [hfailure] at hresult
      subst hresult
      refine .inr ⟨⟨failure, hfailure⟩, .inl ?_⟩
      rw [hjournal]
      obtain hfile | hfile := hfile
      · exact hfile.trans hlog.contents
      · exact hfile.trans hinside.committed.contents

theorem append_spec {size : ℕ} {origin : JournalFile}
    (h : Writing journal txn base log pending size origin)
    (htype : Plain type) {result : Written} (hresult : journal.append type payload io = result)
    (records : List (JournalRecordType × Bytes)) :
    (result.failure = none ∧ Writing result.journal txn base log (pending ++ [(type, payload)])
      (size + recordSize payload) origin) ∨ Failed result base log records := by
  obtain ⟨scan, hsound, hinside⟩ := h.sound
  unfold JournalFile.append at hresult
  rw [if_neg (by rw [hsound.isOpen]; exact nofun), if_neg (by rw [h.txnOpen]; exact nofun),
    h.txnId] at hresult
  obtain ⟨scan', haccept, hinside'⟩ := @accept_plain scan
    (nextRecord journal type txn payload) txn base _ _ hinside h.nonzero rfl htype
  obtain ⟨hok, hsound', file, count, hjournal⟩ | ⟨⟨failure, hfailure⟩, file, hjournal, hfile⟩ :=
    writeRecord_spec hsound haccept (rfl : journal.writeRecord type txn payload io = _)
  · simp only [hok] at hresult
    subst hresult
    refine .inl ⟨rfl, ⟨scan', ⟨hsound'.isOpen, hsound'.bound, hsound'.clean, hsound'.status⟩,
      hinside'⟩, ?_, ?_, h.nonzero, ?_, ?_⟩
    · simp only [hjournal, h.txnOpen]
    · simp only [hjournal, h.txnId]
    · simp only [hjournal, h.config]
    · simp only [hjournal, h.size, UInt64.ofNat_add, UInt64.add_assoc]
  · simp only [hfailure] at hresult
    subst hresult
    refine .inr ⟨⟨failure, hfailure⟩, .inl ?_⟩
    rw [hjournal]
    obtain hfile | hfile := hfile
    · exact hfile.trans hinside.committed.contents
    · exact hfile.trans hinside'.committed.contents

def bodySize (records : List (JournalRecordType × Bytes)) : ℕ :=
  (records.map fun record ↦ recordSize record.2).sum

theorem appendAll_spec {size : ℕ} {origin : JournalFile}
    (h : Writing journal txn base log pending size origin)
    (hplain : ∀ record ∈ records, Plain record.1) {result : Written}
    (hresult : appendAll records journal io = result)
    (all : List (JournalRecordType × Bytes)) :
    (result.failure = none ∧ Writing result.journal txn base log (pending ++ records)
      (size + bodySize records) origin) ∨ Failed result base log all := by
  induction records generalizing journal pending size io with
  | nil =>
    subst hresult
    refine .inl ⟨rfl, ?_⟩
    rw [List.append_nil]
    exact h
  | cons record records ih =>
    obtain ⟨type, payload⟩ := record
    unfold appendAll at hresult
    obtain ⟨hok, hwriting⟩ | ⟨⟨failure, hfailure⟩, hfile⟩ :=
      append_spec h (hplain _ List.mem_cons_self) (rfl : journal.append type payload io = _) all
    · simp only [hok] at hresult
      have hrest := ih hwriting (fun r hr ↦ hplain r (List.mem_cons_of_mem _ hr)) hresult
      rw [List.append_assoc, Nat.add_assoc] at hrest
      exact hrest
    · simp only [hfailure] at hresult
      subst hresult
      exact .inr ⟨⟨failure, hfailure⟩, hfile⟩

theorem commit_spec {size : ℕ} {origin : JournalFile}
    (h : Writing journal txn base log pending size origin)
    {result : Written} (hresult : journal.commit io = result) :
    (result.failure = none ∧ (∃ scan, Sound result.journal scan ∧
      Follows base (log ++ pending) scan.result.committed) ∧
      result.journal.txnOpen = false ∧ result.journal.config = origin.config ∧
      result.journal.sizeBytes = origin.sizeBytes + UInt64.ofNat (size + 60)) ∨
      Failed result base log pending := by
  obtain ⟨scan, hsound, hinside⟩ := h.sound
  unfold JournalFile.commit at hresult
  rw [if_neg (by rw [hsound.isOpen]; exact nofun), if_neg (by rw [h.txnOpen]; exact nofun),
    h.txnId] at hresult
  simp only at hresult
  obtain ⟨scan', haccept, hcommitted⟩ := @accept_commit scan (nextRecord journal .txnCommit txn
    (commitPayload txn journal.txnRecordCount journal.txnBytes)) txn base _ _ hinside h.nonzero
    rfl rfl
  obtain ⟨hok, hsound', file, count, hjournal⟩ | ⟨⟨failure, hfailure⟩, file, hjournal, hfile⟩ :=
    writeRecord_spec hsound haccept (rfl : journal.writeRecord .txnCommit txn
      (commitPayload txn journal.txnRecordCount journal.txnBytes) io = _)
  · simp only [hok] at hresult
    split at hresult
    · subst hresult
      exact .inr ⟨⟨_, rfl⟩, .inr (hsound'.recordsIn.trans hcommitted.contents)⟩
    · subst hresult
      refine .inl ⟨rfl, ⟨scan', ⟨hsound'.isOpen, hsound'.bound, hsound'.clean, hsound'.status⟩,
        hcommitted⟩, rfl, ?_, ?_⟩
      · simp only [JournalFile.closeTxn, hjournal, h.config]
      · simp only [JournalFile.closeTxn, hjournal, h.size, UInt64.ofNat_add, UInt64.add_assoc,
          recordSize_commitPayload]
  · simp only [hfailure] at hresult
    subst hresult
    refine .inr ⟨⟨failure, hfailure⟩, ?_⟩
    rw [hjournal]
    obtain hfile | hfile := hfile
    · exact .inl (hfile.trans hinside.committed.contents)
    · exact .inr (hfile.trans hcommitted.contents)

end Writer

section Transactions

variable {journal : JournalFile} {scan : Scan} {txn : U64} {io : Io} {base : List JournalRecord}
  {records log : List (JournalRecordType × Bytes)}

/-- How many bytes a transaction takes, its first and last record included. -/
def transactionSize (records : List (JournalRecordType × Bytes)) : ℕ := 104 + bodySize records

theorem writeTransaction_spec (h : Sound journal scan)
    (hlog : Follows base log scan.result.committed) (hclosed : journal.txnOpen = false)
    (hplain : ∀ record ∈ records, Plain record.1) {result : Written}
    (hresult : writeTransaction journal txn records io = result) :
    (result.failure = none ∧ (∃ scan', Sound result.journal scan' ∧
      Follows base (log ++ records) scan'.result.committed) ∧
      result.journal.txnOpen = false ∧ result.journal.config = journal.config ∧
      result.journal.sizeBytes = journal.sizeBytes + UInt64.ofNat (transactionSize records)) ∨
      Failed result base log records := by
  have rolled {written : Written} {failure : JournalFailure}
      (hfailed : Failed written base log records) :
      Failed ⟨written.journal.rollback, some failure, written.io⟩ base log records := by
    refine ⟨⟨failure, rfl⟩, ?_⟩
    have hfile : written.journal.rollback.file = written.journal.file := by
      unfold JournalFile.rollback
      split <;> rfl
    rw [hfile]
    exact hfailed.2
  unfold writeTransaction at hresult
  simp only at hresult
  obtain ⟨hopened, hwriting⟩ | hfailed :=
    begin_spec h hlog hclosed (rfl : journal.begin txn io = _) records
  · simp only [hopened] at hresult
    obtain ⟨hstaged, hwriting'⟩ | hfailed := appendAll_spec hwriting hplain
      (rfl : appendAll records (journal.begin txn io).journal (journal.begin txn io).io = _) records
    · simp only [hstaged] at hresult
      obtain ⟨hok, hsound, htxn, hconfig, hsize⟩ | hfailed := commit_spec hwriting' hresult
      · refine .inl ⟨hok, hsound, htxn, hconfig, hsize.trans ?_⟩
        rw [transactionSize]
        congr 2
        omega
      · exact .inr hfailed
    · obtain ⟨failure, hfailure⟩ := hfailed.1
      simp only [hfailure] at hresult
      subst hresult
      exact .inr (rolled hfailed)
  · obtain ⟨failure, hfailure⟩ := hfailed.1
    simp only [hfailure] at hresult
    subst hresult
    exact .inr (rolled hfailed)

/-- The journal is in working order and a scan of its file returns the base and these records. -/
structure Logging (durability : Durability) (base : List JournalRecord)
    (log : List (JournalRecordType × Bytes)) : Prop where
  healthy : durability.degraded = false
  sound : ∃ journal scan, durability.journal = some journal ∧ Sound journal scan ∧
    journal.txnOpen = false ∧ Follows base log scan.result.committed

def Roomy (durability : Durability) (size : ℕ) : Prop :=
  ∀ journal, durability.journal = some journal → journal.config.maxBytes = 0 ∨
    journal.sizeBytes.toNat + size ≤ journal.config.maxBytes.toNat

def fileOf (durability : Durability) : Bytes :=
  (durability.journal.map (·.file)).getD []

variable {config : EngineConfig} {tables : Tables} {durability : Durability}

theorem Logging.recordsIn (h : Logging durability base log) :
    recordsIn (fileOf durability) = base.map content ++ log := by
  obtain ⟨journal, scan, hjournal, hsound, -, hlog⟩ := h.sound
  rw [fileOf, hjournal]
  exact hsound.recordsIn.trans hlog.contents

theorem maybeCompact_of_fits (hopen : journal.isOpen = true)
    (hfits : journal.config.maxBytes = 0 ∨ journal.sizeBytes ≤ journal.config.maxBytes) :
    maybeCompact config tables durability journal io =
      ({ durability with journal := some journal }, io) := by
  unfold maybeCompact
  rw [if_neg (by rw [hopen]; exact nofun), if_pos]
  simpa only [Bool.or_eq_true, decide_eq_true_eq] using hfits

/-- A transaction that finds room is appended, or the journal fails with it half written. -/
theorem commitRecords_spec (hstrict : config.durability = .strict) (h : Logging durability base log)
    (hrecords : records ≠ []) (hplain : ∀ record ∈ records, Plain record.1) {more : ℕ}
    (hroom : Roomy durability (transactionSize records + more)) {result : Committed}
    (hresult : commitRecords config tables durability records io = result) :
    (result.status = none ∧ Logging result.durability base (log ++ records) ∧
      Roomy result.durability more) ∨
    ((∃ error, result.status = some error) ∧
      (recordsIn (fileOf result.durability) = base.map content ++ log ∨
        recordsIn (fileOf result.durability) = base.map content ++ (log ++ records))) := by
  obtain ⟨journal, scan, hjournal, hsound, hclosed, hlog⟩ := h.sound
  unfold commitRecords at hresult
  rw [if_neg (not_not.2 hstrict), if_neg (by rw [h.healthy]; exact nofun)] at hresult
  simp only [hjournal] at hresult
  rw [if_neg (by rw [hsound.isOpen]; exact nofun), if_neg hrecords] at hresult
  obtain ⟨hok, ⟨scan', hsound', hlog'⟩, hclosed', hconfig, hsize⟩ | hfailed :=
    writeTransaction_spec hsound hlog hclosed hplain
      (rfl : writeTransaction journal durability.nextTxnId records io = _)
  · simp only [hok] at hresult
    have hfits : journal.config.maxBytes = 0 ∨
        (journal.sizeBytes + UInt64.ofNat (transactionSize records)).toNat + more ≤
          journal.config.maxBytes.toNat := by
      refine (hroom journal hjournal).imp_right fun hle ↦ ?_
      have hlt := journal.config.maxBytes.toNat_lt
      have hsize : UInt64.size = 2 ^ 64 := rfl
      rw [UInt64.toNat_add, UInt64.toNat_ofNat_of_lt' (by omega), Nat.mod_eq_of_lt (by omega)]
      omega
    rw [maybeCompact_of_fits hsound'.isOpen (by
      rw [hconfig, hsize]
      exact hfits.imp_right fun hle ↦ UInt64.le_iff_toNat_le.2 (by omega))] at hresult
    subst hresult
    refine .inl ⟨rfl, ⟨h.healthy, _, scan', rfl, hsound', hclosed', hlog'⟩, ?_⟩
    rintro journal' hjournal'
    cases hjournal'
    rw [hconfig, hsize]
    exact hfits
  · obtain ⟨failure, hfailure⟩ := hfailed.1
    simp only [hfailure] at hresult
    subst hresult
    exact .inr ⟨⟨_, rfl⟩, hfailed.2⟩

def chunksSize : ℕ → List (JournalRecordType × Bytes) → ℕ
  | 0, _ => 0
  | fuel + 1, records =>
    if records = [] then 0
    else transactionSize (records.take kMaxRecordsPerTransaction) +
      chunksSize fuel (records.drop kMaxRecordsPerTransaction)

theorem commitMany_spec {fuel : ℕ} (hstrict : config.durability = .strict)
    (h : Logging durability base log) (hfuel : records.length ≤ fuel)
    (hplain : ∀ record ∈ records, Plain record.1)
    {more : ℕ} (hroom : Roomy durability (chunksSize fuel records + more)) {result : Committed}
    (hresult : commitMany config tables fuel durability records io = result) :
    (result.status = none ∧ Logging result.durability base (log ++ records) ∧
      Roomy result.durability more) ∨
    ((∃ error, result.status = some error) ∧
      ∃ k, recordsIn (fileOf result.durability) = base.map content ++ (log ++ records.take k)) := by
  induction fuel generalizing durability records log io with
  | zero =>
    obtain rfl := List.eq_nil_of_length_eq_zero (Nat.le_zero.1 hfuel)
    subst hresult
    rw [chunksSize, Nat.zero_add] at hroom
    rw [List.append_nil]
    exact .inl ⟨rfl, h, hroom⟩
  | succ fuel ih =>
    unfold commitMany at hresult
    split at hresult
    · next hempty =>
      subst hempty hresult
      rw [chunksSize, if_pos rfl, Nat.zero_add] at hroom
      rw [List.append_nil]
      exact .inl ⟨rfl, h, hroom⟩
    · next hrecords =>
      rw [chunksSize, if_neg hrecords, Nat.add_assoc] at hroom
      have hfirst : records.take kMaxRecordsPerTransaction ≠ [] := by
        rw [ne_eq, List.take_eq_nil_iff, not_or]
        exact ⟨by decide, hrecords⟩
      simp only at hresult
      obtain ⟨hok, hlogging, hroom'⟩ | ⟨⟨error, herror⟩, hfile⟩ := commitRecords_spec hstrict h
        hfirst (fun record hmem ↦ hplain record (List.mem_of_mem_take hmem)) hroom
        (rfl : commitRecords config tables durability (records.take kMaxRecordsPerTransaction) io = _)
      · simp only [hok] at hresult
        have hlength : (records.drop kMaxRecordsPerTransaction).length ≤ fuel := by
          have hpos := List.length_pos_iff.2 hrecords
          rw [List.length_drop, kMaxRecordsPerTransaction]
          omega
        obtain ⟨hok', hlogging', hroom''⟩ | ⟨herror, k, hfile⟩ := ih hlogging hlength
          (fun record hmem ↦ hplain record (List.mem_of_mem_drop hmem)) hroom' hresult
        · rw [List.append_assoc, List.take_append_drop] at hlogging'
          exact .inl ⟨hok', hlogging', hroom''⟩
        · refine .inr ⟨herror, kMaxRecordsPerTransaction + k, ?_⟩
          rw [hfile, List.append_assoc, ← List.take_add]
      · simp only [herror] at hresult
        subst hresult
        refine .inr ⟨⟨error, herror⟩, ?_⟩
        obtain hfile | hfile := hfile
        · exact ⟨0, by rw [hfile, List.take_zero, List.append_nil]⟩
        · exact ⟨kMaxRecordsPerTransaction, hfile⟩

end Transactions

end RateGovernor.Dynamics.Commits
