import RateGovernor.Dynamics.Commits

namespace RateGovernor.Dynamics.Transactions

open Model.CheckedMath Model.Reason Model.Journal Model.JournalWriter Model.EngineState
open Model.Durability Foundation.ByteCodec Framing Commits

variable {scan scan' : Scan} {record : JournalRecord} {records : List JournalRecord} {file : Bytes}

section Scanning

theorem acceptAll_append (scan : Scan) (records more : List JournalRecord) :
    acceptAll scan (records ++ more) = (acceptAll scan records).bind (acceptAll · more) := by
  induction records generalizing scan with
  | nil => rfl
  | cons record records ih =>
    rw [List.cons_append, acceptAll, acceptAll]
    cases scan.accept record with
    | none => rfl
    | some next => exact ih next

theorem acceptAll_status (h : acceptAll scan records = some scan') :
    scan'.result.status = scan.result.status := by
  induction records generalizing scan with
  | nil =>
    cases h
    rfl
  | cons record records ih =>
    obtain ⟨next, hnext, hrest⟩ := Option.bind_eq_some_iff.1 h
    exact (ih hrest).trans (accept_tail hnext).2

theorem acceptAll_plain {txn : U64} {base : List JournalRecord}
    {log pending : List (JournalRecordType × Bytes)} (h : Inside scan txn base log pending)
    (htxn : txn ≠ 0) (hrecords : ∀ record ∈ records, record.txnId = txn ∧ Plain record.type) :
    ∃ scan', acceptAll scan records = some scan' ∧
      Inside scan' txn base log (pending ++ records.map content) := by
  induction records generalizing scan pending with
  | nil => exact ⟨scan, rfl, by rwa [List.map_nil, List.append_nil]⟩
  | cons record records ih =>
    obtain ⟨hid, htype⟩ := hrecords record List.mem_cons_self
    obtain ⟨next, hnext, hinside⟩ := accept_plain h htxn hid htype
    obtain ⟨scan', hrest, hinside'⟩ := ih hinside
      fun other hmem ↦ hrecords other (List.mem_cons_of_mem _ hmem)
    refine ⟨scan', ?_, ?_⟩
    · rw [acceptAll, hnext]
      exact hrest
    · rwa [List.append_assoc] at hinside'

theorem committed_of_accept (htxn : record.txnId ≠ 0) (htype : record.type ≠ .txnCommit)
    (h : scan.accept record = some scan') : scan'.result.committed = scan.result.committed := by
  unfold Scan.accept at h
  simp only [if_neg htxn, if_neg htype] at h
  repeat' split at h
  all_goals cases h; rfl

/-- A scan of the file ends without complaint and returns these records. -/
def Reads (file : Bytes) (committed : List JournalRecord) : Prop :=
  (scanBytes file {}).result.status = .ok ∧ (scanBytes file {}).result.committed = committed

theorem reads_of_clean (hclean : Clean file scan) (hstatus : scan.result.status = .ok) :
    Reads file scan.result.committed := by
  unfold Reads
  rw [hclean.scanBytes]
  exact ⟨hstatus, rfl⟩

theorem reads_truncated (hclean : Clean file scan) (hstatus : scan.result.status = .ok)
    (hfits : Fits record) {n : ℕ} (hn : n < (frame record).length) :
    Reads (file ++ (frame record).take n) scan.result.committed := by
  unfold Reads
  rw [hclean]
  by_cases hempty : (frame record).take n = []
  · rw [hempty, scanBytes_nil]
    exact ⟨hstatus, rfl⟩
  · rw [scanBytes_of_truncated hempty (decode_cut hfits hn)]
    exact ⟨hstatus, rfl⟩

theorem reads_pending (hclean : Clean file scan) (hstatus : scan.result.status = .ok)
    (hrecords : ∀ record ∈ records, Fits record ∧ record.txnId ≠ 0 ∧ record.type ≠ .txnCommit)
    (haccept : acceptAll scan records = some scan') (n : ℕ) :
    Reads (file ++ (records.flatMap frame).take n) scan.result.committed := by
  induction records generalizing file scan n with
  | nil =>
    rw [List.flatMap_nil, List.take_nil, List.append_nil]
    exact reads_of_clean hclean hstatus
  | cons record records ih =>
    obtain ⟨next, hnext, hrest⟩ := Option.bind_eq_some_iff.1 haccept
    obtain ⟨hfits, htxn, htype⟩ := hrecords record List.mem_cons_self
    rw [List.flatMap_cons, List.take_append]
    by_cases hn : n < (frame record).length
    · rw [Nat.sub_eq_zero_of_le (Nat.le_of_lt hn), List.take_zero, List.append_nil]
      exact reads_truncated hclean hstatus hfits hn
    · rw [List.take_of_length_le (Nat.not_lt.1 hn), ← List.append_assoc,
        ← committed_of_accept htxn htype hnext]
      exact ih (hclean.frame hfits hnext) ((accept_tail hnext).2.trans hstatus)
        (fun other hmem ↦ hrecords other (List.mem_cons_of_mem _ hmem)) hrest _

end Scanning

section Writer

variable {journal origin : JournalFile} {type : JournalRecordType} {txn : U64} {payload : Bytes}
  {io : Io} {result : Written} {frames : List JournalRecord}
  {entries : List (JournalRecordType × Bytes)}

theorem encodeJournalRecord_of_fits {bound : ℕ} (hfits : Fits record)
    (h : record.payload.length ≤ bound) : encodeJournalRecord record bound = frame record := by
  have hsmall : ¬0xFFFFFFFF < record.payload.length := by
    simp only [Fits, kScanPayloadBound] at hfits
    omega
  unfold encodeJournalRecord frame
  rw [if_neg]
  simpa using ⟨h, Nat.not_lt.1 hsmall⟩

def Fails (io : Io) : Prop := ∃ n, io[0]? = some (.failed n)

theorem writeRecord_cases (hopen : journal.isOpen = true)
    (hfits : Fits (nextRecord journal type txn payload))
    (hresult : journal.writeRecord type txn payload io = result) :
    (result.failure = none ∧ result.io = io.tail ∧
      payload.length ≤ journal.config.maxPayloadBytes.toNat ∧ ¬ Fails io ∧
      ∃ sizeBytes lastSequence recordCount, result.journal = { journal with
        file := journal.file ++ frame (nextRecord journal type txn payload)
        sizeBytes, lastSequence, recordCount }) ∨
    ((∃ failure, result.failure = some failure) ∧ ∃ n, result.journal.file =
        journal.file ++ (frame (nextRecord journal type txn payload)).take n ∧
      (journal.config.maxPayloadBytes.toNat < payload.length ∧ n = 0 ∨
        payload.length ≤ journal.config.maxPayloadBytes.toNat ∧ io[0]? = some (.failed n))) := by
  unfold JournalFile.writeRecord at hresult
  rw [if_neg (by rw [hopen]; exact nofun)] at hresult
  simp only at hresult
  split at hresult
  · next hlong =>
    subst hresult
    exact .inr ⟨⟨_, rfl⟩, 0, by rw [List.take_zero, List.append_nil]; rfl, .inl ⟨hlong, rfl⟩⟩
  · next hshort =>
    have hencoded : encodeJournalRecord
        { type, sequence := journal.lastSequence + 1, txnId := txn, payload }
        journal.config.maxPayloadBytes.toNat = frame (nextRecord journal type txn payload) :=
      encodeJournalRecord_of_fits hfits (Nat.not_lt.1 hshort)
    rw [hencoded, if_neg (frame_ne_nil _)] at hresult
    split at hresult
    · subst hresult
      exact .inr ⟨⟨_, rfl⟩, _, rfl, .inr ⟨Nat.not_lt.1 hshort, rfl⟩⟩
    · next hanswer =>
      subst hresult
      refine .inl ⟨rfl, rfl, Nat.not_lt.1 hshort, ?_, _, _, _, rfl⟩
      rintro ⟨n, hn⟩
      cases io with
      | nil => cases hn
      | cons answer io =>
        cases hn
        exact hanswer n io rfl

/-- An open journal that has written these records of a transaction behind its old file. -/
structure Underway (journal origin : JournalFile) (txn : U64) (frames : List JournalRecord) : Prop
    where
  isOpen : journal.isOpen = true
  txnOpen : journal.txnOpen = true
  txnId : journal.txnId = txn
  config : journal.config = origin.config
  file : journal.file = origin.file ++ frames.flatMap frame

/-- A failed call left some leading bytes of these records behind the old file. -/
def Broken (result : Written) (origin : JournalFile) (frames : List JournalRecord) : Prop :=
  (∃ failure, result.failure = some failure) ∧
    ∃ n, result.journal.file = origin.file ++ (frames.flatMap frame).take n

theorem broken_of_append {failed : JournalRecord} {n : ℕ} (h : Underway journal origin txn frames)
    (hfailure : ∃ failure, result.failure = some failure)
    (hfile : result.journal.file = journal.file ++ (frame failed).take n) :
    Broken result origin (frames ++ [failed]) := by
  refine ⟨hfailure, (frames.flatMap frame).length + n, ?_⟩
  rw [hfile, h.file, List.flatMap_append, List.flatMap_singleton, List.take_length_add_append,
    List.append_assoc]

theorem begin_cases (hopen : journal.isOpen = true) (hclosed : journal.txnOpen = false)
    (hresult : journal.begin txn io = result) :
    (txn ≠ 0 ∧ result.failure = none ∧ result.io = io.tail ∧
      8 ≤ journal.config.maxPayloadBytes.toNat ∧ ¬ Fails io ∧
      Underway result.journal journal txn [nextRecord journal .txnBegin txn (putU64 txn)]) ∨
    (Broken result journal [nextRecord journal .txnBegin txn (putU64 txn)] ∧
      (txn = 0 ∧ result.journal.file = journal.file ∨
        txn ≠ 0 ∧ (journal.config.maxPayloadBytes.toNat < 8 ∨ Fails io))) := by
  unfold JournalFile.begin at hresult
  rw [if_neg (by rw [hopen]; exact nofun), if_neg (by rw [hclosed]; exact nofun)] at hresult
  split at hresult
  · next htxn =>
    subst hresult
    exact .inr ⟨⟨⟨_, rfl⟩, 0, by rw [List.take_zero, List.append_nil]; rfl⟩, .inl ⟨htxn, rfl⟩⟩
  · next htxn =>
    have hfits : Fits (nextRecord journal .txnBegin txn (putU64 txn)) := by
      unfold Fits nextRecord
      rw [putU64_length]
      exact Nat.le_of_ble_eq_true rfl
    obtain ⟨hok, hio, hbound, hanswer, sizeBytes, lastSequence, recordCount, hjournal⟩ |
      ⟨⟨failure, hfailure⟩, n, hfile, hcause⟩ := writeRecord_cases hopen hfits
        (rfl : journal.writeRecord .txnBegin txn (putU64 txn) io = _)
    · simp only [hok] at hresult
      subst hresult
      rw [putU64_length] at hbound
      refine .inl ⟨htxn, rfl, hio, hbound, hanswer, ?_, rfl, rfl, ?_, ?_⟩
      · simp only [hjournal, hopen]
      · simp only [hjournal]
      · simp only [hjournal, List.flatMap_singleton]
    · simp only [hfailure] at hresult
      subst hresult
      refine .inr ⟨⟨⟨failure, hfailure⟩, n, ?_⟩, .inr ⟨htxn, ?_⟩⟩
      · rw [hfile, List.flatMap_singleton]
      · rw [putU64_length] at hcause
        exact hcause.imp And.left fun hn ↦ ⟨n, hn.2⟩

/-- One of the entries is too large, or the write of one is answered with a failure. -/
def Halts (config : JournalConfig) (entries : List (JournalRecordType × Bytes)) (io : Io) : Prop :=
  (∃ entry ∈ entries, config.maxPayloadBytes.toNat < entry.2.length) ∨
    ∃ i < entries.length, Fails (io.drop i)

theorem not_halts_cons {config : JournalConfig} {entry : JournalRecordType × Bytes}
    (hbound : entry.2.length ≤ config.maxPayloadBytes.toNat) (hanswer : ¬ Fails io)
    (h : ¬ Halts config entries io.tail) : ¬ Halts config (entry :: entries) io := by
  rintro (⟨other, hmem, hlong⟩ | ⟨i, hi, hfails⟩)
  · obtain rfl | hmem := List.mem_cons.1 hmem
    · omega
    · exact h (.inl ⟨other, hmem, hlong⟩)
  · cases i with
    | zero => exact hanswer hfails
    | succ i =>
      exact h (.inr ⟨i, Nat.lt_of_succ_lt_succ hi, by rwa [List.drop_tail]⟩)

theorem halts_cons {config : JournalConfig} {entry : JournalRecordType × Bytes}
    (h : Halts config entries io.tail) : Halts config (entry :: entries) io := by
  obtain ⟨other, hmem, hlong⟩ | ⟨i, hi, hfails⟩ := h
  · exact .inl ⟨other, List.mem_cons_of_mem _ hmem, hlong⟩
  · refine .inr ⟨i + 1, Nat.succ_lt_succ hi, ?_⟩
    rwa [List.drop_tail] at hfails

theorem appendAll_cases (h : Underway journal origin txn frames)
    (hentries : ∀ entry ∈ entries, entry.2.length ≤ kScanPayloadBound)
    (hresult : appendAll entries journal io = result) :
    ∃ more, (∀ record ∈ more, record.txnId = txn) ∧ more.map content <+: entries ∧
      ((result.failure = none ∧ result.io = io.drop entries.length ∧ more.map content = entries ∧
          Underway result.journal origin txn (frames ++ more) ∧
          ¬ Halts origin.config entries io) ∨
        (Broken result origin (frames ++ more) ∧ Halts origin.config entries io)) := by
  induction entries generalizing journal frames io with
  | nil =>
    subst hresult
    refine ⟨[], ?_, List.prefix_rfl, .inl ⟨rfl, rfl, rfl, by rwa [List.append_nil], ?_⟩⟩
    · intro record hmem
      cases hmem
    · rintro (⟨entry, hmem, -⟩ | ⟨i, hi, -⟩)
      · cases hmem
      · exact absurd hi (Nat.not_lt_zero i)
  | cons entry entries ih =>
    obtain ⟨type, payload⟩ := entry
    unfold appendAll JournalFile.append at hresult
    rw [if_neg (by rw [h.isOpen]; exact Bool.false_ne_true),
      if_neg (by rw [h.txnOpen]; exact Bool.false_ne_true), h.txnId] at hresult
    have hfits : Fits (nextRecord journal type txn payload) := hentries _ List.mem_cons_self
    obtain ⟨hok, hio, hbound, hanswer, sizeBytes, lastSequence, recordCount, hjournal⟩ |
      ⟨⟨failure, hfailure⟩, n, hfile, hcause⟩ := writeRecord_cases h.isOpen hfits
        (rfl : journal.writeRecord type txn payload io = _)
    · simp only [hok, hio, hjournal] at hresult
      have hunderway : Underway { journal with
          file := journal.file ++ frame (nextRecord journal type txn payload)
          sizeBytes, lastSequence, recordCount
          txnRecordCount := journal.txnRecordCount + 1
          txnBytes := journal.txnBytes + UInt64.ofNat payload.length } origin txn
          (frames ++ [nextRecord journal type txn payload]) := by
        refine ⟨h.isOpen, h.txnOpen, h.txnId, h.config, ?_⟩
        simp only [h.file, List.flatMap_append, List.flatMap_singleton, List.append_assoc]
      obtain ⟨more, hids, hmore, hend⟩ := ih hunderway
        (fun entry hmem ↦ hentries entry (List.mem_cons_of_mem _ hmem)) hresult
      rw [h.config] at hbound
      rw [List.append_assoc, List.singleton_append] at hend
      refine ⟨nextRecord journal type txn payload :: more, ?_,
        (List.prefix_cons_inj _).2 hmore, hend.imp ?_ ?_⟩
      · intro record hmem
        obtain rfl | hmem := List.mem_cons.1 hmem
        · rfl
        · exact hids record hmem
      · rintro ⟨hdone, hleft, hcontents, hunderway, hhalts⟩
        refine ⟨hdone, ?_, ?_, hunderway, not_halts_cons hbound hanswer hhalts⟩
        · rw [hleft, List.drop_tail]
          rfl
        · rw [List.map_cons, hcontents]
          rfl
      · rintro ⟨hbroken, hhalts⟩
        exact ⟨hbroken, halts_cons hhalts⟩
    · simp only [hfailure] at hresult
      subst hresult
      refine ⟨[nextRecord journal type txn payload], ?_,
        (List.prefix_cons_inj _).2 List.nil_prefix, .inr
          ⟨broken_of_append h ⟨failure, hfailure⟩ hfile, ?_⟩⟩
      · intro record hmem
        rw [List.mem_singleton.1 hmem]
        rfl
      · rw [h.config] at hcause
        obtain ⟨hlong, -⟩ | ⟨-, hanswer⟩ := hcause
        · exact .inl ⟨_, List.mem_cons_self, hlong⟩
        · exact .inr ⟨0, Nat.succ_pos _, n, hanswer⟩

def Uncommitted (config : JournalConfig) (io : Io) : Prop :=
  config.maxPayloadBytes.toNat < 24 ∨ ∃ n < 60, io[0]? = some (.failed n)

theorem io_barrier {left : Io} (hfsync : journal.config.fsyncOnCommit = true)
    (h : barrier journal io = (true, left)) : left = io.tail := by
  unfold barrier at h
  rw [if_neg (by rw [hfsync]; exact nofun)] at h
  split at h
  · cases h
  · cases h
    rfl

theorem commit_cases (h : Underway journal origin txn frames)
    (hresult : journal.commit io = result) :
    ∃ commit : JournalRecord, commit.type = .txnCommit ∧ commit.txnId = txn ∧ Fits commit ∧
      (frame commit).length = 60 ∧
      ((¬ Uncommitted origin.config io ∧
          result.journal.file = origin.file ++ (frames ++ [commit]).flatMap frame ∧
          (result.failure = none → result.journal.isOpen = true ∧
            result.journal.txnOpen = false ∧ result.journal.config = origin.config ∧
            (origin.config.fsyncOnCommit = true → result.io = io.drop 2))) ∨
        (Uncommitted origin.config io ∧ (∃ failure, result.failure = some failure) ∧
          ∃ n < 60, result.journal.file =
            origin.file ++ frames.flatMap frame ++ (frame commit).take n)) := by
  unfold JournalFile.commit at hresult
  rw [if_neg (by rw [h.isOpen]; exact Bool.false_ne_true),
    if_neg (by rw [h.txnOpen]; exact Bool.false_ne_true), h.txnId] at hresult
  simp only at hresult
  have hpayload : (commitPayload txn journal.txnRecordCount journal.txnBytes).length = 24 := by
    have hsize := recordSize_commitPayload txn journal.txnRecordCount journal.txnBytes
    simp only [recordSize, kJournalRecordHeaderSize] at hsize
    omega
  generalize commitPayload txn journal.txnRecordCount journal.txnBytes = payload at hpayload hresult
  have hfits : Fits (nextRecord journal .txnCommit txn payload) := by
    unfold Fits nextRecord
    rw [hpayload]
    exact Nat.le_of_ble_eq_true rfl
  have hlength : (frame (nextRecord journal .txnCommit txn payload)).length = 60 := by
    rw [frame_length]
    exact congrArg (kJournalRecordHeaderSize + ·) hpayload
  refine ⟨nextRecord journal .txnCommit txn payload, rfl, rfl, hfits, hlength, ?_⟩
  obtain ⟨hok, hio, hbound, hanswer, sizeBytes, lastSequence, recordCount, hjournal⟩ |
    ⟨⟨failure, hfailure⟩, n, hfile, hcause⟩ := writeRecord_cases h.isOpen hfits
      (rfl : journal.writeRecord .txnCommit txn payload io = _)
  · rw [hpayload, h.config] at hbound
    have hcommitted : ¬ Uncommitted origin.config io := by
      rintro (hshort | ⟨n, -, hn⟩)
      · omega
      · exact hanswer ⟨n, hn⟩
    refine .inl ⟨hcommitted, ?_⟩
    simp only [hok, hjournal, hio] at hresult
    split at hresult
    · subst hresult
      refine ⟨?_, fun hnone ↦ ?_⟩
      · simp only [refused, h.file, List.flatMap_append, List.flatMap_singleton, List.append_assoc]
      · cases hnone
    · next left hbarrier =>
      subst hresult
      refine ⟨?_, fun _ ↦ ⟨h.isOpen, rfl, h.config, fun hfsync ↦ ?_⟩⟩
      · simp only [JournalFile.closeTxn, h.file, List.flatMap_append, List.flatMap_singleton,
          List.append_assoc]
      · rw [io_barrier (by simp only [h.config, hfsync]) hbarrier, ← List.drop_one, ← List.drop_one,
          List.drop_drop]
  · simp only [hfailure] at hresult
    subst hresult
    rw [hpayload, h.config] at hcause
    rw [h.file] at hfile
    obtain ⟨hshort, rfl⟩ | ⟨hbound, hn⟩ := hcause
    · exact .inr ⟨.inl hshort, ⟨failure, hfailure⟩, 0, by omega, hfile⟩
    · by_cases hpart : n < 60
      · exact .inr ⟨.inr ⟨n, hpart, hn⟩, ⟨failure, hfailure⟩, n, hpart, hfile⟩
      · refine .inl ⟨?_, ?_, fun hnone ↦ ?_⟩
        · rintro (hshort | ⟨m, hm, hn'⟩)
          · omega
          · rw [hn] at hn'
            cases hn'
            exact hpart hm
        · rw [hfile, List.take_of_length_le (by omega), List.flatMap_append,
            List.flatMap_singleton, List.append_assoc]
        · rw [hfailure] at hnone
          cases hnone

end Writer

section Outcome

variable {journal : JournalFile} {txn : U64} {entries : List (JournalRecordType × Bytes)} {io : Io}
  {result : Written}

/-- The transaction fails before its commit record is all in the file: it has no identity or is too
large, or the write of one of its records is answered with a failure. -/
def Withheld (config : JournalConfig) (txn : U64) (entries : List (JournalRecordType × Bytes))
    (io : Io) : Prop :=
  txn = 0 ∨ Fails io ∨ Halts config entries io.tail ∨
    Uncommitted config (io.drop (entries.length + 1))

theorem acceptAll_opened {begin : JournalRecord} {data : List JournalRecord} (htxn : txn ≠ 0)
    (hbegin : begin.type = .txnBegin ∧ begin.txnId = txn)
    (hdata : ∀ record ∈ data, record.txnId = txn ∧ Plain record.type) :
    ∃ scan', acceptAll scan (begin :: data) = some scan' ∧
      Inside scan' txn scan.result.committed [] (data.map content) ∧
      scan'.result.committed = scan.result.committed := by
  obtain ⟨next, hnext, hinside⟩ := accept_begin ⟨[], (List.append_nil _).symm, rfl⟩ htxn hbegin.2
    hbegin.1
  obtain ⟨scan', hrest, hinside'⟩ := acceptAll_plain hinside htxn hdata
  refine ⟨scan', ?_, hinside', ?_⟩
  · rw [acceptAll, hnext]
    exact hrest
  · obtain ⟨fresh, hfresh, hnone⟩ := hinside'.committed
    rw [hfresh, List.map_eq_nil_iff.1 hnone, List.append_nil]

theorem flatMap_frame_length (records : List JournalRecord) :
    (records.flatMap frame).length = bodySize (records.map content) := by
  induction records with
  | nil => rfl
  | cons record records ih =>
    rw [List.flatMap_cons, List.length_append, ih, frame_length]
    rfl

theorem bodySize_mono {some all : List (JournalRecordType × Bytes)} (h : some <+: all) :
    bodySize some ≤ bodySize all := by
  obtain ⟨rest, rfl⟩ := h
  unfold bodySize
  rw [List.map_append, List.sum_append]
  exact Nat.le_add_right _ _

theorem file_rollback (journal : JournalFile) : journal.rollback.file = journal.file := by
  unfold JournalFile.rollback
  split <;> rfl

/-- The begin record of a transaction and some of its data, and what the scanner makes of them. -/
structure Opened (txn : U64) (entries : List (JournalRecordType × Bytes))
    (frames : List JournalRecord) : Prop where
  frames : ∃ begin data, frames = begin :: data ∧ (begin.type = .txnBegin ∧ begin.txnId = txn) ∧
    (frame begin).length = 44 ∧ (∀ record ∈ data, record.txnId = txn) ∧ data.map content <+: entries

theorem Opened.quiet {frames : List JournalRecord} (h : Opened txn entries frames) (htxn : txn ≠ 0)
    (hentries : ∀ entry ∈ entries, Plain entry.1 ∧ entry.2.length ≤ kScanPayloadBound) :
    (∀ record ∈ frames, Fits record ∧ record.txnId ≠ 0 ∧ record.type ≠ .txnCommit) ∧
      (frames.flatMap frame).length ≤ 44 + bodySize entries ∧
      ∃ scan', acceptAll scan frames = some scan' := by
  obtain ⟨begin, data, rfl, hbegin, hlength, hids, hinitial⟩ := h.frames
  have hdata (record : JournalRecord) (hmem : record ∈ data) :
      record.txnId = txn ∧ Plain record.type ∧ Fits record := by
    have hentry := hentries _ (hinitial.subset (List.mem_map_of_mem hmem))
    exact ⟨hids record hmem, hentry.1, hentry.2⟩
  refine ⟨fun record hmem ↦ ?_, ?_, ?_⟩
  · obtain rfl | hmem := List.mem_cons.1 hmem
    · refine ⟨?_, ?_, ?_⟩
      · rw [frame_length] at hlength
        simp only [Fits, kScanPayloadBound, kJournalRecordHeaderSize] at hlength ⊢
        omega
      · rw [hbegin.2]
        exact htxn
      · rw [hbegin.1]
        intro hcommit
        cases hcommit
    · obtain ⟨hid, hplain, hfits⟩ := hdata record hmem
      exact ⟨hfits, hid ▸ htxn, hplain.2⟩
  · rw [List.flatMap_cons, List.length_append, hlength, flatMap_frame_length]
    exact Nat.add_le_add_left (bodySize_mono hinitial) _
  · obtain ⟨scan', haccept, -⟩ := @acceptAll_opened scan txn begin data htxn hbegin
      fun record hmem ↦ ⟨(hdata record hmem).1, (hdata record hmem).2.1⟩
    exact ⟨scan', haccept⟩

theorem reads_of_broken {frames : List JournalRecord} (h : Broken result journal frames)
    (hopened : Opened txn entries frames) (htxn : txn ≠ 0) (hclean : Clean journal.file scan)
    (hstatus : scan.result.status = .ok)
    (hentries : ∀ entry ∈ entries, Plain entry.1 ∧ entry.2.length ≤ kScanPayloadBound) :
    result.journal.file.length ≤ journal.file.length + transactionSize entries ∧
      Reads result.journal.file scan.result.committed := by
  obtain ⟨-, n, hfile⟩ := h
  obtain ⟨hquiet, hlength, scan', haccept⟩ := @Opened.quiet scan _ _ _ hopened htxn hentries
  rw [hfile]
  refine ⟨?_, reads_pending hclean hstatus hquiet haccept n⟩
  rw [List.length_append, List.length_take, transactionSize]
  omega

/-- A transaction either leaves what is read of the file as it was, or is in it whole. -/
theorem writeTransaction_cases (hopen : journal.isOpen = true) (hclosed : journal.txnOpen = false)
    (hclean : Clean journal.file scan) (hstatus : scan.result.status = .ok)
    (hentries : ∀ entry ∈ entries, Plain entry.1 ∧ entry.2.length ≤ kScanPayloadBound)
    (hresult : writeTransaction journal txn entries io = result) :
    result.journal.file.length ≤ journal.file.length + transactionSize entries ∧
      ((Withheld journal.config txn entries io ∧ (∃ failure, result.failure = some failure) ∧
          Reads result.journal.file scan.result.committed) ∨
        (¬ Withheld journal.config txn entries io ∧
          (∃ scan', Clean result.journal.file scan' ∧ scan'.result.status = .ok ∧
            Follows scan.result.committed entries scan'.result.committed) ∧
          (result.failure = none → result.journal.isOpen = true ∧
            result.journal.txnOpen = false ∧ result.journal.config = journal.config ∧
            (journal.config.fsyncOnCommit = true →
              result.io = io.drop (entries.length + 3))))) := by
  have hbegin : (frame (nextRecord journal .txnBegin txn (putU64 txn))).length = 44 := by
    rw [frame_length]
    exact congrArg (kJournalRecordHeaderSize + ·) (putU64_length txn)
  unfold writeTransaction at hresult
  simp only at hresult
  obtain ⟨htxn, hok, hio, hbound, hanswer, hunderway⟩ | ⟨hbroken, hcause⟩ :=
    begin_cases hopen hclosed (rfl : journal.begin txn io = _)
  · simp only [hok, hio] at hresult
    obtain ⟨more, hids, hinitial, ⟨hdone, hleft, hcontents, hunderway, hhalts⟩ | ⟨hbroken, hhalts⟩⟩ :=
      appendAll_cases hunderway (fun entry hmem ↦ (hentries entry hmem).2)
        (rfl : appendAll entries (journal.begin txn io).journal io.tail = _)
    · simp only [hdone, hleft, List.drop_tail] at hresult
      obtain ⟨commit, htype, hid, hfits, hlength, hend⟩ := commit_cases hunderway hresult
      have hopened : Opened txn entries
          (nextRecord journal .txnBegin txn (putU64 txn) :: more) :=
        ⟨_, more, rfl, ⟨rfl, rfl⟩, hbegin, hids, hinitial⟩
      obtain ⟨hquiet, hsize, -⟩ := @Opened.quiet scan _ _ _ hopened htxn hentries
      have hdata : ∀ record ∈ more, record.txnId = txn ∧ Plain record.type := fun record hmem ↦
        ⟨hids record hmem, (hentries _ (hcontents ▸ List.mem_map_of_mem hmem)).1⟩
      obtain ⟨mid, hmid, hinside, hsame⟩ := @acceptAll_opened scan txn
        (nextRecord journal .txnBegin txn (putU64 txn)) more htxn ⟨rfl, rfl⟩ hdata
      have hmidClean := hclean.frames (fun record hmem ↦ (hquiet record hmem).1) hmid
      rw [List.singleton_append] at hend
      obtain ⟨hstored, hfile, hhealthy⟩ | ⟨huncommitted, hfailure, n, hn, hfile⟩ := hend
      · obtain ⟨scan', hscan, hfollows⟩ := accept_commit hinside htxn hid htype
        rw [List.flatMap_append, List.flatMap_singleton, ← List.append_assoc] at hfile
        rw [List.drop_drop, Nat.add_assoc] at hhealthy
        rw [hfile]
        refine ⟨?_, .inr ⟨?_, ⟨scan', hmidClean.frame hfits hscan, ?_, ?_⟩, hhealthy⟩⟩
        · simp only [List.length_append, hlength, transactionSize]
          omega
        · rintro (hzero | hfails | hhalts' | huncommitted)
          · exact htxn hzero
          · exact hanswer hfails
          · exact hhalts hhalts'
          · exact hstored huncommitted
        · exact (accept_tail hscan).2.trans ((acceptAll_status hmid).trans hstatus)
        · rwa [List.nil_append, hcontents] at hfollows
      · rw [hfile]
        refine ⟨?_, .inl ⟨.inr (.inr (.inr huncommitted)), hfailure, ?_⟩⟩
        · simp only [List.length_append, List.length_take, transactionSize]
          omega
        · rw [← hsame]
          exact reads_truncated hmidClean ((acceptAll_status hmid).trans hstatus) hfits
            (by rw [hlength]; exact hn)
    · obtain ⟨failure, hfailure⟩ := hbroken.1
      simp only [hfailure] at hresult
      subst hresult
      obtain ⟨hsize, hreads⟩ := reads_of_broken hbroken
        ⟨_, more, rfl, ⟨rfl, rfl⟩, hbegin, hids, hinitial⟩ htxn hclean hstatus hentries
      simp only [file_rollback]
      exact ⟨hsize, .inl ⟨.inr (.inr (.inl hhalts)), ⟨failure, rfl⟩, hreads⟩⟩
  · obtain ⟨failure, hfailure⟩ := hbroken.1
    simp only [hfailure] at hresult
    subst hresult
    simp only [file_rollback]
    obtain ⟨hzero, hfile⟩ | ⟨htxn, hcause⟩ := hcause
    · rw [hfile]
      exact ⟨Nat.le_add_right _ _, .inl ⟨.inl hzero, ⟨failure, rfl⟩,
        reads_of_clean hclean hstatus⟩⟩
    · obtain ⟨hsize, hreads⟩ := reads_of_broken hbroken
        ⟨_, [], rfl, ⟨rfl, rfl⟩, hbegin, fun _ hmem ↦ absurd hmem List.not_mem_nil, List.nil_prefix⟩
        htxn hclean hstatus hentries
      refine ⟨hsize, .inl ⟨?_, ⟨failure, rfl⟩, hreads⟩⟩
      obtain hshort | hfails := hcause
      · exact .inr (.inr (.inr (.inl (by omega))))
      · exact .inr (.inl hfails)

end Outcome

end RateGovernor.Dynamics.Transactions
