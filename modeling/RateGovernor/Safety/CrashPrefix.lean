import RateGovernor.Dynamics.Commits

namespace RateGovernor.Safety.CrashPrefix

open Model.CheckedMath Model.Journal Model.JournalWriter Foundation.ByteCodec Dynamics.Framing
open Dynamics.Commits

/-- The calls a user of an open journal makes. -/
inductive JournalCall
  | begin (txnId : U64)
  | append (type : JournalRecordType) (payload : Bytes)
  | commit
  | rollback

/-- An append of a data record whose payload the scanner takes. -/
def JournalCall.Admissible : JournalCall → Prop
  | .append type payload => Plain type ∧ payload.length ≤ kScanPayloadBound
  | _ => True

/-- The data records of a committed transaction, and how much of the file it takes to hold them
with its commit record. -/
structure Transaction where
  records : List JournalRecord
  size : ℕ

structure History where
  journal : JournalFile
  current : List JournalRecord := []
  committed : List Transaction := []

/-- One call, every write of which succeeds; a refused call changes nothing. -/
def History.call (h : History) : JournalCall → History
  | .begin txnId =>
    let result := h.journal.begin txnId []
    match result.failure with
    | some _ => { h with journal := result.journal }
    | none => { h with journal := result.journal, current := [] }
  | .append type payload =>
    let result := h.journal.append type payload []
    match result.failure with
    | some _ => { h with journal := result.journal }
    | none => { h with
        journal := result.journal
        current := h.current ++ [nextRecord h.journal type h.journal.txnId payload] }
  | .commit =>
    let result := h.journal.commit []
    match result.failure with
    | some _ => { h with journal := result.journal }
    | none =>
      { journal := result.journal
        current := []
        committed := h.committed ++ [⟨h.current, result.journal.file.length⟩] }
  | .rollback => { h with journal := h.journal.rollback, current := [] }

def history (journal : JournalFile) (calls : List JournalCall) : History :=
  calls.foldl History.call { journal }

/-- The data records of the transactions whose commit record lies within the first bytes. -/
def History.within (h : History) (n : ℕ) : List JournalRecord :=
  (h.committed.filter (·.size ≤ n)).flatMap (·.records)

variable {file : Bytes} {record : JournalRecord} {scan scan' : Scan}
  {expected expected' : ℕ → List JournalRecord} {journal : JournalFile} {h : History} {size : ℕ}

section Prefixes

/-- Every prefix of the file is scanned without complaint for the records expected of it. -/
def Prefixes (file : Bytes) (expected : ℕ → List JournalRecord) : Prop :=
  ∀ n, (scanBytes (file.take n) {}).result.status = .ok ∧
    (scanBytes (file.take n) {}).result.committed = expected n

theorem prefixes_nil : Prefixes [] fun _ ↦ [] := by
  intro n
  rw [List.take_nil, scanBytes_nil]
  exact ⟨rfl, rfl⟩

theorem Prefixes.of_clean (hprefixes : Prefixes file expected) (hclean : Clean file scan) {n : ℕ}
    (hn : file.length ≤ n) : scan.result.status = .ok ∧ scan.result.committed = expected n := by
  have hwhole := hprefixes n
  rwa [List.take_of_length_le hn, hclean.scanBytes] at hwhole

/-- A record written whole adds what it is accepted as, and until then nothing. -/
theorem Prefixes.extend (hprefixes : Prefixes file expected) (hclean : Clean file scan)
    (hfits : Fits record) (haccept : scan.accept record = some scan')
    (hwhole : ∀ n, file.length + (frame record).length ≤ n → expected' n = scan'.result.committed)
    (hpart : ∀ n, n < file.length + (frame record).length → expected' n = expected n) :
    Prefixes (file ++ frame record) expected' := by
  intro n
  by_cases hbefore : n < file.length
  · rw [hpart n (by omega), List.take_append_of_le_length (Nat.le_of_lt hbefore)]
    exact hprefixes n
  · obtain ⟨hstatus, hcommitted⟩ := hprefixes.of_clean hclean (Nat.not_lt.1 hbefore)
    rw [List.take_append, List.take_of_length_le (Nat.not_lt.1 hbefore), hclean]
    by_cases hinside : n - file.length < (frame record).length
    · rw [hpart n (by omega), ← hcommitted]
      by_cases hempty : (frame record).take (n - file.length) = []
      · rw [hempty, scanBytes_nil]
        exact ⟨hstatus, rfl⟩
      · rw [scanBytes_of_truncated hempty (decode_cut hfits hinside)]
        exact ⟨hstatus, rfl⟩
    · rw [hwhole n (by omega), List.take_of_length_le (Nat.not_lt.1 hinside),
        ← List.append_nil (frame record), scanBytes_frame hfits haccept, scanBytes_nil]
      exact ⟨(accept_tail haccept).2.trans hstatus, rfl⟩

theorem Prefixes.extend_pending (hprefixes : Prefixes file expected) (hclean : Clean file scan)
    (hfits : Fits record) (haccept : scan.accept record = some scan')
    (hcommitted : scan'.result.committed = scan.result.committed) :
    Prefixes (file ++ frame record) expected := by
  refine hprefixes.extend hclean hfits haccept (fun n hn ↦ ?_) fun _ _ ↦ rfl
  rw [hcommitted]
  exact (hprefixes.of_clean hclean (by omega)).2.symm

end Prefixes

section Protocol

theorem accepts_begin (htype : record.type = .txnBegin) (htxn : record.txnId ≠ 0) :
    ∃ scan', scan.accept record = some scan' ∧ scan'.result.committed = scan.result.committed ∧
      scan'.pendingTxn = record.txnId ∧ scan'.pending = [] := by
  unfold Scan.accept
  simp only [if_neg htxn, htype, if_true]
  exact ⟨_, rfl, rfl, rfl, rfl⟩

theorem accepts_data (htype : Plain record.type) (htxn : record.txnId ≠ 0)
    (hinside : scan.pendingTxn = record.txnId) :
    ∃ scan', scan.accept record = some scan' ∧ scan'.result.committed = scan.result.committed ∧
      scan'.pendingTxn = record.txnId ∧ scan'.pending = scan.pending ++ [record] := by
  unfold Scan.accept
  simp only [if_neg htxn, if_neg htype.1, if_neg htype.2, hinside]
  exact ⟨_, rfl, rfl, rfl, rfl⟩

theorem accepts_commit (htype : record.type = .txnCommit) (htxn : record.txnId ≠ 0)
    (hinside : scan.pendingTxn = record.txnId) :
    ∃ scan', scan.accept record = some scan' ∧
      scan'.result.committed = scan.result.committed ++ scan.pending := by
  unfold Scan.accept
  simp only [if_neg htxn, htype, reduceCtorEq, if_false, if_true, hinside, ne_eq, not_true_eq_false]
  exact ⟨_, rfl, rfl⟩

end Protocol

section Writer

variable {result : Written} {type : JournalRecordType} {txn : U64} {payload : Bytes}

/-- The call is refused, or it writes the record and leaves the transaction open or closed. -/
inductive Answered (journal : JournalFile) (record : JournalRecord) (busy : Bool) (txn : U64) :
    Written → Prop
  | refused {failure : JournalFailure} : Answered journal record busy txn ⟨journal, some failure, []⟩
  | written {journal' : JournalFile} (isOpen : journal'.isOpen = true)
      (file : journal'.file = journal.file ++ frame record) (txnOpen : journal'.txnOpen = busy)
      (txnId : journal'.txnId = txn) : Answered journal record busy txn ⟨journal', none, []⟩

theorem writeRecord_done (hopen : journal.isOpen = true) (type : JournalRecordType) (txn : U64)
    (payload : Bytes) :
    Answered journal (nextRecord journal type txn payload) journal.txnOpen journal.txnId
      (journal.writeRecord type txn payload []) := by
  unfold JournalFile.writeRecord
  rw [if_neg (by rw [hopen]; exact nofun)]
  simp only
  split
  · exact .refused
  · split
    · exact .refused
    · next hencoded =>
      refine .written hopen ?_ rfl rfl
      rw [(encodeJournalRecord_eq hencoded).1]
      rfl

theorem begin_done (hopen : journal.isOpen = true) (txn : U64) : txn = 0 ∧
      (∃ failure, journal.begin txn [] = ⟨journal, some failure, []⟩) ∨
    txn ≠ 0 ∧ Answered journal (nextRecord journal .txnBegin txn (putU64 txn)) true txn
      (journal.begin txn []) := by
  have hwrite := writeRecord_done hopen .txnBegin txn (putU64 txn)
  unfold JournalFile.begin
  rw [if_neg (by rw [hopen]; exact nofun)]
  by_cases htxn : txn = 0
  · refine .inl ⟨htxn, ?_⟩
    split <;> exact ⟨_, rfl⟩
  · refine .inr ⟨htxn, ?_⟩
    split
    · exact .refused
    · generalize journal.writeRecord .txnBegin txn (putU64 txn) [] = result at hwrite ⊢
      cases hwrite with
      | refused => exact .refused
      | written hopen' hfile => exact .written hopen' hfile rfl rfl

theorem append_done (hopen : journal.isOpen = true) (type : JournalRecordType) (payload : Bytes) :
    (∃ failure, journal.append type payload [] = ⟨journal, some failure, []⟩) ∨
      journal.txnOpen = true ∧ Answered journal (nextRecord journal type journal.txnId payload) true
        journal.txnId (journal.append type payload []) := by
  have hwrite := writeRecord_done hopen type journal.txnId payload
  unfold JournalFile.append
  rw [if_neg (by rw [hopen]; exact nofun)]
  by_cases hbusy : journal.txnOpen = true
  · refine .inr ⟨hbusy, ?_⟩
    rw [if_neg (by rw [hbusy]; exact nofun)]
    generalize journal.writeRecord type journal.txnId payload [] = result at hwrite ⊢
    cases hwrite with
    | refused => exact .refused
    | written hopen' hfile htxnOpen htxnId =>
      exact .written hopen' hfile (htxnOpen.trans hbusy) htxnId
  · exact .inl ⟨_, if_pos (by rw [Bool.eq_false_of_not_eq_true hbusy]; rfl)⟩

theorem commit_done (hopen : journal.isOpen = true) :
    (∃ failure, journal.commit [] = ⟨journal, some failure, []⟩) ∨
      journal.txnOpen = true ∧ Answered journal (nextRecord journal .txnCommit journal.txnId
        (commitPayload journal.txnId journal.txnRecordCount journal.txnBytes)) false 0
        (journal.commit []) := by
  have hwrite := writeRecord_done hopen .txnCommit journal.txnId
    (commitPayload journal.txnId journal.txnRecordCount journal.txnBytes)
  unfold JournalFile.commit
  rw [if_neg (by rw [hopen]; exact nofun)]
  by_cases hbusy : journal.txnOpen = true
  · refine .inr ⟨hbusy, ?_⟩
    rw [if_neg (by rw [hbusy]; exact nofun)]
    simp only
    generalize journal.writeRecord .txnCommit journal.txnId
      (commitPayload journal.txnId journal.txnRecordCount journal.txnBytes) [] = result at hwrite ⊢
    cases hwrite with
    | refused => exact .refused
    | @written journal' hopen' hfile =>
      have hbarrier : barrier journal' [] = (true, []) := by
        unfold barrier
        split <;> rfl
      simp only [hbarrier]
      exact .written hopen' hfile rfl rfl
  · exact .inl ⟨_, if_pos (by rw [Bool.eq_false_of_not_eq_true hbusy]; rfl)⟩

end Writer

section Calls

/-- The scan of the whole file agrees with the open journal about the transaction it is in. -/
structure Agrees (h : History) (size : ℕ) (scan : Scan) : Prop where
  isOpen : h.journal.isOpen = true
  clean : Clean h.journal.file scan
  prefixes : Prefixes h.journal.file fun n ↦ (if size ≤ n then [firstRecord] else []) ++ h.within n
  sizes : ∀ transaction ∈ h.committed, transaction.size ≤ h.journal.file.length
  inside : h.journal.txnOpen = true →
    h.journal.txnId ≠ 0 ∧ scan.pendingTxn = h.journal.txnId ∧ scan.pending = h.current

theorem within_eq {h' : History} (hcommitted : h'.committed = h.committed) (n : ℕ) :
    h'.within n = h.within n := by
  unfold History.within
  rw [hcommitted]

theorem Agrees.pending {h' : History} (hagrees : Agrees h size scan) (hfits : Fits record)
    (haccept : scan.accept record = some scan')
    (hsame : scan'.result.committed = scan.result.committed) (hopen : h'.journal.isOpen = true)
    (hfile : h'.journal.file = h.journal.file ++ frame record)
    (hcommitted : h'.committed = h.committed)
    (hinside : h'.journal.txnOpen = true → h'.journal.txnId ≠ 0 ∧
      scan'.pendingTxn = h'.journal.txnId ∧ scan'.pending = h'.current) : Agrees h' size scan' where
  isOpen := hopen
  clean := by
    rw [hfile]
    exact hagrees.clean.frame hfits haccept
  prefixes := by
    simp only [within_eq hcommitted]
    rw [hfile]
    exact hagrees.prefixes.extend_pending hagrees.clean hfits haccept hsame
  sizes transaction hmem := by
    rw [hcommitted] at hmem
    rw [hfile, List.length_append]
    exact Nat.le_add_right_of_le (hagrees.sizes transaction hmem)
  inside := hinside

theorem fits_putU64 {type : JournalRecordType} (txn id : U64) :
    Fits (nextRecord journal type txn (putU64 id)) := by
  unfold Fits nextRecord
  rw [putU64_length]
  exact Nat.le_of_ble_eq_true rfl

theorem fits_commitPayload {type : JournalRecordType} (txn a b c : U64) :
    Fits (nextRecord journal type txn (commitPayload a b c)) := by
  have hsize := recordSize_commitPayload a b c
  unfold Fits nextRecord
  simp only [recordSize, kJournalRecordHeaderSize, kScanPayloadBound] at hsize ⊢
  omega

theorem agrees_begin (hagrees : Agrees h size scan) (txn : U64) :
    ∃ scan', Agrees (h.call (.begin txn)) size scan' := by
  simp only [History.call]
  obtain ⟨-, failure, hrefused⟩ | ⟨htxn, hanswered⟩ := begin_done hagrees.isOpen txn
  · rw [hrefused]
    exact ⟨scan, hagrees⟩
  · obtain ⟨scan', haccept, hsame, hpendingTxn, hpending⟩ := @accepts_begin
      (nextRecord h.journal .txnBegin txn (putU64 txn)) scan rfl htxn
    generalize h.journal.begin txn [] = result at hanswered ⊢
    cases hanswered with
    | refused => exact ⟨scan, hagrees⟩
    | written hopen hfile htxnOpen htxnId =>
      refine ⟨scan', hagrees.pending (fits_putU64 txn txn) haccept hsame hopen hfile rfl fun _ ↦ ?_⟩
      rw [htxnId]
      exact ⟨htxn, hpendingTxn, hpending⟩

theorem agrees_append (hagrees : Agrees h size scan) {type : JournalRecordType} {payload : Bytes}
    (htype : Plain type) (hsize : payload.length ≤ kScanPayloadBound) :
    ∃ scan', Agrees (h.call (.append type payload)) size scan' := by
  simp only [History.call]
  obtain ⟨failure, hrefused⟩ | ⟨hbusy, hanswered⟩ := append_done hagrees.isOpen type payload
  · rw [hrefused]
    exact ⟨scan, hagrees⟩
  · obtain ⟨htxn, hinside, hcurrent⟩ := hagrees.inside hbusy
    obtain ⟨scan', haccept, hsame, hpendingTxn, hpending⟩ := @accepts_data
      (nextRecord h.journal type h.journal.txnId payload) scan htype htxn hinside
    generalize h.journal.append type payload [] = result at hanswered ⊢
    cases hanswered with
    | refused => exact ⟨scan, hagrees⟩
    | written hopen hfile htxnOpen htxnId =>
      have hfits : Fits (nextRecord h.journal type h.journal.txnId payload) := hsize
      refine ⟨scan', hagrees.pending hfits haccept hsame hopen hfile rfl fun _ ↦ ?_⟩
      rw [htxnId, ← hcurrent]
      exact ⟨htxn, hpendingTxn, hpending⟩

theorem within_append (transactions : List Transaction) (last : Transaction) (n : ℕ) :
    ((transactions ++ [last]).filter (·.size ≤ n)).flatMap (·.records) =
      (transactions.filter (·.size ≤ n)).flatMap (·.records) ++
        if last.size ≤ n then last.records else [] := by
  rw [List.filter_append, List.flatMap_append]
  congr 1
  by_cases hn : last.size ≤ n
  · simp [hn]
  · simp [hn]

theorem agrees_commit (hagrees : Agrees h size scan) :
    ∃ scan', Agrees (h.call .commit) size scan' := by
  simp only [History.call]
  obtain ⟨failure, hrefused⟩ | ⟨hbusy, hanswered⟩ := commit_done hagrees.isOpen
  · rw [hrefused]
    exact ⟨scan, hagrees⟩
  · obtain ⟨htxn, hinside, hcurrent⟩ := hagrees.inside hbusy
    obtain ⟨scan', haccept, hcommitted⟩ := @accepts_commit (nextRecord h.journal .txnCommit
      h.journal.txnId (commitPayload h.journal.txnId h.journal.txnRecordCount h.journal.txnBytes))
      scan rfl htxn hinside
    have hfits := @fits_commitPayload h.journal .txnCommit h.journal.txnId h.journal.txnId
      h.journal.txnRecordCount h.journal.txnBytes
    generalize h.journal.commit [] = result at hanswered ⊢
    cases hanswered with
    | refused => exact ⟨scan, hagrees⟩
    | @written journal' hopen hfile htxnOpen htxnId =>
      have hlength := congrArg List.length hfile
      rw [List.length_append] at hlength
      refine ⟨scan', hopen, ?_, ?_, ?_, ?_⟩
      · rw [hfile]
        exact hagrees.clean.frame hfits haccept
      · simp only [History.within, within_append, hlength]
        rw [hfile]
        refine hagrees.prefixes.extend hagrees.clean hfits haccept (fun n hn ↦ ?_) fun n hn ↦ ?_
        · have hold := (hagrees.prefixes.of_clean hagrees.clean (by omega : _ ≤ n)).2
          rw [if_pos hn, hcommitted, hold, hcurrent, List.append_assoc]
          rfl
        · rw [if_neg (Nat.not_le.2 hn), List.append_nil]
          rfl
      · intro transaction hmem
        obtain hmem | hmem := List.mem_append.1 hmem
        · have hle := hagrees.sizes transaction hmem
          simp only
          omega
        · rw [List.mem_singleton.1 hmem]
      · intro hstill
        rw [htxnOpen] at hstill
        cases hstill

theorem agrees_rollback (hagrees : Agrees h size scan) : Agrees (h.call .rollback) size scan := by
  obtain ⟨txnId, hclosed, hrollback⟩ : ∃ journal' : JournalFile, journal'.txnOpen = false ∧
      h.journal.rollback = { journal' with
        config := h.journal.config, isOpen := h.journal.isOpen, file := h.journal.file } := by
    unfold JournalFile.rollback
    split
    · next hidle =>
      rw [hagrees.isOpen] at hidle
      exact ⟨h.journal, by simpa using hidle, rfl⟩
    · exact ⟨h.journal.closeTxn, rfl, rfl⟩
  simp only [History.call, hrollback]
  refine ⟨hagrees.isOpen, hagrees.clean, hagrees.prefixes, hagrees.sizes, fun hbusy ↦ ?_⟩
  simp only [hclosed] at hbusy
  cases hbusy

theorem agrees_call (hagrees : Agrees h size scan) {call : JournalCall}
    (hcall : call.Admissible) : ∃ scan', Agrees (h.call call) size scan' := by
  cases call with
  | begin txn => exact agrees_begin hagrees txn
  | append => exact agrees_append hagrees hcall.1 hcall.2
  | commit => exact agrees_commit hagrees
  | rollback => exact ⟨scan, agrees_rollback hagrees⟩

theorem agrees_calls {calls : List JournalCall} (hcalls : ∀ call ∈ calls, call.Admissible)
    (hagrees : ∃ scan, Agrees h size scan) : ∃ scan, Agrees (calls.foldl History.call h) size scan := by
  induction calls generalizing h with
  | nil => exact hagrees
  | cons call calls ih =>
    obtain ⟨scan, hagrees⟩ := hagrees
    exact ih (fun other hmem ↦ hcalls other (List.mem_cons_of_mem _ hmem))
      (agrees_call hagrees (hcalls call List.mem_cons_self))

theorem agrees_create {config : JournalConfig}
    (hcreate : JournalFile.create config [] = some journal) :
    ∃ scan, Agrees { journal } journal.file.length scan := by
  have hwrite := @writeRecord_done { config } rfl .fileHeader 0 bannerPayload
  unfold JournalFile.create at hcreate
  generalize JournalFile.writeRecord { config } .fileHeader 0 bannerPayload [] = result
    at hwrite hcreate
  cases hwrite with
  | refused => cases hcreate
  | @written journal' hopen hfile htxnOpen =>
    cases hcreate
    obtain ⟨scan, haccept, hcommitted⟩ : ∃ scan, ({} : Scan).accept firstRecord = some scan ∧
        scan.result.committed = [firstRecord] := ⟨_, rfl, rfl⟩
    have hfits : Fits firstRecord := Nat.le_of_ble_eq_true rfl
    have hfile : journal'.file = [] ++ frame firstRecord := hfile
    refine ⟨scan, hopen, ?_, ?_, nofun, ?_⟩
    · simp only [hfile]
      exact clean_nil.frame hfits haccept
    · simp only [hfile]
      refine prefixes_nil.extend clean_nil hfits haccept (fun n hn ↦ ?_) fun n hn ↦ ?_
      · rw [if_pos (by simpa using hn), hcommitted]
        rfl
      · rw [if_neg (by simpa using hn)]
        rfl
    · intro hbusy
      simp only [htxnOpen] at hbusy
      cases hbusy

end Calls

/-- Every prefix of a journal is scanned for its header and the data records of exactly the
transactions whose commit record lies within it. -/
theorem scan_of_take {config : JournalConfig} {calls : List JournalCall}
    (hcreate : JournalFile.create config [] = some journal)
    (hcalls : ∀ call ∈ calls, call.Admissible)
    (hsize : (history journal calls).journal.file.length ≤ kJournalMaxScanBytes) (n : ℕ) :
    (scanJournalFile ((history journal calls).journal.file.take n)).ok = true ∧
      (scanJournalFile ((history journal calls).journal.file.take n)).committed =
        (if journal.file.length ≤ n then [firstRecord] else []) ++ (history journal calls).within n := by
  obtain ⟨scan, hagrees⟩ := agrees_calls hcalls (agrees_create hcreate)
  obtain ⟨hstatus, hcommitted⟩ := hagrees.prefixes n
  unfold history at hsize ⊢
  have hshort : ¬ kJournalMaxScanBytes <
      ((calls.foldl History.call { journal }).journal.file.take n).length := by
    rw [List.length_take]
    omega
  unfold scanJournalFile
  rw [if_neg hshort]
  obtain ⟨-, -, hrecords, hok⟩ := finish_tail
    (scanBytes ((calls.foldl History.call { journal }).journal.file.take n) {})
  exact ⟨hok.2 (.inl hstatus), hrecords.trans hcommitted⟩

section Sample

/-- A transaction that commits, one that is rolled back, and one that is left open. -/
def sampleCalls : List JournalCall :=
  [.begin 1, .append .flowPut [1], .commit, .begin 1, .append .flowPut [2], .rollback, .begin 2,
    .append .grantPut [3]]

def sampleRecord : JournalRecord := { type := .flowPut, sequence := 3, txnId := 1, payload := [1] }

/-- The first transaction is there exactly when its commit record is. -/
theorem scan_of_sampleCalls : ∃ journal, JournalFile.create {} [] = some journal ∧
    (scanJournalFile ((history journal sampleCalls).journal.file.take 180)).committed = [firstRecord] ∧
    (scanJournalFile ((history journal sampleCalls).journal.file.take 181)).committed =
      [firstRecord, sampleRecord] := by
  have hcalls : ∀ call ∈ sampleCalls, call.Admissible := by
    simp [sampleCalls, JournalCall.Admissible, Plain, kScanPayloadBound]
  have hcreate : JournalFile.create {} [] =
    some (JournalFile.writeRecord {} .fileHeader 0 bannerPayload []).journal := rfl
  refine ⟨_, hcreate, ?_, ?_⟩
  · rw [(scan_of_take hcreate hcalls (by decide +kernel) 180).2]
    decide +kernel
  · rw [(scan_of_take hcreate hcalls (by decide +kernel) 181).2]
    decide +kernel

end Sample

end RateGovernor.Safety.CrashPrefix
