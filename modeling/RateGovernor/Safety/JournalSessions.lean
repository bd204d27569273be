import RateGovernor.Dynamics.Scanning
import RateGovernor.Safety.CrashPrefix

namespace RateGovernor.Safety.JournalSessions

open Model.CheckedMath Model.Journal Model.JournalWriter Foundation.ByteCodec Dynamics.Framing
open Dynamics.Commits Dynamics.Transactions Dynamics.Scanning CrashPrefix

/-- A journal, and what has been asked of it and answered. The records staged are those appended to
the open transaction; they are acknowledged when a commit of it returns ok. The transaction is
exposed to the scanner from the last begin record in the file up to the commit record behind it. -/
structure Session where
  journal : JournalFile
  staged : List JournalRecord := []
  acknowledged : List JournalRecord := []
  commits : ℕ := 0
  exposed : Bool := false

/-- One call, with the answers of the file system to its operations. A commit that is refused after
it has written its record leaves the transaction open. -/
def Session.call (s : Session) (io : Io) : JournalCall → Session
  | .begin txnId =>
    let result := s.journal.begin txnId io
    match result.failure with
    | some _ => { s with journal := result.journal }
    | none => { s with journal := result.journal, staged := [], exposed := true }
  | .append type payload =>
    let result := s.journal.append type payload io
    match result.failure with
    | some _ => { s with journal := result.journal }
    | none => { s with
        journal := result.journal
        staged := s.staged ++ [nextRecord s.journal type s.journal.txnId payload]
        exposed := type = .txnBegin || (type ≠ .txnCommit && s.exposed) }
  | .commit =>
    let result := s.journal.commit io
    match result.failure with
    | some _ => { s with
        journal := result.journal
        exposed := result.journal.lastSequence = s.journal.lastSequence && s.exposed }
    | none =>
      { journal := result.journal
        staged := []
        acknowledged := s.acknowledged ++ s.staged
        commits := s.commits + 1
        exposed := false }
  | .rollback => { s with journal := s.journal.rollback, staged := [] }

def Session.run (s : Session) (steps : List (JournalCall × Io)) : Session :=
  steps.foldl (fun s step ↦ s.call step.2 step.1) s

def Along (P : Session → JournalCall → Io → Prop) : Session → List (JournalCall × Io) → Prop
  | _, [] => True
  | s, step :: steps => P s step.1 step.2 ∧ Along P (s.call step.2 step.1) steps

/-- The scanner takes the file, returns every acknowledged record in the order of the appends, and
counts a committed transaction for every commit that returned ok. -/
structure Kept (s : Session) : Prop where
  ok : (scanJournalFile s.journal.file).ok = true
  records : s.acknowledged.Sublist (scanJournalFile s.journal.file).committed
  transactions : s.commits ≤ (scanJournalFile s.journal.file).committedTransactions.toNat

/-- A record of this many bytes is written to the open transaction rather than refused. -/
def Admits (journal : JournalFile) (length : ℕ) : Prop :=
  journal.txnOpen = true ∧ length ≤ journal.config.maxPayloadBytes.toNat ∧ length ≤ 0xFFFFFFFF

/-- What a call must observe for the scanner to follow. No payload is longer than the scanner
reads, no commit record is written where the file already has one since the last begin record, and a
transaction that is committed holds data records only. -/
def Orderly (s : Session) (call : JournalCall) (io : Io) : Prop :=
  match call with
  | .append type payload => Admits s.journal payload.length →
      payload.length ≤ kScanPayloadBound ∧ (type = .txnCommit → s.exposed = true)
  | .commit => Admits s.journal 24 → s.exposed = true ∧
      ((barrier s.journal io.tail).1 = true → ∀ record ∈ s.staged, Plain record.type)
  | _ => True

variable {s t : Session} {journal journal' : JournalFile} {call : JournalCall} {io : Io}
  {steps : List (JournalCall × Io)} {scan scan' : Scan} {record : JournalRecord} {file : Bytes}
  {type : JournalRecordType} {txn : U64} {payload : Bytes}

section Writes

structure Extends (journal journal' : JournalFile) (record : JournalRecord) : Prop where
  isOpen : journal'.isOpen = true
  config : journal'.config = journal.config
  file : journal'.file = journal.file ++ frame record

/-- A write that the file system carries out, or that is refused before it is tried. -/
inductive Wrote (journal : JournalFile) (record : JournalRecord) (io : Io) : Written → Prop
  | refused {failure : JournalFailure}
      (large : ¬(record.payload.length ≤ journal.config.maxPayloadBytes.toNat ∧
        record.payload.length ≤ 0xFFFFFFFF)) : Wrote journal record io ⟨journal, some failure, io⟩
  | written {journal' : JournalFile}
      (fits : record.payload.length ≤ journal.config.maxPayloadBytes.toNat ∧
        record.payload.length ≤ 0xFFFFFFFF)
      (extended : Extends journal journal' record)
      (sequence : journal'.lastSequence = journal.lastSequence + 1)
      (txnOpen : journal'.txnOpen = journal.txnOpen) (txnId : journal'.txnId = journal.txnId) :
      Wrote journal record io ⟨journal', none, io.tail⟩

theorem wrote_writeRecord (hopen : journal.isOpen = true) (hio : ¬Fails io)
    (type : JournalRecordType) (txn : U64) (payload : Bytes) :
    Wrote journal (nextRecord journal type txn payload) io
      (journal.writeRecord type txn payload io) := by
  unfold JournalFile.writeRecord
  rw [if_neg (by rw [hopen]; exact Bool.false_ne_true)]
  simp only
  split
  · next hlong => exact .refused fun hfits ↦ absurd hfits.1 (Nat.not_le.2 hlong)
  · next hshort =>
    split
    · next hnone =>
      refine .refused fun hfits ↦ absurd hnone ?_
      unfold encodeJournalRecord
      rw [if_neg (by simpa [nextRecord] using hfits)]
      intro hnil
      have hlength := congrArg List.length hnil
      simp only [List.flatten_cons, List.length_append, encodeHeaderBody_length] at hlength
      rw [List.length_nil] at hlength
      omega
    · next hencoded =>
      obtain ⟨hframe, -⟩ := encodeJournalRecord_eq hencoded
      rw [hframe]
      split
      · next written io' => exact absurd ⟨written, rfl⟩ hio
      · refine .written ⟨Nat.not_lt.1 hshort, ?_⟩ ⟨hopen, rfl, rfl⟩ rfl rfl rfl
        unfold encodeJournalRecord at hencoded
        split at hencoded
        · exact absurd rfl hencoded
        · next hfits =>
          simp only [Bool.or_eq_true, decide_eq_true_eq, not_or, Nat.not_lt] at hfits
          exact hfits.2

end Writes

section Moves

def Recorded (journal : JournalFile) : JournalCall → Prop
  | .begin txn => journal.txnOpen = false ∧ txn ≠ 0 ∧ 8 ≤ journal.config.maxPayloadBytes.toNat
  | .append _ payload => Admits journal payload.length
  | .commit => Admits journal 24
  | .rollback => False

inductive Moved (s : Session) (io : Io) : JournalCall → Session → Prop
  | refused {call : JournalCall} (unrecorded : ¬Recorded s.journal call) : Moved s io call s
  | begins {txn : U64} {journal' : JournalFile} (nonzero : txn ≠ 0)
      (extended : Extends s.journal journal' (nextRecord s.journal .txnBegin txn (putU64 txn)))
      (txnId : journal'.txnId = txn) :
      Moved s io (.begin txn) { s with journal := journal', staged := [], exposed := true }
  | appends {type : JournalRecordType} {payload : Bytes} {journal' : JournalFile}
      (recorded : Admits s.journal payload.length)
      (extended : Extends s.journal journal' (nextRecord s.journal type s.journal.txnId payload))
      (txnOpen : journal'.txnOpen = true) (txnId : journal'.txnId = s.journal.txnId) :
      Moved s io (.append type payload)
        { s with
          journal := journal'
          staged := s.staged ++ [nextRecord s.journal type s.journal.txnId payload]
          exposed := type = .txnBegin || (type ≠ .txnCommit && s.exposed) }
  | acknowledges {payload : Bytes} {journal' : JournalFile} (recorded : Admits s.journal 24)
      (length : payload.length = 24) (durable : (barrier s.journal io.tail).1 = true)
      (extended : Extends s.journal journal'
        (nextRecord s.journal .txnCommit s.journal.txnId payload))
      (txnOpen : journal'.txnOpen = false) :
      Moved s io .commit
        { journal := journal'
          staged := []
          acknowledged := s.acknowledged ++ s.staged
          commits := s.commits + 1
          exposed := false }
  | unconfirmed {payload : Bytes} {journal' : JournalFile} (recorded : Admits s.journal 24)
      (length : payload.length = 24) (failed : (barrier s.journal io.tail).1 = false)
      (extended : Extends s.journal journal'
        (nextRecord s.journal .txnCommit s.journal.txnId payload))
      (txnOpen : journal'.txnOpen = true) (txnId : journal'.txnId = s.journal.txnId) :
      Moved s io .commit { s with journal := journal', exposed := false }
  | abandons {journal' : JournalFile} (isOpen : journal'.isOpen = true)
      (file : journal'.file = s.journal.file) (txnOpen : journal'.txnOpen = false) :
      Moved s io .rollback { s with journal := journal', staged := [] }

theorem length_commitPayload (a b c : U64) : (commitPayload a b c).length = 24 := by
  simp only [commitPayload, List.length_flatten, List.map_cons, List.map_nil, putU64_length,
    List.sum_cons, List.sum_nil, Nat.reduceAdd]

theorem moved_begin (hopen : s.journal.isOpen = true) (hio : ¬Fails io) (txn : U64) :
    Moved s io (.begin txn) (s.call io (.begin txn)) := by
  have hwrite := wrote_writeRecord hopen hio .txnBegin txn (putU64 txn)
  simp only [Session.call, JournalFile.begin]
  rw [if_neg (by rw [hopen]; exact Bool.false_ne_true)]
  by_cases hbusy : s.journal.txnOpen = true
  · rw [if_pos hbusy]
    exact .refused fun hrecorded ↦ absurd (hrecorded.1.symm.trans hbusy) Bool.false_ne_true
  · rw [if_neg hbusy]
    by_cases htxn : txn = 0
    · rw [if_pos htxn]
      exact .refused fun hrecorded ↦ hrecorded.2.1 htxn
    · rw [if_neg htxn]
      generalize s.journal.writeRecord .txnBegin txn (putU64 txn) io = result at hwrite ⊢
      cases hwrite with
      | refused hlarge =>
        refine .refused fun hrecorded ↦ hlarge ?_
        rw [nextRecord, putU64_length]
        exact ⟨hrecorded.2.2, by decide⟩
      | written _ hextended =>
        exact .begins htxn ⟨hextended.isOpen, hextended.config, hextended.file⟩ rfl

theorem moved_append (hopen : s.journal.isOpen = true) (hio : ¬Fails io)
    (type : JournalRecordType) (payload : Bytes) :
    Moved s io (.append type payload) (s.call io (.append type payload)) := by
  have hwrite := wrote_writeRecord hopen hio type s.journal.txnId payload
  simp only [Session.call, JournalFile.append]
  rw [if_neg (by rw [hopen]; exact Bool.false_ne_true)]
  by_cases hbusy : s.journal.txnOpen = true
  · rw [if_neg (by rw [hbusy]; exact Bool.false_ne_true)]
    generalize s.journal.writeRecord type s.journal.txnId payload io = result at hwrite ⊢
    cases hwrite with
    | refused hlarge => exact .refused fun hadmits ↦ hlarge hadmits.2
    | written hfits hextended _ htxnOpen htxnId =>
      exact .appends ⟨hbusy, hfits⟩ ⟨hextended.isOpen, hextended.config, hextended.file⟩
        (htxnOpen.trans hbusy) htxnId
  · rw [if_pos (by rw [Bool.eq_false_of_not_eq_true hbusy]; rfl)]
    exact .refused fun hadmits ↦ hbusy hadmits.1

theorem add_one_ne (a : U64) : a + 1 ≠ a := by
  intro h
  have hlt := a.toNat_lt
  have hnat := congrArg UInt64.toNat h
  rw [UInt64.toNat_add, UInt64.toNat_one] at hnat
  omega

theorem barrier_config (h : journal'.config = journal.config) (io : Io) :
    barrier journal' io = barrier journal io := by
  unfold barrier
  rw [h]

theorem moved_commit (hopen : s.journal.isOpen = true) (hio : ¬Fails io) :
    Moved s io .commit (s.call io .commit) := by
  have hwrite := wrote_writeRecord hopen hio .txnCommit s.journal.txnId
    (commitPayload s.journal.txnId s.journal.txnRecordCount s.journal.txnBytes)
  have hlength := length_commitPayload s.journal.txnId s.journal.txnRecordCount s.journal.txnBytes
  simp only [Session.call, JournalFile.commit]
  rw [if_neg (by rw [hopen]; exact Bool.false_ne_true)]
  by_cases hbusy : s.journal.txnOpen = true
  · rw [if_neg (by rw [hbusy]; exact Bool.false_ne_true)]
    generalize commitPayload s.journal.txnId s.journal.txnRecordCount s.journal.txnBytes = payload
      at hwrite hlength ⊢
    generalize s.journal.writeRecord .txnCommit s.journal.txnId payload io = result at hwrite ⊢
    cases hwrite with
    | refused hlarge =>
      simp only [decide_true, Bool.true_and]
      refine .refused fun hadmits ↦ hlarge ?_
      rw [nextRecord, hlength]
      exact hadmits.2
    | @written journal' hfits hextended hsequence htxnOpen htxnId =>
      rw [nextRecord, hlength] at hfits
      simp only [barrier_config hextended.config]
      cases hbarrier : barrier s.journal io.tail with
      | mk durable left =>
        cases durable with
        | true =>
          exact .acknowledges ⟨hbusy, hfits⟩ hlength (congrArg Prod.fst hbarrier)
            ⟨hextended.isOpen, hextended.config, hextended.file⟩ rfl
        | false =>
          have hmoved : journal'.lastSequence ≠ s.journal.lastSequence := by
            rw [hsequence]
            exact add_one_ne s.journal.lastSequence
          simp only [refused, hmoved, decide_false, Bool.false_and]
          exact .unconfirmed ⟨hbusy, hfits⟩ hlength (congrArg Prod.fst hbarrier) hextended
            (htxnOpen.trans hbusy) htxnId
  · rw [if_pos (by rw [Bool.eq_false_of_not_eq_true hbusy]; rfl)]
    simp only [refused, decide_true, Bool.true_and]
    exact .refused fun hadmits ↦ hbusy hadmits.1

theorem moved_rollback (hopen : s.journal.isOpen = true) :
    Moved s io .rollback (s.call io .rollback) := by
  simp only [Session.call, JournalFile.rollback, hopen, Bool.not_true, Bool.false_or]
  by_cases hbusy : s.journal.txnOpen = true
  · rw [if_neg (by rw [hbusy]; exact Bool.false_ne_true)]
    exact .abandons hopen rfl rfl
  · have hidle := Bool.eq_false_of_not_eq_true hbusy
    rw [if_pos (by rw [hidle]; rfl)]
    exact .abandons hopen rfl hidle

theorem moved_call (hopen : s.journal.isOpen = true) (hio : ¬Fails io) (call : JournalCall) :
    Moved s io call (s.call io call) := by
  cases call with
  | begin txn => exact moved_begin hopen hio txn
  | append type payload => exact moved_append hopen hio type payload
  | commit => exact moved_commit hopen hio
  | rollback => exact moved_rollback hopen

end Moves

section Scans

def Stuck (file : Bytes) : Prop :=
  ∀ rest, ¬((scanBytes (file ++ rest) {}).result.status = .ok ∨
    (scanBytes (file ++ rest) {}).result.status = .truncated)

theorem Stuck.append (h : Stuck file) (rest : Bytes) : Stuck (file ++ rest) := by
  intro more
  rw [List.append_assoc]
  exact h (rest ++ more)

theorem scanBytes_of_error {bytes : Bytes} {status : JournalStatus} (hbytes : bytes ≠ [])
    (h : decodeJournalRecord bytes kScanPayloadBound = .error status)
    (hstatus : status ≠ .truncated) :
    (scanBytes bytes scan).result.status = status := by
  unfold scanBytes
  rw [scanLoop_fuel (Nat.le_refl _) (Nat.le_succ _)]
  simp only [scanLoop, if_neg hbytes, h]
  cases status with
  | truncated => exact absurd rfl hstatus
  | _ => rfl

theorem frame_append_ne_nil (record : JournalRecord) (rest : Bytes) : frame record ++ rest ≠ [] :=
  fun hnil ↦ frame_ne_nil record (List.append_eq_nil_iff.1 hnil).1

theorem stuck_of_large (hclean : Clean file scan) (hlarge : ¬Fits record)
    (hsmall : record.payload.length ≤ 0xFFFFFFFF) : Stuck (file ++ frame record) := by
  intro rest
  have hlength : (UInt32.ofNat record.payload.length).toNat = record.payload.length :=
    UInt32.toNat_ofNat_of_lt' (by rw [UInt32.size]; omega)
  have hdecode : decodeJournalRecord (frame record ++ rest) kScanPayloadBound =
      .error .boundsExceeded := by
    have hlong : ¬(frame record ++ rest).length < kJournalRecordHeaderSize := by
      rw [List.length_append, frame_length]
      omega
    unfold decodeJournalRecord
    rw [if_neg hlong, frame_eq, List.append_assoc, decodes_header record]
    simp only [headerOf, ne_eq, not_true_eq_false, if_false, hlength]
    rw [if_pos (Nat.not_le.1 hlarge)]
  rw [List.append_assoc, hclean, scanBytes_of_error (frame_append_ne_nil record rest) hdecode
    (by decide)]
  decide

theorem stuck_of_unmatched (hclean : Clean file scan) (hfits : Fits record)
    (haccept : scan.accept record = none) : Stuck (file ++ frame record) := by
  intro rest
  have hstatus : (scanBytes (frame record ++ rest) scan).result.status = .corrupt := by
    unfold scanBytes
    rw [scanLoop_fuel (Nat.le_refl _) (Nat.le_succ _)]
    simp only [scanLoop, if_neg (frame_append_ne_nil record rest), decode_frame hfits rest, haccept]
    rfl
  rw [List.append_assoc, hclean, hstatus]
  decide

theorem accept_unmatched (hcommits : Commits record) (hother : record.txnId ≠ scan.pendingTxn) :
    scan.accept record = none := by
  have hbegin : record.type ≠ .txnBegin := by
    rw [hcommits.2]
    decide
  unfold Scan.accept
  simp only [if_neg hcommits.1, if_neg hbegin, if_pos hcommits.2, if_pos hother]

theorem accept_matched (h : Commits record → record.txnId = scan.pendingTxn) :
    ∃ scan', scan.accept record = some scan' := by
  cases haccept : scan.accept record with
  | some scan' => exact ⟨scan', rfl⟩
  | none =>
    exfalso
    unfold Scan.accept at haccept
    simp only at haccept
    split at haccept
    · cases haccept
    · next hid =>
      split at haccept
      · cases haccept
      · split at haccept
        · next htype =>
          split at haccept
          · next hother => exact hother (h ⟨hid, htype⟩)
          · cases haccept
        · split at haccept <;> cases haccept

theorem transactions_of_accept (h : scan.accept record = some scan') :
    scan'.result.committedTransactions =
      scan.result.committedTransactions + if Commits record then 1 else 0 := by
  unfold Scan.accept at h
  simp only at h
  split at h
  · next hid =>
    cases h
    rw [if_neg fun hcommits : Commits record ↦ hcommits.1 hid, UInt64.add_zero]
  · next hid =>
    split at h
    · next htype =>
      cases h
      rw [if_neg fun hcommits : Commits record ↦ not_commits_of_begins ⟨hid, htype⟩ hcommits,
        UInt64.add_zero]
    · split at h
      · next htype =>
        split at h
        · cases h
        · cases h
          rw [if_pos (show Commits record from ⟨hid, htype⟩)]
      · next htype =>
        have hnot : ¬Commits record := fun hcommits ↦ htype hcommits.2
        rw [if_neg hnot, UInt64.add_zero]
        split at h <;> cases h <;> rfl

def Bodies (scan : Scan) : Prop :=
  ∀ record ∈ scan.result.committed ++ scan.pending, ¬Delimits record

theorem Bodies.accept (h : Bodies scan) (haccept : scan.accept record = some scan') :
    Bodies scan' := by
  have hcommitted : ∀ r ∈ scan.result.committed, ¬Delimits r :=
    fun r hr ↦ h r (List.mem_append_left _ hr)
  have hpending : ∀ r ∈ scan.pending, ¬Delimits r :=
    fun r hr ↦ h r (List.mem_append_right _ hr)
  intro r hr
  rw [List.mem_append] at hr
  cases accepted_of_accept haccept with
  | bare hid _ hkept hgrown _ =>
    rw [hkept, hgrown, List.mem_append, List.mem_singleton] at hr
    obtain (hr | rfl) | hr := hr
    · exact hcommitted r hr
    · exact not_delimits_of_bare hid
    · exact hpending r hr
  | begins _ _ hcleared hkept _ =>
    rw [hcleared, hkept] at hr
    exact hcommitted r (hr.resolve_right List.not_mem_nil)
  | commits _ _ _ hcleared hgrown _ =>
    rw [hcleared, hgrown, List.mem_append] at hr
    exact (hr.resolve_right List.not_mem_nil).elim (hcommitted r) (hpending r)
  | outside _ _ _ hkept hkept' _ =>
    rw [hkept, hkept'] at hr
    exact hr.elim (hcommitted r) (hpending r)
  | staged hstages _ _ hgrown hkept _ =>
    rw [hgrown, hkept, List.mem_append, List.mem_singleton] at hr
    obtain hr | hr | rfl := hr
    · exact hcommitted r hr
    · exact hpending r hr
    · exact hstages.2

theorem bodies_of_acceptAll {records : List JournalRecord} (h : Bodies scan)
    (haccept : acceptAll scan records = some scan') : Bodies scan' := by
  induction records generalizing scan with
  | nil =>
    cases haccept
    exact h
  | cons record records ih =>
    obtain ⟨next, hnext, hrest⟩ := Option.bind_eq_some_iff.1 haccept
    exact ih (h.accept hnext) hrest

theorem not_delimits_of_committed (hok : (scanJournalFile file).ok = true)
    (hmem : record ∈ (scanJournalFile file).committed) : ¬Delimits record := by
  unfold scanJournalFile at hok hmem
  split at hok
  · cases hok
  · next hsize =>
    rw [if_neg hsize] at hmem
    obtain ⟨-, -, hcommitted, hstatus⟩ := finish_tail (scanLoop file.length file {})
    obtain ⟨last, haccept, hend⟩ := acceptAll_intactRecords (hstatus.1 hok)
    have hbodies : Bodies last :=
      bodies_of_acceptAll (fun _ hnone ↦ absurd hnone List.not_mem_nil) haccept
    rw [hcommitted] at hmem
    obtain hend | ⟨left, hend⟩ := hend
    · rw [hend] at hmem
      exact hbodies record (List.mem_append_left _ hmem)
    · rw [hend] at hmem
      exact hbodies record (List.mem_append_left _ hmem)

end Scans

section Following

theorem accepted_begins (hbegins : Begins record) (h : Accepted scan record scan') :
    scan'.pendingTxn = record.txnId ∧ scan'.pending = [] ∧
      scan'.result.committed = scan.result.committed := by
  cases h with
  | bare hid => exact absurd hid hbegins.1
  | begins _ hpendingTxn hpending hcommitted => exact ⟨hpendingTxn, hpending, hcommitted⟩
  | commits hcommits => exact absurd hcommits (not_commits_of_begins hbegins)
  | outside hstages => exact absurd (.inl hbegins) hstages.2
  | staged hstages => exact absurd (.inl hbegins) hstages.2

theorem accepted_commits (hcommits : Commits record) (h : Accepted scan record scan') :
    scan'.pendingTxn = 0 ∧ scan'.pending = [] ∧
      scan'.result.committed = scan.result.committed ++ scan.pending := by
  cases h with
  | bare hid => exact absurd hid hcommits.1
  | begins hbegins => exact absurd hcommits (not_commits_of_begins hbegins)
  | commits _ _ hpendingTxn hpending hcommitted => exact ⟨hpendingTxn, hpending, hcommitted⟩
  | outside hstages => exact absurd (.inr hcommits) hstages.2
  | staged hstages => exact absurd (.inr hcommits) hstages.2

theorem accepted_stages (hstages : Stages record) (h : Accepted scan record scan') :
    scan'.pendingTxn = scan.pendingTxn ∧ scan'.result.committed = scan.result.committed ∧
      (scan.pendingTxn ≠ 0 → scan'.pending = scan.pending ++ [record]) := by
  cases h with
  | bare hid => exact absurd hid hstages.1
  | begins hbegins => exact absurd (.inl hbegins) hstages.2
  | commits hcommits => exact absurd (.inr hcommits) hstages.2
  | outside _ hidle hpendingTxn _ hcommitted =>
    exact ⟨hpendingTxn, hcommitted, fun hbusy ↦ absurd hidle hbusy⟩
  | staged _ _ hpendingTxn hpending hcommitted =>
    exact ⟨hpendingTxn, hcommitted, fun _ ↦ hpending⟩

structure Reading (journal : JournalFile) (scan : Scan) : Prop where
  isOpen : journal.isOpen = true
  clean : Clean journal.file scan
  status : scan.result.status = .ok
  bounded : scan.result.committedTransactions.toNat ≤ journal.file.length

/-- The scanner agrees with the session about the transaction that is open and has returned what
was acknowledged. -/
structure Tracks (s : Session) (scan : Scan) : Prop extends Reading s.journal scan where
  txnId : s.journal.txnOpen = true → s.journal.txnId ≠ 0
  pendingTxn : s.journal.txnOpen = true →
    scan.pendingTxn = if s.exposed then s.journal.txnId else 0
  named : ∀ record ∈ s.staged, record.txnId ≠ 0
  pending : s.journal.txnOpen = true → s.exposed = true →
    (∀ record ∈ s.staged, Plain record.type) → scan.pending = s.staged
  records : s.acknowledged.Sublist scan.result.committed
  counted : s.journal.file.length ≤ kJournalMaxScanBytes →
    s.commits ≤ scan.result.committedTransactions.toNat

theorem length_frame_pos (record : JournalRecord) : 0 < (frame record).length :=
  List.length_pos_iff.2 (frame_ne_nil record)

theorem Reading.write (h : Reading journal scan) (hextended : Extends journal journal' record)
    (hfits : Fits record) (haccept : scan.accept record = some scan') : Reading journal' scan' where
  isOpen := hextended.isOpen
  clean := by
    rw [hextended.file]
    exact h.clean.frame hfits haccept
  status := (accept_tail haccept).2.trans h.status
  bounded := by
    have hbounded := h.bounded
    have hpos := length_frame_pos record
    rw [hextended.file, List.length_append, transactions_of_accept haccept]
    split
    · rw [UInt64.toNat_add, UInt64.toNat_one]
      have hle := Nat.mod_le (scan.result.committedTransactions.toNat + 1) (2 ^ 64)
      omega
    · rw [UInt64.add_zero]
      omega

theorem Reading.count (h : Reading journal scan) (hextended : Extends journal journal' record)
    (haccept : scan.accept record = some scan')
    (hsize : journal'.file.length ≤ kJournalMaxScanBytes) :
    journal.file.length ≤ kJournalMaxScanBytes ∧
      scan.result.committedTransactions.toNat + (if Commits record then 1 else 0) ≤
        scan'.result.committedTransactions.toNat := by
  have hbounded := h.bounded
  rw [hextended.file, List.length_append] at hsize
  refine ⟨by omega, ?_⟩
  rw [transactions_of_accept haccept]
  split
  · simp only [kJournalMaxScanBytes] at hsize
    rw [UInt64.toNat_add, UInt64.toNat_one, Nat.mod_eq_of_lt (by omega)]
  · rw [UInt64.add_zero, Nat.add_zero]

theorem fits_of_length {n : ℕ} (h : record.payload.length = n) (hn : n ≤ kScanPayloadBound) :
    Fits record := by
  rw [Fits, h]
  exact hn

theorem Tracks.counted_of_write (h : Tracks s scan) (hextended : Extends s.journal journal' record)
    (haccept : scan.accept record = some scan')
    (hsize : journal'.file.length ≤ kJournalMaxScanBytes) :
    s.commits + (if Commits record then 1 else 0) ≤
      scan'.result.committedTransactions.toNat := by
  obtain ⟨hbefore, hcount⟩ := h.toReading.count hextended haccept hsize
  exact (Nat.add_le_add_right (h.counted hbefore) _).trans hcount

theorem tracks_begins (h : Tracks s scan) (hnonzero : txn ≠ 0)
    (hextended : Extends s.journal journal' (nextRecord s.journal .txnBegin txn (putU64 txn)))
    (htxnId : journal'.txnId = txn) :
    ∃ scan', Tracks { s with journal := journal', staged := [], exposed := true } scan' := by
  have hbegins : Begins (nextRecord s.journal .txnBegin txn (putU64 txn)) := ⟨hnonzero, rfl⟩
  obtain ⟨scan', haccept⟩ := @accept_matched scan _
    fun hcommits ↦ absurd hcommits (not_commits_of_begins hbegins)
  obtain ⟨hpendingTxn, hpending, hcommitted⟩ :=
    accepted_begins hbegins (accepted_of_accept haccept)
  have hfits : Fits (nextRecord s.journal .txnBegin txn (putU64 txn)) :=
    fits_of_length (putU64_length txn) (by decide)
  refine ⟨scan', h.toReading.write hextended hfits haccept, fun _ ↦ htxnId ▸ hnonzero,
    fun _ ↦ ?_, fun _ hnone ↦ absurd hnone List.not_mem_nil, fun _ _ _ ↦ hpending, ?_,
    fun hsize ↦ ?_⟩
  · rw [hpendingTxn]
    exact htxnId.symm
  · rw [hcommitted]
    exact h.records
  · exact (Nat.le_add_right _ _).trans (h.counted_of_write hextended haccept hsize)

/-- A record appended to the open transaction moves the scanner as it moves the session. -/
theorem accepted_append (hid : record.txnId ≠ 0)
    (hpendingTxn : scan.pendingTxn = if s.exposed then record.txnId else 0)
    (h : Accepted scan record scan') :
    (scan'.pendingTxn = if record.type = .txnBegin || (record.type ≠ .txnCommit && s.exposed)
      then record.txnId else 0) ∧
    (s.exposed = true → Plain record.type → scan'.pending = scan.pending ++ [record]) := by
  by_cases hbegin : record.type = .txnBegin
  · obtain ⟨hmoved, -, -⟩ := accepted_begins ⟨hid, hbegin⟩ h
    refine ⟨?_, fun _ hplain ↦ absurd hbegin hplain.1⟩
    rw [hmoved, if_pos (by simp [hbegin])]
  · by_cases hcommit : record.type = .txnCommit
    · obtain ⟨hmoved, -, -⟩ := accepted_commits ⟨hid, hcommit⟩ h
      refine ⟨?_, fun _ hplain ↦ absurd hcommit hplain.2⟩
      rw [hmoved, if_neg (by simp [hcommit])]
    · have hstages : Stages record := by
        refine ⟨hid, ?_⟩
        rintro (hbegins | hcommits)
        · exact hbegin hbegins.2
        · exact hcommit hcommits.2
      obtain ⟨hmoved, -, hgrown⟩ := accepted_stages hstages h
      refine ⟨?_, fun hexposed _ ↦ hgrown ?_⟩
      · rw [hmoved, hpendingTxn]
        simp [hbegin, hcommit]
      · rw [hpendingTxn, if_pos hexposed]
        exact hid

theorem committed_sublist (h : Accepted scan record scan') :
    scan.result.committed.Sublist scan'.result.committed := by
  cases h with
  | bare _ _ _ hgrown _ => exact hgrown ▸ List.sublist_append_left _ _
  | begins _ _ _ hkept _ => exact hkept ▸ List.Sublist.refl _
  | commits _ _ _ _ hgrown _ => exact hgrown ▸ List.sublist_append_left _ _
  | outside _ _ _ _ hkept _ => exact hkept ▸ List.Sublist.refl _
  | staged _ _ _ _ hkept _ => exact hkept ▸ List.Sublist.refl _

theorem tracks_appends (h : Tracks s scan) (hrecorded : Admits s.journal payload.length)
    (hextended : Extends s.journal journal'
      (nextRecord s.journal type s.journal.txnId payload))
    (htxnId : journal'.txnId = s.journal.txnId) (hfits : payload.length ≤ kScanPayloadBound)
    (hcommit : type = .txnCommit → s.exposed = true) :
    ∃ scan', Tracks { s with
      journal := journal'
      staged := s.staged ++ [nextRecord s.journal type s.journal.txnId payload]
      exposed := type = .txnBegin || (type ≠ .txnCommit && s.exposed) } scan' := by
  have hid := h.txnId hrecorded.1
  have hpendingTxn := h.pendingTxn hrecorded.1
  obtain ⟨scan', haccept⟩ :=
      @accept_matched scan (nextRecord s.journal type s.journal.txnId payload) fun hcommits ↦ by
    rw [hpendingTxn, if_pos (hcommit hcommits.2)]
    rfl
  have haccepted := accepted_of_accept haccept
  have hnamed : ∀ r ∈ s.staged ++ [nextRecord s.journal type s.journal.txnId payload],
      r.txnId ≠ 0 := by
    intro r hr
    obtain hr | hr := List.mem_append.1 hr
    · exact h.named r hr
    · rw [List.mem_singleton.1 hr]
      exact hid
  obtain ⟨hmoved, hstaged⟩ := accepted_append hid hpendingTxn haccepted
  refine ⟨scan', h.toReading.write hextended hfits haccept, fun _ ↦ htxnId ▸ hid, fun _ ↦ ?_,
    hnamed, fun _ hexposed hplain ↦ ?_, h.records.trans (committed_sublist haccepted),
    fun hsize ↦ (Nat.le_add_right _ _).trans (h.counted_of_write hextended haccept hsize)⟩
  · rw [hmoved]
    exact htxnId ▸ rfl
  · have hlast : Plain type := hplain _ (List.mem_append_right _ (List.mem_singleton_self _))
    have hbefore : s.exposed = true := by simpa [hlast.1, hlast.2] using hexposed
    rw [hstaged hbefore hlast, h.pending hrecorded.1 hbefore
      fun r hr ↦ hplain r (List.mem_append_left _ hr)]

theorem tracks_acknowledges (h : Tracks s scan) (hrecorded : Admits s.journal 24)
    (hlength : payload.length = 24)
    (hextended : Extends s.journal journal'
      (nextRecord s.journal .txnCommit s.journal.txnId payload))
    (htxnOpen : journal'.txnOpen = false) (hexposed : s.exposed = true)
    (hplain : ∀ r ∈ s.staged, Plain r.type) :
    ∃ scan', Tracks
      { journal := journal'
        staged := []
        acknowledged := s.acknowledged ++ s.staged
        commits := s.commits + 1
        exposed := false } scan' := by
  have hpendingTxn := h.pendingTxn hrecorded.1
  rw [if_pos hexposed] at hpendingTxn
  have hcommits : Commits (nextRecord s.journal .txnCommit s.journal.txnId payload) :=
    ⟨h.txnId hrecorded.1, rfl⟩
  obtain ⟨scan', haccept⟩ := @accept_matched scan
    (nextRecord s.journal .txnCommit s.journal.txnId payload) fun _ ↦ hpendingTxn.symm
  obtain ⟨-, -, hcommitted⟩ := accepted_commits hcommits (accepted_of_accept haccept)
  have hclosed : ¬journal'.txnOpen = true := by
    rw [htxnOpen]
    exact Bool.false_ne_true
  refine ⟨scan', h.toReading.write hextended (fits_of_length hlength (by decide)) haccept,
    fun hbusy ↦ absurd hbusy hclosed, fun hbusy ↦ absurd hbusy hclosed,
    fun _ hnone ↦ absurd hnone List.not_mem_nil, fun hbusy ↦ absurd hbusy hclosed, ?_,
    fun hsize ↦ ?_⟩
  · rw [hcommitted, h.pending hrecorded.1 hexposed hplain]
    exact h.records.append (List.Sublist.refl _)
  · have hcounted := h.counted_of_write hextended haccept hsize
    rwa [if_pos hcommits] at hcounted

theorem tracks_unconfirmed (h : Tracks s scan) (hrecorded : Admits s.journal 24)
    (hlength : payload.length = 24)
    (hextended : Extends s.journal journal'
      (nextRecord s.journal .txnCommit s.journal.txnId payload))
    (htxnId : journal'.txnId = s.journal.txnId) (hexposed : s.exposed = true) :
    ∃ scan', Tracks { s with journal := journal', exposed := false } scan' := by
  have hpendingTxn := h.pendingTxn hrecorded.1
  rw [if_pos hexposed] at hpendingTxn
  have hid := h.txnId hrecorded.1
  obtain ⟨scan', haccept⟩ := @accept_matched scan
    (nextRecord s.journal .txnCommit s.journal.txnId payload) fun _ ↦ hpendingTxn.symm
  have haccepted := accepted_of_accept haccept
  obtain ⟨hmoved, -, -⟩ := accepted_commits ⟨hid, rfl⟩ haccepted
  exact ⟨scan', h.toReading.write hextended (fits_of_length hlength (by decide)) haccept,
    fun _ ↦ htxnId ▸ hid, fun _ ↦ hmoved, h.named,
    fun _ hinside ↦ absurd hinside Bool.false_ne_true,
    h.records.trans (committed_sublist haccepted),
    fun hsize ↦ (Nat.le_add_right _ _).trans (h.counted_of_write hextended haccept hsize)⟩

theorem tracks_abandons (h : Tracks s scan) (hopen : journal'.isOpen = true)
    (hfile : journal'.file = s.journal.file) (htxnOpen : journal'.txnOpen = false) :
    Tracks { s with journal := journal', staged := [] } scan := by
  have hclosed : ¬journal'.txnOpen = true := by
    rw [htxnOpen]
    exact Bool.false_ne_true
  have hreading := h.toReading
  refine ⟨⟨hopen, ?_, hreading.status, ?_⟩, fun hbusy ↦ absurd hbusy hclosed,
    fun hbusy ↦ absurd hbusy hclosed, fun _ hnone ↦ absurd hnone List.not_mem_nil,
    fun hbusy ↦ absurd hbusy hclosed, h.records, fun hsize ↦ h.counted ?_⟩
  · exact hfile ▸ hreading.clean
  · exact hfile ▸ hreading.bounded
  · exact hfile ▸ hsize

/-- As long as the calls are orderly the scanner follows them. -/
theorem tracks_moved (h : Tracks s scan) (hmoved : Moved s io call t)
    (horderly : Orderly s call io) : ∃ scan', Tracks t scan' := by
  cases hmoved with
  | refused => exact ⟨scan, h⟩
  | begins hnonzero hextended htxnId => exact tracks_begins h hnonzero hextended htxnId
  | appends hrecorded hextended _ htxnId =>
    obtain ⟨hfits, hcommit⟩ := horderly hrecorded
    exact tracks_appends h hrecorded hextended htxnId hfits hcommit
  | acknowledges hrecorded hlength hdurable hextended htxnOpen =>
    obtain ⟨hexposed, hplain⟩ := horderly hrecorded
    exact tracks_acknowledges h hrecorded hlength hextended htxnOpen hexposed (hplain hdurable)
  | unconfirmed hrecorded hlength _ hextended _ htxnId =>
    exact tracks_unconfirmed h hrecorded hlength hextended htxnId (horderly hrecorded).1
  | abandons hopen hfile htxnOpen => exact ⟨scan, tracks_abandons h hopen hfile htxnOpen⟩

end Following

section Losing

/-- The scanner stops at the file, or will never return something that was acknowledged. -/
structure Lost (s : Session) : Prop where
  isOpen : s.journal.isOpen = true
  cause : Stuck s.journal.file ∨ ∃ record ∈ s.acknowledged, Delimits record

theorem orderly_of_unrecorded (h : ¬Recorded s.journal call) : Orderly s call io := by
  cases call with
  | begin txn => trivial
  | append type payload => exact fun hadmits ↦ absurd hadmits h
  | commit => exact fun hadmits ↦ absurd hadmits h
  | rollback => trivial

theorem stuck_of_closed (h : Tracks s scan) (hbusy : s.journal.txnOpen = true)
    (hclosed : ¬s.exposed = true)
    (hfits : Fits (nextRecord s.journal .txnCommit s.journal.txnId payload)) :
    Stuck (s.journal.file ++ frame (nextRecord s.journal .txnCommit s.journal.txnId payload)) := by
  have hid := h.txnId hbusy
  have hpendingTxn := h.pendingTxn hbusy
  rw [if_neg hclosed] at hpendingTxn
  refine stuck_of_unmatched h.clean hfits (accept_unmatched ⟨hid, rfl⟩ ?_)
  rw [hpendingTxn]
  exact hid

theorem lost_of_disorder (h : Tracks s scan) (hmoved : Moved s io call t)
    (hdisorder : ¬Orderly s call io) : Lost t := by
  cases hmoved with
  | refused hunrecorded => exact absurd (orderly_of_unrecorded hunrecorded) hdisorder
  | begins => exact absurd trivial hdisorder
  | abandons => exact absurd trivial hdisorder
  | @appends type payload journal' hrecorded hextended _ _ =>
    refine ⟨hextended.isOpen, .inl ?_⟩
    rw [hextended.file]
    by_cases hfits : payload.length ≤ kScanPayloadBound
    · by_cases hcommit : type = .txnCommit
      · subst hcommit
        refine stuck_of_closed h hrecorded.1 (fun hexposed ↦ hdisorder fun _ ↦ ?_) hfits
        exact ⟨hfits, fun _ ↦ hexposed⟩
      · exact absurd (fun _ ↦ ⟨hfits, fun htype ↦ absurd htype hcommit⟩) hdisorder
    · exact stuck_of_large h.clean hfits hrecorded.2.2
  | @acknowledges payload journal' hrecorded hlength hdurable hextended _ =>
    refine ⟨hextended.isOpen, ?_⟩
    by_cases hexposed : s.exposed = true
    · refine .inr ?_
      by_contra hnone
      refine hdisorder fun _ ↦ ⟨hexposed, fun _ r hr ↦ ?_⟩
      have hbody : ¬Delimits r :=
        fun hdelimits ↦ hnone ⟨r, List.mem_append_right _ hr, hdelimits⟩
      have hid := h.named r hr
      exact ⟨fun htype ↦ hbody (.inl ⟨hid, htype⟩), fun htype ↦ hbody (.inr ⟨hid, htype⟩)⟩
    · rw [hextended.file]
      exact .inl (stuck_of_closed h hrecorded.1 hexposed (fits_of_length hlength (by decide)))
  | @unconfirmed payload journal' hrecorded hlength hfailed hextended _ _ =>
    refine ⟨hextended.isOpen, .inl ?_⟩
    rw [hextended.file]
    refine stuck_of_closed h hrecorded.1 (fun hexposed ↦ hdisorder fun _ ↦ ?_)
      (fits_of_length hlength (by decide))
    refine ⟨hexposed, fun hdurable ↦ ?_⟩
    rw [hfailed] at hdurable
    exact absurd hdurable Bool.false_ne_true

theorem Lost.moved (h : Lost s) (hmoved : Moved s io call t) : Lost t := by
  have hwrite : ∀ {journal' : JournalFile} {record : JournalRecord},
      Extends s.journal journal' record → Stuck s.journal.file → Stuck journal'.file :=
    fun hextended hstuck ↦ hextended.file ▸ hstuck.append _
  cases hmoved with
  | refused => exact h
  | begins _ hextended _ => exact ⟨hextended.isOpen, h.cause.imp_left (hwrite hextended)⟩
  | appends _ hextended _ _ => exact ⟨hextended.isOpen, h.cause.imp_left (hwrite hextended)⟩
  | unconfirmed _ _ _ hextended _ _ =>
    exact ⟨hextended.isOpen, h.cause.imp_left (hwrite hextended)⟩
  | abandons hopen hfile _ => exact ⟨hopen, h.cause.imp_left fun hstuck ↦ hfile ▸ hstuck⟩
  | acknowledges _ _ _ hextended _ =>
    refine ⟨hextended.isOpen, h.cause.imp (hwrite hextended) ?_⟩
    rintro ⟨r, hr, hdelimits⟩
    exact ⟨r, List.mem_append_left _ hr, hdelimits⟩

theorem Lost.not_kept (h : Lost s) : ¬Kept s := by
  intro hkept
  have hok := hkept.ok
  obtain hstuck | ⟨r, hr, hdelimits⟩ := h.cause
  · unfold scanJournalFile at hok
    split at hok
    · cases hok
    · have hend := hstuck []
      rw [List.append_nil] at hend
      exact hend ((finish_tail _).2.2.2.1 hok)
  · exact not_delimits_of_committed hok (hkept.records.subset hr) hdelimits

end Losing

section Runs

theorem finish_transactions (scan : Scan) :
    scan.finish.committedTransactions = scan.result.committedTransactions := by
  unfold Scan.finish
  simp only
  split <;> rfl

theorem kept_iff_of_tracks (h : Tracks s scan) :
    Kept s ↔ s.journal.file.length ≤ kJournalMaxScanBytes := by
  constructor
  · intro hkept
    by_contra hlarge
    have hok := hkept.ok
    rw [scanJournalFile, if_pos (Nat.not_le.1 hlarge)] at hok
    exact absurd hok Bool.false_ne_true
  · intro hsize
    obtain ⟨-, -, hcommitted, hok⟩ := finish_tail scan
    have hscan := scanJournalFile_of_clean h.clean hsize
    refine ⟨?_, ?_, ?_⟩
    · rw [hscan]
      exact hok.2 (.inl h.status)
    · rw [hscan, hcommitted]
      exact h.records
    · rw [hscan, finish_transactions]
      exact h.counted hsize

theorem not_kept_of_lost (h : Lost s) (hwrites : ∀ step ∈ steps, ¬Fails step.2) :
    ¬Kept (s.run steps) := by
  induction steps generalizing s with
  | nil => exact h.not_kept
  | cons step steps ih =>
    have hmoved := moved_call h.isOpen (hwrites step List.mem_cons_self) step.1
    exact ih (h.moved hmoved) fun other hmem ↦ hwrites other (List.mem_cons_of_mem _ hmem)

/-- Over runs in which no write of a record fails: what was acknowledged is kept exactly when all
calls are orderly and the file has not outgrown the scanner. -/
theorem kept_run_iff (h : Tracks s scan) (hwrites : ∀ step ∈ steps, ¬Fails step.2) :
    Kept (s.run steps) ↔
      Along Orderly s steps ∧ (s.run steps).journal.file.length ≤ kJournalMaxScanBytes := by
  induction steps generalizing s scan with
  | nil => exact (kept_iff_of_tracks h).trans (and_iff_right trivial).symm
  | cons step steps ih =>
    have hmoved := moved_call h.isOpen (hwrites step List.mem_cons_self) step.1
    have hrest : ∀ other ∈ steps, ¬Fails other.2 :=
      fun other hmem ↦ hwrites other (List.mem_cons_of_mem _ hmem)
    by_cases horderly : Orderly s step.1 step.2
    · obtain ⟨scan', htracks⟩ := tracks_moved h hmoved horderly
      exact (ih htracks hrest).trans (and_congr_left fun _ ↦ (and_iff_right horderly).symm)
    · have hlost : ¬Kept ((s.call step.2 step.1).run steps) :=
        not_kept_of_lost (lost_of_disorder h hmoved horderly) hrest
      exact iff_of_false hlost fun hall ↦ horderly hall.1.1

theorem not_fails_of_written (h : (journal.writeRecord type txn payload io).failure = none) :
    ¬Fails io := by
  rintro ⟨n, hfails⟩
  cases io with
  | nil => cases hfails
  | cons answer io =>
    rw [List.getElem?_cons_zero, Option.some_inj] at hfails
    subst hfails
    unfold JournalFile.writeRecord at h
    simp only at h
    split at h
    · cases h
    · split at h
      · cases h
      · split at h
        · cases h
        · cases h

theorem created {config : JournalConfig} (h : JournalFile.create config io = some journal) :
    Extends { config } journal firstRecord ∧ ¬journal.txnOpen = true := by
  unfold JournalFile.create at h
  by_cases hio : Fails io
  · have hnone : (JournalFile.writeRecord { config } .fileHeader 0 bannerPayload io).failure ≠
        none := fun hwritten ↦ not_fails_of_written hwritten hio
    simp only at h
    split at h
    · cases h
    · cases h
    · next hwritten _ => exact absurd hwritten hnone
  · have hwrite := @wrote_writeRecord { config } io rfl hio .fileHeader 0 bannerPayload
    generalize JournalFile.writeRecord { config } .fileHeader 0 bannerPayload io = result
      at hwrite h
    cases hwrite with
    | refused => cases h
    | @written journal' _ hextended _ htxnOpen _ =>
      have hjournal : journal = journal' := by
        simp only at h
        split at h
        · cases h
        · cases h
        · cases h
          rfl
      subst hjournal
      refine ⟨hextended, ?_⟩
      rw [htxnOpen]
      exact Bool.false_ne_true

theorem tracks_create {config : JournalConfig} (h : JournalFile.create config io = some journal) :
    ∃ scan, Tracks { journal } scan := by
  obtain ⟨hextended, hclosed⟩ := created h
  obtain ⟨scan, haccept⟩ : ∃ scan, ({} : Scan).accept firstRecord = some scan := ⟨_, rfl⟩
  have hreading : Reading ({ config } : JournalFile) {} := ⟨rfl, clean_nil, rfl, Nat.zero_le _⟩
  exact ⟨scan, hreading.write hextended (Nat.le_of_ble_eq_true rfl) haccept,
    fun hbusy ↦ absurd hbusy hclosed, fun hbusy ↦ absurd hbusy hclosed,
    fun _ hnone ↦ absurd hnone List.not_mem_nil, fun hbusy ↦ absurd hbusy hclosed,
    List.nil_sublist _, fun _ ↦ Nat.zero_le _⟩

theorem not_fails_nil : ¬Fails [] := by
  rintro ⟨n, hfails⟩
  cases hfails

end Runs

end RateGovernor.Safety.JournalSessions
