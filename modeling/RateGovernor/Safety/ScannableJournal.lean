import RateGovernor.Safety.JournalSessions

namespace RateGovernor.Safety.ScannableJournal

open Model.CheckedMath Model.Journal Model.JournalWriter Foundation.ByteCodec Dynamics.Commits
open Dynamics.Framing Dynamics.Transactions CrashPrefix JournalSessions

variable {config : JournalConfig} {s : Session} {journal : JournalFile} {call : JournalCall}
  {io : Io} {steps : List (JournalCall × Io)} {type : JournalRecordType} {txn : U64}
  {payload : Bytes}

/-- A call other than a rollback, and it returns ok. -/
def Succeeds (s : Session) (call : JournalCall) (io : Io) : Prop :=
  match call with
  | .begin txn => (s.journal.begin txn io).failure = none
  | .append type payload => (s.journal.append type payload io).failure = none
  | .commit => (s.journal.commit io).failure = none
  | .rollback => False

/-- What the writer lets through and the scanner does not: an append of more than the scanner reads
in one record, and a begin or commit record appended as data to a transaction that is committed. -/
def Ordinary (s : Session) (call : JournalCall) (_ : Io) : Prop :=
  match call with
  | .append type payload =>
    payload.length ≤ kScanPayloadBound ∧ (type = .txnCommit → s.exposed = true)
  | .commit => ∀ record ∈ s.staged, Plain record.type
  | _ => True

/-- The bytes a call adds to the file when it succeeds. -/
def recordLength : JournalCall → ℕ
  | .begin _ => kJournalRecordHeaderSize + 8
  | .append _ payload => kJournalRecordHeaderSize + payload.length
  | .commit => kJournalRecordHeaderSize + 24
  | .rollback => 0

section Successes

theorem writeRecord_ok_iff (hopen : journal.isOpen = true) :
    (journal.writeRecord type txn payload io).failure = none ↔ ¬Fails io ∧
      payload.length ≤ journal.config.maxPayloadBytes.toNat ∧ payload.length ≤ 0xFFFFFFFF := by
  by_cases hio : Fails io
  · exact iff_of_false (fun hwritten ↦ not_fails_of_written hwritten hio) fun h ↦ h.1 hio
  · have hwrite := wrote_writeRecord hopen hio type txn payload
    generalize journal.writeRecord type txn payload io = result at hwrite ⊢
    cases hwrite with
    | refused hlarge => exact iff_of_false (Option.some_ne_none _) fun h ↦ hlarge h.2
    | written hfits => exact iff_of_true rfl ⟨hio, hfits⟩

theorem begin_ok_iff (hopen : journal.isOpen = true) :
    (journal.begin txn io).failure = none ↔ ¬Fails io ∧ Recorded journal (.begin txn) := by
  have hwrite := @writeRecord_ok_iff journal io .txnBegin txn (putU64 txn) hopen
  rw [putU64_length] at hwrite
  simp only [JournalFile.begin, Recorded]
  rw [if_neg (by rw [hopen]; exact Bool.false_ne_true)]
  by_cases hbusy : journal.txnOpen = true
  · rw [if_pos hbusy]
    refine iff_of_false (Option.some_ne_none _) fun h ↦ ?_
    exact absurd (h.2.1.symm.trans hbusy) Bool.false_ne_true
  · rw [if_neg hbusy, and_iff_right (Bool.eq_false_of_not_eq_true hbusy)]
    by_cases htxn : txn = 0
    · rw [if_pos htxn]
      exact iff_of_false (Option.some_ne_none _) fun h ↦ h.2.1 htxn
    · have hsmall : 8 ≤ 0xFFFFFFFF := by decide
      rw [and_iff_left hsmall] at hwrite
      rw [if_neg htxn, and_iff_right htxn, ← hwrite]
      split <;> exact Iff.rfl

theorem append_ok_iff (hopen : journal.isOpen = true) :
    (journal.append type payload io).failure = none ↔
      ¬Fails io ∧ Admits journal payload.length := by
  have hwrite := @writeRecord_ok_iff journal io type journal.txnId payload hopen
  simp only [JournalFile.append]
  rw [if_neg (by rw [hopen]; exact Bool.false_ne_true)]
  by_cases hbusy : journal.txnOpen = true
  · rw [if_neg (by rw [hbusy]; exact Bool.false_ne_true), Admits, and_iff_right hbusy, ← hwrite]
    split <;> exact Iff.rfl
  · rw [if_pos (by rw [Bool.eq_false_of_not_eq_true hbusy]; rfl)]
    exact iff_of_false (Option.some_ne_none _) fun h ↦ hbusy h.2.1

theorem commit_ok_iff (hopen : journal.isOpen = true) :
    (journal.commit io).failure = none ↔
      ¬Fails io ∧ Admits journal 24 ∧ (barrier journal io.tail).1 = true := by
  have hlength := length_commitPayload journal.txnId journal.txnRecordCount journal.txnBytes
  have hok := @writeRecord_ok_iff journal io .txnCommit journal.txnId
    (commitPayload journal.txnId journal.txnRecordCount journal.txnBytes) hopen
  simp only [JournalFile.commit]
  rw [if_neg (by rw [hopen]; exact Bool.false_ne_true)]
  by_cases hbusy : journal.txnOpen = true
  · rw [if_neg (by rw [hbusy]; exact Bool.false_ne_true), Admits, and_iff_right hbusy]
    rw [hlength] at hok
    by_cases hwritten : ¬Fails io ∧ 24 ≤ journal.config.maxPayloadBytes.toNat ∧ 24 ≤ 0xFFFFFFFF
    · have hwrite := wrote_writeRecord hopen hwritten.1 .txnCommit journal.txnId
        (commitPayload journal.txnId journal.txnRecordCount journal.txnBytes)
      have hnone := hok.2 hwritten
      generalize journal.writeRecord .txnCommit journal.txnId _ io = result at hwrite hnone ⊢
      cases hwrite with
      | refused => cases hnone
      | written _ hextended =>
        rw [and_iff_right hwritten.1, and_iff_right hwritten.2]
        simp only [barrier_config hextended.config]
        cases hbarrier : barrier journal io.tail with
        | mk durable left =>
          cases durable with
          | true => exact iff_of_true rfl rfl
          | false => exact iff_of_false (Option.some_ne_none _) Bool.false_ne_true
    · refine iff_of_false (fun hcommitted ↦ hwritten (hok.1 ?_)) fun h ↦ hwritten ⟨h.1, h.2.1⟩
      split at hcommitted
      · next hfailed => exact hcommitted
      · assumption
  · rw [if_pos (by rw [Bool.eq_false_of_not_eq_true hbusy]; rfl)]
    exact iff_of_false (Option.some_ne_none _) fun h ↦ hbusy h.2.1.1

theorem written_of_ok (hopen : s.journal.isOpen = true) (hok : Succeeds s call io) :
    ¬Fails io ∧ Recorded s.journal call ∧
      (call = .commit → (barrier s.journal io.tail).1 = true) := by
  cases call with
  | begin txn =>
    obtain ⟨hio, hrecorded⟩ := (begin_ok_iff hopen).1 hok
    refine ⟨hio, hrecorded, fun hcommit ↦ ?_⟩
    cases hcommit
  | append type payload =>
    obtain ⟨hio, hrecorded⟩ := (append_ok_iff hopen).1 hok
    refine ⟨hio, hrecorded, fun hcommit ↦ ?_⟩
    cases hcommit
  | commit =>
    obtain ⟨hio, hrecorded, hdurable⟩ := (commit_ok_iff hopen).1 hok
    exact ⟨hio, hrecorded, fun _ ↦ hdurable⟩
  | rollback => exact hok.elim

end Successes

section Runs

/-- While every call succeeds, an open transaction that holds data records only is exposed: nothing
has closed it in the file. -/
structure Unbroken (s : Session) : Prop where
  isOpen : s.journal.isOpen = true
  exposed : s.journal.txnOpen = true → (∀ record ∈ s.staged, Plain record.type) → s.exposed = true

theorem orderly_iff_ordinary (h : Unbroken s) (hok : Succeeds s call io) :
    Orderly s call io ↔ Ordinary s call io := by
  obtain ⟨-, hrecorded, hdurable⟩ := written_of_ok h.isOpen hok
  cases call with
  | begin txn => exact Iff.rfl
  | append type payload => exact forall_prop_of_true hrecorded
  | commit =>
    refine (forall_prop_of_true hrecorded).trans ⟨fun horderly ↦ horderly.2 (hdurable rfl), ?_⟩
    exact fun hplain ↦ ⟨h.exposed hrecorded.1 hplain, fun _ ↦ hplain⟩
  | rollback => exact Iff.rfl

theorem length_extended {journal' : JournalFile} {record : JournalRecord}
    (h : Extends journal journal' record) : journal'.file.length =
      journal.file.length + (kJournalRecordHeaderSize + record.payload.length) := by
  rw [h.file, List.length_append, frame_length]

theorem unbroken_call (h : Unbroken s) (hok : Succeeds s call io) :
    Unbroken (s.call io call) ∧
      (s.call io call).journal.file.length = s.journal.file.length + recordLength call := by
  obtain ⟨hio, hrecorded, hdurable⟩ := written_of_ok h.isOpen hok
  have hmoved := moved_call h.isOpen hio call
  generalize s.call io call = t at hmoved ⊢
  cases hmoved with
  | refused hunrecorded => exact absurd hrecorded hunrecorded
  | begins _ hextended =>
    refine ⟨⟨hextended.isOpen, fun _ _ ↦ rfl⟩, (length_extended hextended).trans ?_⟩
    rw [nextRecord, putU64_length, recordLength]
  | @appends type payload journal' hadmits hextended =>
    refine ⟨⟨hextended.isOpen, fun _ hplain ↦ ?_⟩, length_extended hextended⟩
    have hlast : Plain type := hplain _ (List.mem_append_right _ (List.mem_singleton_self _))
    have hbefore := h.exposed hadmits.1 fun r hr ↦ hplain r (List.mem_append_left _ hr)
    simp only [hlast.1, hlast.2, hbefore, ne_eq, not_false_eq_true, decide_true, Bool.and_self,
      decide_false, Bool.or_true]
  | acknowledges _ hlength _ hextended htxnOpen =>
    refine ⟨⟨hextended.isOpen, fun hbusy ↦ ?_⟩, (length_extended hextended).trans ?_⟩
    · exact absurd (htxnOpen.symm.trans hbusy) Bool.false_ne_true
    · rw [nextRecord, hlength, recordLength]
  | unconfirmed _ _ hfailed =>
    exact absurd (hfailed.symm.trans (hdurable rfl)) Bool.false_ne_true
  | abandons => exact hrecorded.elim

theorem unbroken_run (h : Unbroken s) (hok : Along Succeeds s steps) :
    (∀ step ∈ steps, ¬Fails step.2) ∧ (Along Orderly s steps ↔ Along Ordinary s steps) ∧
      (s.run steps).journal.file.length =
        s.journal.file.length + (steps.map fun step ↦ recordLength step.1).sum := by
  induction steps generalizing s with
  | nil => exact ⟨fun _ hnone ↦ absurd hnone List.not_mem_nil, Iff.rfl, rfl⟩
  | cons step steps ih =>
    obtain ⟨hcall, hrest⟩ := hok
    obtain ⟨hnext, hgrown⟩ := unbroken_call h hcall
    obtain ⟨hwrites, horderly, hlength⟩ := ih hnext hrest
    refine ⟨List.forall_mem_cons.2 ⟨(written_of_ok h.isOpen hcall).1, hwrites⟩,
      and_congr (orderly_iff_ordinary h hcall) horderly, ?_⟩
    rw [List.map_cons, List.sum_cons, ← Nat.add_assoc, ← hgrown]
    exact hlength

/-- Over any calls on a new journal that all return ok, with any configuration: the scanner takes
the file and returns every acknowledged record exactly when no record is longer than the scanner
reads, no transaction is committed that holds appended begin or commit records, and the records
come to no more bytes than it takes. -/
theorem scanned_of_acknowledged_iff (hcreate : JournalFile.create config io = some journal)
    (hok : Along Succeeds { journal } steps) :
    Kept (Session.run { journal } steps) ↔ Along Ordinary { journal } steps ∧
      journal.file.length + (steps.map fun step ↦ recordLength step.1).sum ≤
        kJournalMaxScanBytes := by
  obtain ⟨scan, htracks⟩ := tracks_create hcreate
  have hstart : Unbroken { journal } :=
    ⟨htracks.isOpen, fun hbusy ↦ absurd hbusy (created hcreate).2⟩
  obtain ⟨hwrites, horderly, hlength⟩ := unbroken_run hstart hok
  rw [kept_run_iff htracks hwrites, horderly, hlength]

/-- One transaction with one record. -/
def once : List (JournalCall × Io) := [(.begin 1, []), (.append .flowPut [1], []), (.commit, [])]

theorem kept_once : Kept (Session.run { journal := newJournal {} } once) := by
  have hok : Along Succeeds { journal := newJournal {} } once :=
    ⟨rfl, rfl, rfl, trivial⟩
  refine (@scanned_of_acknowledged_iff {} (newJournal {}) [] once rfl hok).2 ⟨⟨trivial, ?_, ?_,
    trivial⟩, by decide +kernel⟩
  · refine ⟨Nat.le_of_ble_eq_true rfl, fun htype ↦ ?_⟩
    cases htype
  · intro record hrecord
    have htype : record.type = .flowPut := by
      rw [List.mem_singleton.1 hrecord]
      rfl
    rw [htype]
    exact ⟨JournalRecordType.noConfusion, JournalRecordType.noConfusion⟩

def wide : JournalConfig := { maxPayloadBytes := 8 * 1024 * 1024 }

def holding (payload : Bytes) : List (JournalCall × Io) :=
  [(.begin 1, []), (.append .flowPut payload, []), (.commit, [])]

theorem succeeds_holding (hadmits : payload.length ≤ 8 * 1024 * 1024) :
    Along Succeeds { journal := newJournal wide } (holding payload) := by
  let opened := Session.call { journal := newJournal wide } [] (.begin 1)
  have hopened : opened.journal.isOpen = true := rfl
  have hbegun : Admits opened.journal payload.length := ⟨rfl, hadmits, by omega⟩
  refine ⟨rfl, (append_ok_iff hopened).2 ⟨not_fails_nil, hbegun⟩, ?_, trivial⟩
  have hmoved := moved_call hopened not_fails_nil (.append .flowPut payload)
  change ((opened.call [] (.append .flowPut payload)).journal.commit []).failure = none
  generalize opened.call [] (.append .flowPut payload) = held at hmoved ⊢
  cases hmoved with
  | refused hunrecorded => exact absurd hbegun hunrecorded
  | appends _ hextended htxnOpen =>
    refine (commit_ok_iff hextended.isOpen).2 ⟨not_fails_nil, ⟨htxnOpen, ?_, by decide⟩, ?_⟩
    · rw [hextended.config]
      decide
    · rw [barrier_config hextended.config]
      rfl

theorem large_record_is_not_scanned : ¬∀ (config : JournalConfig) (io : Io)
    (journal : JournalFile) (steps : List (JournalCall × Io)),
      JournalFile.create config io = some journal → Along Succeeds { journal } steps →
        Kept (Session.run { journal } steps) := by
  intro h
  obtain ⟨payload, hlength⟩ : ∃ payload : Bytes, payload.length = kScanPayloadBound + 1 :=
    ⟨List.replicate (kScanPayloadBound + 1) 0, List.length_replicate⟩
  have hadmits : payload.length ≤ 8 * 1024 * 1024 := by
    rw [hlength]
    decide
  have hkept := h wide [] (newJournal wide) (holding payload) rfl (succeeds_holding hadmits)
  obtain ⟨scan, htracks⟩ := @tracks_create (newJournal wide) [] wide rfl
  have hwrites : ∀ step ∈ holding payload, ¬Fails step.2 := by
    simp only [holding, List.forall_mem_cons]
    exact ⟨not_fails_nil, not_fails_nil, not_fails_nil,
      fun _ hnone ↦ absurd hnone List.not_mem_nil⟩
  obtain ⟨⟨-, horderly, -⟩, -⟩ := (kept_run_iff htracks hwrites).1 hkept
  have hfits := (horderly ⟨rfl, hadmits, by omega⟩).1
  omega

end Runs

end RateGovernor.Safety.ScannableJournal
