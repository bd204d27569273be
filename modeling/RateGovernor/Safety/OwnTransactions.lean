import RateGovernor.Dynamics.Scanning

namespace RateGovernor.Safety.OwnTransactions

open Model.CheckedMath Model.Journal Foundation.ByteCodec Dynamics.Framing Dynamics.Scanning

variable {file : Bytes} {records : List JournalRecord} {b e i : ℕ} {txn : U64}

def Marks (record : JournalRecord) : Prop := record.type = .txnBegin ∨ record.type = .txnCommit

/-- The position lies between the begin and the commit record of the transaction, with no other
such record in between. -/
def LiesWithin (records : List JournalRecord) (i : ℕ) (txn : U64) : Prop :=
  ∃ b e, b < i ∧ i < e ∧ At records b (fun r ↦ r.type = .txnBegin ∧ r.txnId = txn) ∧
    At records e (fun r ↦ r.type = .txnCommit ∧ r.txnId = txn) ∧
    ∀ j, b < j → j < e → ¬At records j Marks

/-- The positions in the file of the records its scan returns. -/
def committedPositions (file : Bytes) : List ℕ := (traceOf (recordsOf file)).committed

def Closed (records : List JournalRecord) (b e : ℕ) : Prop :=
  OpenSince (records.take e) b ∧ At records e Commits

/-- Each data record in a committed transaction carries its identity, and no begin or commit
record without an identity stands in a transaction that holds data. -/
def Unmixed (records : List JournalRecord) : Prop :=
  ∀ b e, Closed records b e → ∀ i, b < i → i < e → At records i Stages →
    SameTxn records b i ∧ ∀ j, b < j → j < e → ¬At records j fun r ↦ r.txnId = 0 ∧ Marks r

theorem delimits_of_marks {record : JournalRecord} (hid : record.txnId ≠ 0) (h : Marks record) :
    Delimits record :=
  h.imp (⟨hid, ·⟩) (⟨hid, ·⟩)

theorem At.and {P Q : JournalRecord → Prop} (hP : At records i P) (hQ : At records i Q) :
    At records i fun r ↦ P r ∧ Q r := by
  obtain ⟨record, hmem, hp⟩ := hP
  obtain ⟨other, hother, hq⟩ := hQ
  cases hmem.symm.trans hother
  exact ⟨record, hmem, hp, hq⟩

theorem txn_unique {txn' : U64} (h : At records i (·.txnId = txn))
    (h' : At records i (·.txnId = txn')) : txn = txn' := by
  obtain ⟨record, -, rfl, rfl⟩ := At.and h h'
  rfl

theorem Closed.not_delimits (h : Closed records b e) {j : ℕ} (hb : b < j) (he : j < e) :
    ¬At records j Delimits := by
  rintro ⟨record, hmem, hdelimits⟩
  have htake : (records.take e)[j]? = some record := by
    rw [List.getElem?_take_of_lt he]
    exact hmem
  exact h.1.2 j (List.getElem?_eq_some_iff.1 htake).1 hb ⟨record, htake, hdelimits⟩

theorem Closed.begins (h : Closed records b e) : At records b Begins := by
  obtain ⟨record, hmem, hbegins⟩ := h.1.1
  have hlt := (List.getElem?_eq_some_iff.1 hmem).1
  rw [List.length_take] at hlt
  rw [Option.mem_def, List.getElem?_take_of_lt (by omega)] at hmem
  exact ⟨record, hmem, hbegins⟩

theorem Closed.ends_eq (h : Closed records b e) (hb : b < i) (he : i < e) (htxn : txn ≠ 0)
    {b' e' : ℕ} (hb' : b' < i) (he' : i < e')
    (hbegin : At records b' fun r ↦ r.type = .txnBegin ∧ r.txnId = txn)
    (hcommit : At records e' fun r ↦ r.type = .txnCommit ∧ r.txnId = txn)
    (hnone : ∀ j, b' < j → j < e' → ¬At records j Marks) : b = b' ∧ e = e' := by
  constructor
  · obtain hlt | heq | hlt := Nat.lt_trichotomy b b'
    · refine absurd (hbegin.mono fun r hr ↦ .inl ⟨hr.2 ▸ htxn, hr.1⟩) (h.not_delimits hlt ?_)
      omega
    · exact heq
    · exact absurd (h.begins.mono fun r hr ↦ .inl hr.2) (hnone b hlt (by omega))
  · obtain hlt | heq | hlt := Nat.lt_trichotomy e e'
    · exact absurd (h.2.mono fun r hr ↦ .inr hr.2) (hnone e (by omega) hlt)
    · exact heq
    · refine absurd (hcommit.mono fun r hr ↦ .inr ⟨hr.2 ▸ htxn, hr.1⟩) (h.not_delimits ?_ hlt)
      omega

/-- The records a scan returns lie in the transactions that committed them unless the file mixes
transactions. -/
theorem committed_within_iff (hok : (scanJournalFile file).ok = true) :
    (scanJournalFile file).committed.map some =
        (committedPositions file).map ((recordsOf file)[·]?) ∧
      ((∀ i ∈ committedPositions file, ∀ record ∈ (recordsOf file)[i]?, record.txnId ≠ 0 →
        LiesWithin (recordsOf file) i record.txnId) ↔ Unmixed (recordsOf file)) := by
  obtain ⟨scan, htraces, -, hcommitted, -⟩ := traces_of_ok hok
  refine ⟨hcommitted ▸ htraces.committed, fun hwithin b e hclosed i hb he hstages ↦ ?_,
    fun hunmixed i hi record hrecord htxn ↦ ?_⟩
  · have hmem : i ∈ committedPositions file := (htraces.mem_committed i).2
      (.inr ⟨hstages, e, hclosed.2.lt, he, hclosed.2, b, hb, hclosed.1⟩)
    obtain ⟨record, hrecord, hdata⟩ := hstages
    obtain ⟨b', e', hb', he', hbegin, hcommit, hnone⟩ := hwithin i hmem record hrecord hdata.1
    obtain ⟨rfl, rfl⟩ := hclosed.ends_eq hb he hdata.1 hb' he' hbegin hcommit hnone
    exact ⟨⟨record.txnId, hbegin.mono fun _ hr ↦ hr.2, record, hrecord, rfl⟩,
      fun j hj hj' hstray ↦ hnone j hj hj' (hstray.mono fun _ hr ↦ hr.2)⟩
  · obtain ⟨other, hother, hzero⟩ | ⟨hstages, e, -, he, hcommit, b, hb, hopen⟩ :=
      (htraces.mem_committed i).1 hi
    · cases hrecord.symm.trans hother
      exact absurd hzero htxn
    · have hclosed : Closed (recordsOf file) b e := ⟨hopen, hcommit⟩
      obtain ⟨⟨own, hown, hown'⟩, hstray⟩ := hunmixed b e hclosed i hb he hstages
      obtain ⟨txn, hfirst, hlast⟩ := htraces.matched e hcommit b hopen
      obtain rfl := txn_unique hown' ⟨record, hrecord, rfl⟩
      obtain rfl := txn_unique hfirst hown
      refine ⟨b, e, hb, he, ?_, ?_, fun j hj hj' ⟨mark, hmark, hmarks⟩ ↦ ?_⟩
      · exact (At.and hclosed.begins hown).mono fun _ hr ↦ ⟨hr.1.2, hr.2⟩
      · exact (At.and hcommit hlast).mono fun _ hr ↦ ⟨hr.1.2, hr.2⟩
      · by_cases hid : mark.txnId = 0
        · exact hstray j hj hj' ⟨mark, hmark, hid, hmarks⟩
        · exact hclosed.not_delimits hj hj' ⟨mark, hmark, delimits_of_marks hid hmarks⟩

section Sample

def ownRecords : List JournalRecord :=
  [sampleRecord .txnBegin 5, sampleRecord .flowPut 5, sampleRecord .txnCommit 5]

def mixedRecords : List JournalRecord :=
  [sampleRecord .txnBegin 5, sampleRecord .flowPut 7, sampleRecord .txnCommit 5]

theorem ownRecords_fit : ∀ record ∈ ownRecords, Fits record := fits_of_bare (by decide)

theorem mixedRecords_fit : ∀ record ∈ mixedRecords, Fits record := fits_of_bare (by decide)

theorem scan_ownRecords : (scanJournalFile (ownRecords.flatMap frame)).ok = true := by
  rw [scan_frames ownRecords_fit (by decide) rfl]
  rfl

theorem scan_mixedRecords : (scanJournalFile (mixedRecords.flatMap frame)).ok = true := by
  rw [scan_frames mixedRecords_fit (by decide) rfl]
  rfl

end Sample

theorem committed_within_own :
    (scanJournalFile (ownRecords.flatMap frame)).committed.map some =
        (committedPositions (ownRecords.flatMap frame)).map
          ((recordsOf (ownRecords.flatMap frame))[·]?) ∧
      ((∀ i ∈ committedPositions (ownRecords.flatMap frame),
        ∀ record ∈ (recordsOf (ownRecords.flatMap frame))[i]?, record.txnId ≠ 0 →
          LiesWithin (recordsOf (ownRecords.flatMap frame)) i record.txnId) ↔
        Unmixed (recordsOf (ownRecords.flatMap frame))) :=
  committed_within_iff scan_ownRecords

theorem foreign_record_committed : ¬∀ file, (scanJournalFile file).ok = true →
    ∀ i ∈ committedPositions file, ∀ record ∈ (recordsOf file)[i]?, record.txnId ≠ 0 →
      LiesWithin (recordsOf file) i record.txnId := by
  intro hclaim
  have hrecords := recordsOf_frames mixedRecords_fit
  have hwithin := hclaim _ scan_mixedRecords 1 (by rw [committedPositions, hrecords]; decide)
    (sampleRecord .flowPut 7) (by rw [hrecords]; rfl) (by decide)
  rw [hrecords] at hwithin
  obtain ⟨b, e, hb, -, ⟨record, hrecord, -, htxn⟩, -⟩ := hwithin
  obtain rfl : b = 0 := by omega
  cases hrecord
  exact absurd htxn (by decide)

end RateGovernor.Safety.OwnTransactions
