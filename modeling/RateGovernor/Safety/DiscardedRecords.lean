import RateGovernor.Dynamics.Scanning

namespace RateGovernor.Safety.DiscardedRecords

open Model.CheckedMath Model.Journal Foundation.ByteCodec Dynamics.Framing Dynamics.Scanning

variable {file : Bytes} {records : List JournalRecord}

def IsData (record : JournalRecord) : Prop := record.type ≠ .txnBegin ∧ record.type ≠ .txnCommit

def Stray (record : JournalRecord) : Prop := record.txnId = 0 ∧ ¬IsData record

instance : DecidablePred IsData := fun _ ↦ inferInstanceAs (Decidable (_ ∧ _))
instance : DecidablePred Stray := fun _ ↦ inferInstanceAs (Decidable (_ ∧ _))

def dataRecords (file : Bytes) : ℕ := (recordsOf file).countP (IsData ·)

def strayRecords (file : Bytes) : ℕ := (recordsOf file).countP (Stray ·)

/-- How many data records stand in a transaction that another begin record cuts off. -/
def overtakenRecords (file : Bytes) : ℕ :=
  (List.range (recordsOf file).length).countP (ClosedBy Begins (recordsOf file) ·)

/-- What the scan returns or counts as discarded. -/
def accountedRecords (file : Bytes) : ℕ :=
  (scanJournalFile file).committed.length +
    (scanJournalFile file).discardedUncommittedRecords.toNat

theorem not_delimits_iff (record : JournalRecord) :
    ¬Delimits record ↔ IsData record ∨ Stray record := by
  unfold Delimits Begins Commits Stray
  by_cases hid : record.txnId = 0
  · simp only [hid, ne_eq, not_true_eq_false, false_and, or_self, not_false_eq_true, true_and,
      true_iff]
    exact Decidable.em _
  · simp only [hid, ne_eq, not_false_eq_true, true_and, false_and, or_false, not_or, IsData]

theorem countP_not_delimits (records : List JournalRecord) :
    records.countP (¬Delimits ·) = records.countP (IsData ·) + records.countP (Stray ·) := by
  induction records with
  | nil => rfl
  | cons record records ih =>
    have hsplit := not_delimits_iff record
    simp only [List.countP_cons, ih, decide_eq_true_eq]
    by_cases hdata : IsData record
    · have hstray : ¬Stray record := fun hstray ↦ hstray.2 hdata
      simp only [hdata, hstray, hsplit, true_or, if_true, if_false]
      omega
    · by_cases hstray : Stray record
      · simp only [hdata, hstray, hsplit, or_true, if_true, if_false]
        omega
      · simp only [hdata, hstray, hsplit, or_self, if_false, Nat.add_zero]

theorem countP_overtaken {overtaken : List ℕ} (hdistinct : overtaken.Nodup)
    (hmem : ∀ i, i ∈ overtaken ↔ ClosedBy Begins records i) :
    (List.range records.length).countP (ClosedBy Begins records ·) = overtaken.length := by
  have hperm : (List.range records.length).filter (ClosedBy Begins records ·) |>.Perm overtaken := by
    rw [List.perm_ext_iff_of_nodup (List.nodup_range.filter _) hdistinct]
    intro i
    rw [List.mem_filter, List.mem_range, decide_eq_true_eq, hmem]
    exact and_iff_right_of_imp fun hclosed ↦ hclosed.1.lt
  rw [List.countP_eq_length_filter, hperm.length_eq]

/-- The scan accounts for every data record exactly when as many are overtaken as strays are
returned in their place. -/
theorem every_record_accounted_iff (hok : (scanJournalFile file).ok = true) :
    dataRecords file = accountedRecords file ↔ overtakenRecords file = strayRecords file := by
  obtain ⟨scan, htraces, hroom, hcommitted, hdiscarded⟩ := traces_of_ok hok
  have hcounted := htraces.counted
  have hall := @List.countP_le_length _ (fun r ↦ decide ¬Delimits r) (recordsOf file)
  have hovertaken := countP_overtaken (List.nodup_append.1 htraces.distinct).1
    htraces.mem_overtaken
  have hsum : accountedRecords file + overtakenRecords file =
      dataRecords file + strayRecords file := by
    have htotal : (scan.result.discardedUncommittedRecords +
        UInt64.ofNat scan.pending.length).toNat =
          scan.result.discardedUncommittedRecords.toNat + scan.pending.length := by
      rw [UInt64.toNat_add, UInt64.toNat_ofNat_of_lt' (by change _ < 2 ^ 64; omega)]
      exact Nat.mod_eq_of_lt (by omega)
    rw [accountedRecords, overtakenRecords, dataRecords, strayRecords, hcommitted, hdiscarded,
      htotal, hovertaken, ← countP_not_delimits, ← hcounted]
    omega
  omega

section Sample

def tidyRecords : List JournalRecord :=
  [sampleRecord .txnBegin 1, sampleRecord .flowPut 1, sampleRecord .txnCommit 1,
   sampleRecord .txnBegin 2, sampleRecord .flowPut 2]

def rolledBackRecords : List JournalRecord :=
  [sampleRecord .txnBegin 1, sampleRecord .flowPut 1, sampleRecord .txnBegin 2,
   sampleRecord .txnCommit 2]

theorem tidyRecords_fit : ∀ record ∈ tidyRecords, Fits record := fits_of_bare (by decide)

theorem rolledBackRecords_fit : ∀ record ∈ rolledBackRecords, Fits record :=
  fits_of_bare (by decide)

end Sample

theorem tidy_records_accounted :
    dataRecords (tidyRecords.flatMap frame) = accountedRecords (tidyRecords.flatMap frame) ↔
      overtakenRecords (tidyRecords.flatMap frame) = strayRecords (tidyRecords.flatMap frame) := by
  refine every_record_accounted_iff ?_
  rw [scan_frames tidyRecords_fit (by decide) rfl]
  rfl

theorem rolled_back_record_uncounted : ¬∀ file, (scanJournalFile file).ok = true →
    dataRecords file = accountedRecords file := by
  intro hclaim
  have hscan : scanJournalFile (rolledBackRecords.flatMap frame) = Scan.finish _ :=
    scan_frames rolledBackRecords_fit (by decide) rfl
  have hequal := hclaim (rolledBackRecords.flatMap frame) (by rw [hscan]; rfl)
  rw [dataRecords, accountedRecords, recordsOf_frames rolledBackRecords_fit, hscan] at hequal
  exact absurd hequal (by decide)

end RateGovernor.Safety.DiscardedRecords
