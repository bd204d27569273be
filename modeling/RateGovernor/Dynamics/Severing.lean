import RateGovernor.Dynamics.Journaling
import RateGovernor.Dynamics.Snapshots
import RateGovernor.Dynamics.Spacing
import RateGovernor.Dynamics.Transactions

namespace RateGovernor.Dynamics.Severing

open Model.CheckedMath Model.Reason Model.Journal Model.JournalWriter Model.EngineState
open Model.Durability Model.Execution Foundation.ByteCodec Framing Commits Transactions Journaling
open Issue Turns Mirroring Spacing

section Writer

variable {journal : JournalFile} {scan : Scan} {txn : U64} {io : Io}
  {entries : List (JournalRecordType × Bytes)}

theorem writeTransaction_severed (hopen : journal.isOpen = true) (hclosed : journal.txnOpen = false)
    (hclean : Clean journal.file scan) (hstatus : scan.result.status = .ok)
    (hentries : ∀ entry ∈ entries, Plain entry.1 ∧ entry.2.length ≤ kScanPayloadBound)
    (hdone : (writeTransaction journal txn entries io).failure = none) :
    ∃ bytes, (writeTransaction journal txn entries io).journal.file = journal.file ++ bytes ∧
      ∀ n < bytes.length, Reads (journal.file ++ bytes.take n) scan.result.committed := by
  have hbegin : (frame (nextRecord journal .txnBegin txn (putU64 txn))).length = 44 := by
    rw [frame_length]
    exact congrArg (kJournalRecordHeaderSize + ·) (putU64_length txn)
  unfold writeTransaction at hdone ⊢
  simp only at hdone ⊢
  obtain ⟨htxn, hok, hio, -, -, hunderway⟩ | ⟨hbroken, -⟩ :=
    begin_cases hopen hclosed (rfl : journal.begin txn io = _)
  · simp only [hok, hio] at hdone ⊢
    obtain ⟨more, hids, hinitial, ⟨happended, -, hcontents, hunderway, -⟩ | ⟨hbroken, -⟩⟩ :=
      appendAll_cases hunderway (fun entry hmem ↦ (hentries entry hmem).2)
        (rfl : appendAll entries (journal.begin txn io).journal io.tail = _)
    · simp only [happended] at hdone ⊢
      obtain ⟨commit, -, -, hfits, hlength, hend⟩ := commit_cases hunderway rfl
      rw [List.singleton_append] at hend
      rcases hend with ⟨-, hfile, -⟩ | ⟨-, ⟨failure, hfailure⟩, -⟩
      · have hopened : Opened txn entries
            (nextRecord journal .txnBegin txn (putU64 txn) :: more) :=
          ⟨_, more, rfl, ⟨rfl, rfl⟩, hbegin, hids, hinitial⟩
        obtain ⟨hquiet, -, -⟩ := @Opened.quiet scan _ _ _ hopened htxn hentries
        have hdata : ∀ record ∈ more, record.txnId = txn ∧ Plain record.type := fun record hmem ↦
          ⟨hids record hmem, (hentries _ (hcontents ▸ List.mem_map_of_mem hmem)).1⟩
        obtain ⟨mid, hmid, -, hsame⟩ := @acceptAll_opened scan txn
          (nextRecord journal .txnBegin txn (putU64 txn)) more htxn ⟨rfl, rfl⟩ hdata
        have hmidClean := hclean.frames (fun record hmem ↦ (hquiet record hmem).1) hmid
        rw [List.flatMap_append, List.flatMap_singleton] at hfile
        refine ⟨_, hfile, fun n hn ↦ ?_⟩
        rw [List.length_append] at hn
        rw [List.take_append]
        by_cases hpending : n ≤ ((nextRecord journal .txnBegin txn (putU64 txn) :: more).flatMap
            frame).length
        · rw [Nat.sub_eq_zero_of_le hpending, List.take_zero, List.append_nil]
          exact reads_pending hclean hstatus hquiet hmid n
        · rw [List.take_of_length_le (Nat.le_of_not_le hpending), ← List.append_assoc, ← hsame]
          exact reads_truncated hmidClean ((acceptAll_status hmid).trans hstatus) hfits (by omega)
      · rw [hdone] at hfailure
        cases hfailure
    · obtain ⟨failure, hfailure⟩ := hbroken.1
      simp only [hfailure] at hdone
      cases hdone
  · obtain ⟨failure, hfailure⟩ := hbroken.1
    simp only [hfailure] at hdone
    cases hdone

end Writer

section Commits

variable {config : EngineConfig} {tables : Tables} {durability : Durability}
  {base : List JournalRecord} {log records : List (JournalRecordType × Bytes)} {io : Io}

/-- A scan of the file returns the base and records that say what is listed. -/
def Holds (file : Bytes) (base : List JournalRecord) (log : List (JournalRecordType × Bytes)) : Prop :=
  ∃ committed, Reads file committed ∧ Follows base log committed

/-- Bytes are behind the file, and what is cut off within them still holds one of these logs. -/
structure Severed (file file' : Bytes) (base : List JournalRecord)
    (P : List (JournalRecordType × Bytes) → Prop) : Prop where
  extended : file <+: file'
  within : ∀ n, file.length ≤ n → n < file'.length → ∃ log, P log ∧ Holds (file'.take n) base log

theorem maybeCompact_of_room {journal grown : JournalFile} {size : ℕ} (hopen : grown.isOpen = true)
    (hconfig : grown.config = journal.config)
    (hsize : grown.sizeBytes = journal.sizeBytes + UInt64.ofNat size)
    (hroom : journal.config.maxBytes = 0 ∨
      journal.sizeBytes.toNat + size ≤ journal.config.maxBytes.toNat) :
    maybeCompact config tables durability grown io =
      ({ durability with journal := some grown }, io) := by
  refine maybeCompact_of_fits hopen ?_
  rw [hconfig, hsize]
  refine hroom.imp_right fun hle ↦ UInt64.le_iff_toNat_le.mpr ?_
  have hlt := journal.config.maxBytes.toNat_lt
  have hword : UInt64.size = 2 ^ 64 := rfl
  rw [UInt64.toNat_add, UInt64.toNat_ofNat_of_lt' (by omega), Nat.mod_eq_of_lt (by omega)]
  exact hle

theorem severed_commitRecords (hstrict : config.durability = .strict)
    (h : Logging durability base log) (hrecords : records ≠ [])
    (hentries : ∀ record ∈ records, Plain record.1 ∧ record.2.length ≤ kScanPayloadBound)
    (hroom : Roomy durability (transactionSize records))
    (hdone : (commitRecords config tables durability records io).status = none) :
    Severed (fileOf durability)
      (fileOf (commitRecords config tables durability records io).durability) base (· = log) := by
  obtain ⟨journal, scan, hjournal, hsound, hclosed, hlog⟩ := h.sound
  have hfile : fileOf durability = journal.file := by rw [fileOf, hjournal]; rfl
  unfold commitRecords at hdone ⊢
  rw [if_neg (not_not.2 hstrict), if_neg (by rw [h.healthy]; exact Bool.false_ne_true)] at hdone ⊢
  simp only [hjournal] at hdone ⊢
  rw [if_neg (by rw [hsound.isOpen]; exact Bool.false_ne_true), if_neg hrecords] at hdone ⊢
  obtain ⟨hok, ⟨scan', hsound', -⟩, -, hconfig, hsize⟩ | hfailed := writeTransaction_spec hsound hlog
    hclosed (fun record hmem ↦ (hentries record hmem).1)
    (rfl : writeTransaction journal durability.nextTxnId records io = _)
  · simp only [hok, maybeCompact_of_room hsound'.isOpen hconfig hsize (hroom journal hjournal)]
    obtain ⟨bytes, hbytes, hcut⟩ :=
      writeTransaction_severed hsound.isOpen hclosed hsound.clean hsound.status hentries hok
    rw [hfile, fileOf]
    simp only [Option.map_some, Option.getD_some, hbytes]
    refine ⟨List.prefix_append _ _, fun n hbehind hn ↦ ⟨log, rfl, scan.result.committed, ?_, hlog⟩⟩
    rw [List.length_append] at hn
    rw [List.take_append, List.take_of_length_le hbehind]
    exact hcut _ (by omega)
  · obtain ⟨failure, hfailure⟩ := hfailed.1
    simp only [hfailure] at hdone
    cases hdone

theorem Severed.mono {file file' : Bytes} {P Q : List (JournalRecordType × Bytes) → Prop}
    (h : Severed file file' base P) (himp : ∀ log, P log → Q log) : Severed file file' base Q := by
  refine ⟨h.extended, fun n hbehind hn ↦ ?_⟩
  obtain ⟨log, hlog, hholds⟩ := h.within n hbehind hn
  exact ⟨log, himp log hlog, hholds⟩

theorem Severed.trans {file file' file'' : Bytes} {P : List (JournalRecordType × Bytes) → Prop}
    (h : Severed file file' base P) (h' : Severed file' file'' base P) :
    Severed file file'' base P := by
  refine ⟨h.extended.trans h'.extended, fun n hbehind hn ↦ ?_⟩
  by_cases hwithin : n < file'.length
  · obtain ⟨log, hlog, hholds⟩ := h.within n hbehind hwithin
    obtain ⟨rest, rfl⟩ := h'.extended
    rw [List.take_append_of_le_length hwithin.le]
    exact ⟨log, hlog, hholds⟩
  · exact h'.within n (Nat.le_of_not_lt hwithin) hn

theorem Severed.refl (file : Bytes) (P : List (JournalRecordType × Bytes) → Prop) :
    Severed file file base P :=
  ⟨List.prefix_refl file, fun _ hbehind hn ↦ absurd hbehind (Nat.not_le.mpr hn)⟩

/-- A long list is cut between its transactions. -/
theorem severed_commitMany {fuel : ℕ} (hstrict : config.durability = .strict)
    (h : Logging durability base log) (hfuel : records.length ≤ fuel)
    (hentries : ∀ record ∈ records, Plain record.1 ∧ record.2.length ≤ kScanPayloadBound)
    (hroom : Roomy durability (chunksSize fuel records))
    (hdone : (commitMany config tables fuel durability records io).status = none) :
    Severed (fileOf durability)
      (fileOf (commitMany config tables fuel durability records io).durability) base
      fun held ↦ ∃ chunks, kMaxRecordsPerTransaction * chunks < records.length ∧
        held = log ++ records.take (kMaxRecordsPerTransaction * chunks) := by
  induction fuel generalizing durability records log io with
  | zero => exact .refl _ _
  | succ fuel ih =>
    unfold commitMany at hdone ⊢
    split at hdone
    · next hempty =>
      rw [if_pos hempty]
      exact .refl _ _
    · next hrecords =>
      rw [if_neg hrecords]
      rw [chunksSize, if_neg hrecords] at hroom
      have hpos := List.length_pos_iff.mpr hrecords
      have hfirst : records.take kMaxRecordsPerTransaction ≠ [] := by
        rw [ne_eq, List.take_eq_nil_iff, not_or]
        exact ⟨by decide, hrecords⟩
      have hfew : Roomy durability
          (transactionSize (records.take kMaxRecordsPerTransaction)) := fun journal hjournal ↦
        (hroom journal hjournal).imp_right fun hle ↦ by omega
      have hlength : (records.drop kMaxRecordsPerTransaction).length ≤ fuel := by
        rw [List.length_drop, kMaxRecordsPerTransaction]
        omega
      simp only at hdone ⊢
      obtain ⟨hok, hlogging, hroom'⟩ | ⟨⟨error, herror⟩, -⟩ := commitRecords_spec hstrict h hfirst
        (fun record hmem ↦ (hentries record (List.mem_of_mem_take hmem)).1) hroom
        (rfl : commitRecords config tables durability (records.take kMaxRecordsPerTransaction) io = _)
      · have hsevered := severed_commitRecords hstrict h hfirst
          (fun record hmem ↦ hentries record (List.mem_of_mem_take hmem)) hfew hok
        simp only [hok] at hdone ⊢
        have hrest := ih hlogging hlength
          (fun record hmem ↦ hentries record (List.mem_of_mem_drop hmem))
          hroom' hdone
        refine (hsevered.mono ?_).trans (hrest.mono ?_)
        · rintro held rfl
          exact ⟨0, hpos, by rw [Nat.mul_zero, List.take_zero, List.append_nil]⟩
        · rintro held ⟨chunks, hchunks, rfl⟩
          rw [List.length_drop] at hchunks
          refine ⟨chunks + 1, by rw [Nat.mul_add]; omega, ?_⟩
          rw [List.append_assoc, Nat.mul_add, Nat.mul_one, Nat.add_comm, List.take_add]
      · simp only [herror] at hdone
        cases hdone

end Commits

section Steps

variable {s t : System} {action : Action} {decision : Section} {base : List JournalRecord}
  {log : List (JournalRecordType × Bytes)}

/-- So many records of a section can be committed without the others. -/
def Splits (decision : Section) (count : ℕ) : Prop :=
  count = 0 ∨ decision.chunked = true ∧ kMaxRecordsPerTransaction ∣ count ∧
    count < decision.records.length

theorem entries_of_section {event : Event} (hsection : sectionOf s event = some decision)
    {record : JournalRecordType × Bytes} (hmem : record ∈ contents s.engine decision) :
    Plain record.1 ∧ record.2.length ≤ kScanPayloadBound := by
  obtain ⟨staged, hstaged, rfl⟩ := List.mem_map.mp hmem
  exact ⟨plain_of_stages (Staging.stages_of_sectionOf hsection hstaged),
    Snapshots.record_length_le _ staged⟩

/-- A commit that is cut short leaves whole transactions of its section. -/
theorem severed_commit {io : Io} {event : Event} (hstrict : s.engine.config.durability = .strict)
    (h : Logging s.engine.durability base log) (hsection : sectionOf s event = some decision)
    (hroom : Roomy s.engine.durability (sectionSize s.engine decision))
    (hrecords : decision.records ≠ []) (hdone : (decision.commit s.engine io).status = none) :
    Severed (fileOf s.engine.durability) (fileOf (decision.commit s.engine io).durability) base
      fun held ↦ ∃ count, Splits decision count ∧
        held = log ++ (contents s.engine decision).take count := by
  have hcontents : contents s.engine decision ≠ [] := fun hnil ↦
    hrecords (List.map_eq_nil_iff.mp hnil)
  rw [sectionSize, if_neg hrecords] at hroom
  unfold Decision.commit at hdone ⊢
  split at hdone
  · next hchunked =>
    rw [if_pos hchunked] at hroom ⊢
    have hlength : (contents s.engine decision).length = decision.records.length :=
      List.length_map _
    refine (severed_commitMany hstrict h (Nat.le_refl _)
      (fun record hmem ↦ entries_of_section hsection hmem) (hlength.symm ▸ hroom) hdone).mono ?_
    rintro held ⟨chunks, hchunks, rfl⟩
    exact ⟨_, .inr ⟨hchunked, Nat.dvd_mul_right _ _, hlength ▸ hchunks⟩, rfl⟩
  · next hchunked =>
    rw [if_neg hchunked] at hroom ⊢
    refine (severed_commitRecords hstrict h hcontents
      (fun record hmem ↦ entries_of_section hsection hmem) hroom hdone).mono ?_
    rintro held rfl
    exact ⟨0, .inl rfl, by rw [List.take_zero, List.append_nil]⟩

theorem severed_step (hstrict : s.engine.config.durability = .strict)
    (h : Logging s.engine.durability base log) (hroom : Uncompacted s action)
    (hok : Commits s action) (hstep : step s action = some t) :
    Severed (fileOf s.engine.durability) (fileOf t.engine.durability) base fun held ↦
      ∃ decision count, sectionOf s action.event = some decision ∧ Splits decision count ∧
        held = log ++ (contents s.engine decision).take count := by
  obtain ⟨decision, hsection, hturn⟩ := turn_of_step hstep
  cases hturn with
  | quiet hrecords => exact .refl _ _
  | failed hrecords hstatus =>
    rw [hok decision hsection hrecords] at hstatus
    cases hstatus
  | committed hrecords hstatus =>
    refine (severed_commit hstrict h hsection (hroom decision hsection) hrecords hstatus).mono ?_
    rintro held ⟨count, hsplits, rfl⟩
    exact ⟨decision, count, hsection, hsplits, rfl⟩

theorem quiet_or_few {event : Event} (hsection : sectionOf s event = some decision) :
    (∀ record ∈ decision.records, ¬ Issuing record) ∨ decision.records.length ≤ 3 := by
  cases issues_of_sectionOf hsection with
  | nothing ids records => exact .inl records
  | envelope request now room ids records =>
    rw [records]
    exact .inr (Nat.le_add_left 1 2)
  | apply envelope backend id now session admitted plan ids records =>
    rw [records]
    simp only [Model.Lifecycle.dispatchApply, plan, Bool.not_true, Bool.false_eq_true, if_false,
      Model.Lifecycle.publish]
    right
    split <;> simp
  | revoke envelope backend id reason now session admitted ids records =>
    rw [records]
    exact .inr (Nat.le_succ 2)

theorem dues_of_split {event : Event} {count : ℕ} (h : Orderly s)
    (hspacious : Spacious s.engine.config) (hsection : sectionOf s event = some decision)
    (hsplits : Splits decision count) :
    Dues s.engine.config s.engine.tables (serialsOf s.engine.control)
      (decision.records.take count) (serialsOf s.engine.control) := by
  obtain ⟨serials, hdues⟩ := (dues_of_section h hspacious hsection).take count
  have hquiet : ∀ record ∈ decision.records.take count, ¬ Issuing record := by
    intro record hmem
    rcases quiet_or_few hsection with hquiet | hfew
    · exact hquiet record (List.mem_of_mem_take hmem)
    · have hcount : count = 0 := by
        rcases hsplits with hzero | ⟨-, ⟨chunks, hchunks⟩, hshort⟩
        · exact hzero
        · rw [kMaxRecordsPerTransaction] at hchunks
          omega
      rw [hcount, List.take_zero] at hmem
      cases hmem
  obtain rfl := hdues.serials_of_quiet hquiet
  exact hdues

end Steps

end RateGovernor.Dynamics.Severing
