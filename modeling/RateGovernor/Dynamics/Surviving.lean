import RateGovernor.Dynamics.Integrity
import RateGovernor.Dynamics.Restoring

namespace RateGovernor.Dynamics.Surviving

open Model.CheckedMath Model.Journal Model.JournalWriter Model.EngineState Model.Durability
open Model.Execution Model.Recovery Foundation.ByteCodec Framing Commits Transactions Compacting
open Halting Journaling Integrity Buckets Restoring

variable {file origin : Bytes} {entries : List (JournalRecordType × Bytes)} {scan : Scan}
  {journal : JournalFile} {txn : U64} {io : Io} {result : Written}

section Growth

/-- A file with some leading bytes of one transaction behind what it held before. -/
inductive Grown (origin : Bytes) (entries : List (JournalRecordType × Bytes)) : Bytes → Prop
  | same : Grown origin entries origin
  | pending {txn : U64} {frames : List JournalRecord} (opened : Opened txn entries frames)
      (nonzero : txn ≠ 0) (n : ℕ) : Grown origin entries (origin ++ (frames.flatMap frame).take n)
  | whole {txn : U64} {begin commit : JournalRecord} {data : List JournalRecord}
      (opened : Opened txn entries (begin :: data)) (complete : data.map content = entries)
      (nonzero : txn ≠ 0) (type : commit.type = .txnCommit) (txnId : commit.txnId = txn)
      (fits : Fits commit) (n : ℕ) :
      Grown origin entries (origin ++ ((begin :: data ++ [commit]).flatMap frame).take n)

theorem Grown.prefix (h : Grown origin entries file) : origin <+: file := by
  cases h with
  | same => exact List.prefix_rfl
  | pending => exact List.prefix_append _ _
  | whole => exact List.prefix_append _ _

theorem take_behind {more : Bytes} {n m : ℕ} (hn : origin.length ≤ n) :
    (origin ++ more.take m).take n = origin ++ more.take (min (n - origin.length) m) := by
  rw [List.take_append, List.take_of_length_le hn, List.take_take]

theorem Grown.cut (h : Grown origin entries file) {n : ℕ} (hn : origin.length ≤ n) :
    Grown origin entries (file.take n) := by
  cases h with
  | same =>
    rw [List.take_of_length_le hn]
    exact .same
  | pending opened nonzero m =>
    rw [take_behind hn]
    exact .pending opened nonzero _
  | whole opened complete nonzero type txnId fits m =>
    rw [take_behind hn]
    exact .whole opened complete nonzero type txnId fits _

theorem recordsIn_of_reads {committed : List JournalRecord} (h : Reads file committed) :
    recordsIn file = committed.map content := by
  unfold recordsIn
  rw [h.2]

theorem recordsIn_of_clean (h : Clean file scan) :
    recordsIn file = scan.result.committed.map content := by
  unfold recordsIn
  rw [h.scanBytes]

theorem Grown.recordsIn (h : Grown origin entries file) (hclean : Clean origin scan)
    (hstatus : scan.result.status = .ok) (hentries : Admissible entries) :
    recordsIn file = recordsIn origin ∨ recordsIn file = recordsIn origin ++ entries := by
  rw [recordsIn_of_clean hclean]
  cases h with
  | same => exact .inl (recordsIn_of_clean hclean)
  | pending opened nonzero n =>
    obtain ⟨hquiet, -, scan', haccept⟩ := @Opened.quiet scan _ _ _ opened nonzero hentries
    exact .inl (recordsIn_of_reads (reads_pending hclean hstatus hquiet haccept n))
  | @whole txn begin commit data opened complete nonzero type txnId fits n =>
    obtain ⟨hquiet, -, -⟩ := @Opened.quiet scan _ _ _ opened nonzero hentries
    obtain ⟨_, _, hframes, hbegin, -, hids, -⟩ := opened.frames
    cases hframes
    have hdata : ∀ record ∈ data, record.txnId = txn ∧ Plain record.type := fun record hmem ↦
      ⟨hids record hmem, (hentries _ (complete ▸ List.mem_map_of_mem hmem)).1⟩
    obtain ⟨mid, hmid, hinside, hsame⟩ := @acceptAll_opened scan txn begin data nonzero hbegin hdata
    have hmidClean := hclean.frames (fun record hmem ↦ (hquiet record hmem).1) hmid
    have hmidStatus := (acceptAll_status hmid).trans hstatus
    rw [List.flatMap_append, List.flatMap_singleton, List.take_append]
    by_cases hbody : n ≤ ((begin :: data).flatMap frame).length
    · rw [Nat.sub_eq_zero_of_le hbody, List.take_zero, List.append_nil]
      exact .inl (recordsIn_of_reads (reads_pending hclean hstatus hquiet hmid n))
    · rw [List.take_of_length_le (Nat.le_of_not_le hbody), ← List.append_assoc]
      by_cases hcommit : n - ((begin :: data).flatMap frame).length < (frame commit).length
      · refine .inl ?_
        rw [recordsIn_of_reads (reads_truncated hmidClean hmidStatus fits hcommit), hsame]
      · obtain ⟨scan', hscan, hfollows⟩ := accept_commit hinside nonzero txnId type
        rw [List.take_of_length_le (Nat.le_of_not_lt hcommit)]
        refine .inr ?_
        rw [recordsIn_of_clean (hmidClean.frame fits hscan), hfollows.contents, List.nil_append,
          complete]

theorem opened_begin (journal : JournalFile) (txn : U64) {data : List JournalRecord}
    (hids : ∀ record ∈ data, record.txnId = txn) (hdata : data.map content <+: entries) :
    Opened txn entries (nextRecord journal .txnBegin txn (putU64 txn) :: data) := by
  refine ⟨_, data, rfl, ⟨rfl, rfl⟩, ?_, hids, hdata⟩
  rw [frame_length]
  exact congrArg (kJournalRecordHeaderSize + ·) (putU64_length txn)

theorem Broken.grown {frames : List JournalRecord} (h : Broken result journal frames)
    (hopened : Opened txn entries frames) (htxn : txn ≠ 0) :
    Grown journal.file entries result.journal.file := by
  obtain ⟨-, n, hfile⟩ := h
  rw [hfile]
  exact .pending hopened htxn n

/-- What one transaction does to the file, whatever becomes of it. -/
theorem grown_writeTransaction (hopen : journal.isOpen = true) (hclosed : journal.txnOpen = false)
    (hentries : Admissible entries) (hresult : writeTransaction journal txn entries io = result) :
    Grown journal.file entries result.journal.file := by
  unfold writeTransaction at hresult
  simp only at hresult
  obtain ⟨htxn, hok, -, -, -, hunderway⟩ | ⟨hbroken, hcause⟩ :=
    begin_cases hopen hclosed (rfl : journal.begin txn io = _)
  · simp only [hok] at hresult
    obtain ⟨more, hids, hinitial, ⟨hdone, -, hcontents, hunderway, -⟩ | ⟨hbroken, -⟩⟩ :=
      appendAll_cases hunderway (fun entry hmem ↦ (hentries entry hmem).2)
        (rfl : appendAll entries (journal.begin txn io).journal (journal.begin txn io).io = _)
    · simp only [hdone] at hresult
      obtain ⟨commit, htype, hid, hfits, hlength, hend⟩ := commit_cases hunderway hresult
      have hopened := opened_begin journal txn hids hinitial
      rw [List.singleton_append] at hend
      obtain ⟨-, hfile, -⟩ | ⟨-, -, n, hn, hfile⟩ := hend
      · rw [hfile, ← List.take_length (l := (_ :: more ++ [commit]).flatMap frame)]
        exact .whole hopened hcontents htxn htype hid hfits _
      · have hwhole : Grown journal.file entries _ := .whole hopened hcontents htxn htype hid hfits
          (((nextRecord journal .txnBegin txn (putU64 txn) :: more).flatMap frame).length + n)
        rw [List.flatMap_append, List.flatMap_singleton, List.take_length_add_append,
          ← List.append_assoc] at hwhole
        rw [hfile]
        exact hwhole
    · obtain ⟨failure, hfailure⟩ := hbroken.1
      simp only [hfailure] at hresult
      subst hresult
      simp only [file_rollback]
      exact Broken.grown hbroken (opened_begin journal txn hids hinitial) htxn
  · obtain ⟨failure, hfailure⟩ := hbroken.1
    simp only [hfailure] at hresult
    subst hresult
    simp only [file_rollback]
    obtain ⟨-, hfile⟩ | ⟨htxn, -⟩ := hcause
    · rw [hfile]
      exact .same
    · exact Broken.grown hbroken (opened_begin journal txn nofun List.nil_prefix) htxn

theorem grown_compactedFile (snapshot : List (JournalRecordType × Bytes))
    (hfits : ∀ entry ∈ snapshot, entry.2.length ≤ kScanPayloadBound) :
    Grown (frame compactedHeader) snapshot (compactedFile snapshot) := by
  have hopened : Opened 1 snapshot (compactedBegin :: snapshotRecords snapshot) := by
    refine ⟨_, _, rfl, ⟨rfl, rfl⟩, by rw [frame_length]; rfl,
      fun record hmem ↦ (mem_snapshotRecords hmem).1, ?_⟩
    exact ⟨[], (List.append_nil _).trans (content_snapshotRecords snapshot)⟩
  have hcommit : compactedCommit snapshot ∈ compactedRecords snapshot := by
    rw [compactedRecords_eq, List.mem_cons, List.mem_cons, List.mem_append, List.mem_singleton]
    exact .inr (.inr (.inr rfl))
  have hwhole : Grown (frame compactedHeader) snapshot _ := .whole hopened
    (content_snapshotRecords snapshot) (by decide) rfl rfl (fits_compacted hfits hcommit)
    ((compactedBegin :: snapshotRecords snapshot ++ [compactedCommit snapshot]).flatMap
      frame).length
  rw [List.take_length] at hwhole
  exact hwhole

end Growth

section Sanity

/-- Wherever the file is cut, what is left of it restores accounted envelopes. -/
def Sane (file : Bytes) : Prop := ∀ n, Restores (recordsIn (file.take n))

theorem Sane.take (h : Sane file) (n : ℕ) : Sane (file.take n) := by
  intro m
  rw [List.take_take]
  exact h _

theorem Sane.restores (h : Sane file) : Restores (recordsIn file) := by
  have hfile := h file.length
  rwa [List.take_length] at hfile

theorem Grown.sane (h : Grown origin entries file) (hclean : Clean origin scan)
    (hstatus : scan.result.status = .ok) (hentries : Admissible entries) (hsane : Sane origin)
    (hrestores : Restores entries) : Sane file := by
  intro n
  obtain hn | hn := Nat.lt_or_ge n origin.length
  · obtain ⟨rest, rfl⟩ := h.prefix
    rw [List.take_append_of_le_length (Nat.le_of_lt hn)]
    exact hsane n
  · obtain hsame | hmore := (h.cut hn).recordsIn hclean hstatus hentries
    · rw [hsame]
      exact hsane.restores
    · rw [hmore]
      exact hsane.restores.append hrestores

theorem sane_record {record : JournalRecord} (hfits : Fits record)
    (haccept : ({} : Scan).accept record = some scan)
    (hrestores : Restores (scan.result.committed.map content)) : Sane (frame record) := by
  intro n
  obtain hn | hn := Nat.lt_or_ge n (frame record).length
  · have hreads := reads_truncated clean_nil rfl hfits hn
    rw [List.nil_append] at hreads
    rw [recordsIn_of_reads hreads]
    exact restores_nil
  · have hclean := clean_nil.frame hfits haccept
    rw [List.nil_append] at hclean
    rw [List.take_of_length_le hn, recordsIn_of_clean hclean]
    exact hrestores

theorem restores_header (payload : Bytes) : Restores [(.fileHeader, payload)] := by
  refine EachAccounted.restores fun entry hmem envelope hentry ↦ ?_
  obtain rfl := List.mem_singleton.1 hmem
  cases hentry

theorem sane_compactedFile {snapshot : List (JournalRecordType × Bytes)}
    (hsnapshot : Admissible snapshot) (hrestores : Restores snapshot) :
    Sane (compactedFile snapshot) := by
  have hheader : Fits compactedHeader := Nat.le_of_ble_eq_true rfl
  obtain ⟨scan, haccept, hstatus, hcommitted⟩ : ∃ scan,
      ({} : Scan).accept compactedHeader = some scan ∧ scan.result.status = .ok ∧
        scan.result.committed.map content = [(.fileHeader, bannerPayload)] := ⟨_, rfl, rfl, rfl⟩
  have hclean := clean_nil.frame hheader haccept
  rw [List.nil_append] at hclean
  have hheld : Restores (scan.result.committed.map content) := by
    rw [hcommitted]
    exact restores_header _
  exact (grown_compactedFile snapshot fun entry hmem ↦ (hsnapshot entry hmem).2).sane hclean hstatus
    hsnapshot (sane_record hheader haccept hheld) hrestores

theorem sane_create {config : JournalConfig} (h : JournalFile.create config io = some journal) :
    Sane journal.file := by
  have hfits : Fits (nextRecord { config } .fileHeader 0 bannerPayload) :=
    Nat.le_of_ble_eq_true rfl
  obtain ⟨scan, haccept, hcommitted⟩ : ∃ scan,
      ({} : Scan).accept (nextRecord { config } .fileHeader 0 bannerPayload) = some scan ∧
        scan.result.committed.map content = [(.fileHeader, bannerPayload)] := ⟨_, rfl, rfl⟩
  unfold JournalFile.create at h
  obtain ⟨hok, -, -, -, sizeBytes, lastSequence, recordCount, hjournal⟩ | ⟨⟨failure, hfailure⟩, -⟩ :=
    @writeRecord_cases { config } .fileHeader 0 bannerPayload io _ rfl hfits rfl
  · simp only [hok] at h
    split at h
    · cases h
    · cases h
    · cases h
      rw [hjournal]
      show Sane ([] ++ frame (nextRecord { config } .fileHeader 0 bannerPayload))
      rw [List.nil_append]
      refine sane_record hfits haccept ?_
      rw [hcommitted]
      exact restores_header _
  · simp only [hfailure] at h
    cases h

end Sanity

section Reliability

variable {config : EngineConfig} {tables : Tables} {durability : Durability} {base : Bytes}

/-- The file restores accounted envelopes wherever it is cut, and goes on doing so. -/
structure Reliable (durability : Durability) : Prop where
  sane : ∀ journal, durability.journal = some journal → Sane journal.file
  untorn : Kept Untorn durability

structure Trailing (base : Bytes) (durability : Durability) : Prop where
  behind : ∀ journal, durability.journal = some journal → base <+: journal.file
  idle : Kept Idle durability

theorem Reliable.idle (h : Reliable durability) : Kept Idle durability :=
  h.untorn.imp_right fun huntorn journal hjournal hopen ↦ (huntorn journal hjournal hopen).closed

theorem restores_snapshot (hall : AllAccounted tables.envelopes) :
    Restores (buildSnapshotRecords config tables) :=
  (eachAccounted_snapshot hall).restores

theorem maybeCompact_file (hall : AllAccounted tables.envelopes) :
    Reliable (maybeCompact config tables durability journal io).1 ∨
      ∃ journal', (maybeCompact config tables durability journal io).1.journal = some journal' ∧
        journal'.file = journal.file := by
  have hsnapshot : Admissible (buildSnapshotRecords config tables) := fun _ ↦ snapshot_entries
  have hsane := sane_compactedFile hsnapshot (restores_snapshot hall)
  unfold maybeCompact
  split
  · exact .inr ⟨journal, rfl, rfl⟩
  · split
    · exact .inr ⟨journal, rfl, rfl⟩
    · have hcases := compactWith_cases
        (rfl : journal.compactWith (buildSnapshotRecords config tables) io = _)
      simp only
      generalize journal.compactWith (buildSnapshotRecords config tables) io = result at hcases
      obtain hsame | ⟨-, ⟨failure, hfailure⟩, hsame | hreplaced⟩ | ⟨hclosed, hreplaced⟩ := hcases
      · refine .inr ?_
        split
        · exact ⟨_, rfl, congrArg (·.file) hsame⟩
        · exact ⟨_, rfl, congrArg (·.file) hsame⟩
      · simp only [hfailure]
        exact .inr ⟨_, rfl, hsame⟩
      · simp only [hfailure]
        refine .inl ⟨fun journal' hjournal' ↦ ?_, .inl rfl⟩
        cases hjournal'
        rw [hreplaced]
        exact hsane
      · refine .inl ?_
        split
        all_goals
          refine ⟨fun journal' hjournal' ↦ ?_, .inr fun journal' hjournal' _ ↦ ?_⟩
          · cases hjournal'
            rw [hreplaced]
            exact hsane
          · cases hjournal'
            rw [hreplaced]
            exact stable_untorn.compacted hclosed trivial

/-- A commit leaves the journal alone, appends to its file, or replaces it by a snapshot. -/
theorem commitRecords_file (h : Kept Idle durability) (hentries : Admissible entries)
    (hall : AllAccounted tables.envelopes) :
    (commitRecords config tables durability entries io).durability = durability ∨
    Reliable (commitRecords config tables durability entries io).durability ∨
    ∃ journal journal', durability.degraded = false ∧ durability.journal = some journal ∧
      journal.isOpen = true ∧
      (commitRecords config tables durability entries io).durability.journal = some journal' ∧
      Grown journal.file entries journal'.file := by
  by_cases hstrict : config.durability = .strict
  · by_cases hworking : Stuck config durability
    · obtain ⟨error, herror⟩ := @commitRecords_stuck config tables durability io entries hworking
      rw [herror]
      exact .inl rfl
    · by_cases hne : entries = []
      · rw [hne, commitRecords_nil]
        exact .inl rfl
      · obtain ⟨hhealthy, journal, hjournal, hopen⟩ := working_of_not_stuck hstrict hworking
        have hidle := (h.resolve_left (by rw [hhealthy]; exact nofun)) journal hjournal hopen
        have hgrown := grown_writeTransaction hopen hidle hentries
          (rfl : writeTransaction journal durability.nextTxnId entries io = _)
        obtain ⟨hfailed, hdone⟩ := @commitRecords_working config tables durability io journal
          entries hstrict hhealthy hjournal hopen hne _ rfl
        cases hfailure : (writeTransaction journal durability.nextTxnId entries io).failure with
        | some failure =>
          obtain ⟨error, hcommit⟩ := hfailed failure hfailure
          rw [hcommit]
          exact .inr (.inr ⟨journal, _, hhealthy, hjournal, hopen, rfl, hgrown⟩)
        | none =>
          rw [hdone hfailure]
          refine .inr ((maybeCompact_file hall).imp_right ?_)
          rintro ⟨journal', hjournal', hfile⟩
          exact ⟨journal, journal', hhealthy, hjournal, hopen, hjournal', hfile ▸ hgrown⟩
  · unfold commitRecords
    rw [if_pos hstrict]
    exact .inl rfl

theorem reliable_commitRecords (h : Reliable durability) (hentries : Admissible entries)
    (hrestores : Restores entries) (hall : AllAccounted tables.envelopes) :
    Reliable (commitRecords config tables durability entries io).durability := by
  have huntorn : Kept Untorn (commitRecords config tables durability entries io).durability :=
    kept_commitRecords stable_untorn trivial h.untorn hentries fun _ _ ↦ trivial
  obtain hsame | hreliable | ⟨journal, journal', hhealthy, hjournal, hopen, hjournal', hgrown⟩ :=
    @commitRecords_file entries io config tables durability h.idle hentries hall
  · rw [hsame]
    exact h
  · exact hreliable
  · refine ⟨fun other hother ↦ ?_, huntorn⟩
    rw [hjournal'] at hother
    cases hother
    obtain ⟨-, scan, hclean, hstatus⟩ :=
      (h.untorn.resolve_left (by rw [hhealthy]; exact nofun)) journal hjournal hopen
    exact hgrown.sane hclean hstatus hentries (h.sane journal hjournal) hrestores

theorem trailing_commitRecords (h : Trailing base durability) (hentries : Admissible entries)
    (hall : AllAccounted tables.envelopes) :
    Trailing base (commitRecords config tables durability entries io).durability ∨
      Reliable (commitRecords config tables durability entries io).durability := by
  have hidle : Kept Idle (commitRecords config tables durability entries io).durability :=
    kept_commitRecords stable_idle trivial h.idle hentries fun _ _ ↦ trivial
  obtain hsame | hreliable | ⟨journal, journal', -, hjournal, -, hjournal', hgrown⟩ :=
    @commitRecords_file entries io config tables durability h.idle hentries hall
  · rw [hsame]
    exact .inl h
  · exact .inr hreliable
  · refine .inl ⟨fun other hother ↦ ?_, hidle⟩
    rw [hjournal'] at hother
    cases hother
    exact (h.behind journal hjournal).trans hgrown.prefix

theorem reliable_commitMany {fuel : ℕ} (h : Reliable durability) (hentries : Admissible entries)
    (haccounted : EachAccounted entries) (hall : AllAccounted tables.envelopes) :
    Reliable (commitMany config tables fuel durability entries io).durability := by
  induction fuel generalizing durability entries io with
  | zero => exact h
  | succ fuel ih =>
    unfold commitMany
    split
    · exact h
    · have hfirst : Reliable (commitRecords config tables durability
          (entries.take kMaxRecordsPerTransaction) io).durability :=
        reliable_commitRecords h (hentries.take _) (haccounted.take _).restores hall
      simp only
      split
      · exact hfirst
      · exact ih hfirst (hentries.drop _) (haccounted.drop _)

theorem trailing_commitMany {fuel : ℕ} (h : Trailing base durability)
    (hentries : Admissible entries) (haccounted : EachAccounted entries)
    (hall : AllAccounted tables.envelopes) :
    Trailing base (commitMany config tables fuel durability entries io).durability ∨
      Reliable (commitMany config tables fuel durability entries io).durability := by
  induction fuel generalizing durability entries io with
  | zero => exact .inl h
  | succ fuel ih =>
    unfold commitMany
    split
    · exact .inl h
    · have hfirst := @trailing_commitRecords (entries.take kMaxRecordsPerTransaction) io
        config tables durability base h (hentries.take _) hall
      simp only
      split
      · exact hfirst
      · obtain htrailing | hreliable := hfirst
        · exact ih htrailing (hentries.drop _) (haccounted.drop _)
        · exact .inr (reliable_commitMany hreliable (hentries.drop _) (haccounted.drop _) hall)

variable {decision : Decision ρ} {engine : Engine}

theorem reliable_perform (h : Reliable engine.durability)
    (hentries : Admissible (contents engine decision)) (hrecording : Recording engine decision)
    (hall : AllAccounted engine.tables.envelopes) :
    Reliable (decision.perform engine io).1.durability := by
  have hcommit : Reliable (decision.commit engine io).durability := by
    unfold Decision.commit
    simp only
    split
    · next hchunked =>
      obtain haccounted | ⟨hwhole, -⟩ := hrecording
      · exact reliable_commitMany h hentries haccounted hall
      · exact absurd hchunked (by rw [hwhole]; exact nofun)
    · refine reliable_commitRecords h hentries ?_ hall
      obtain haccounted | ⟨-, hrestores⟩ := hrecording
      · exact haccounted.restores
      · exact hrestores
  unfold Decision.perform
  split
  · exact h
  · simp only
    split <;> exact hcommit

theorem trailing_perform (h : Trailing base engine.durability)
    (hentries : Admissible (contents engine decision)) (hrecording : Recording engine decision)
    (hall : AllAccounted engine.tables.envelopes) :
    Trailing base (decision.perform engine io).1.durability ∨
      Reliable (decision.perform engine io).1.durability := by
  have hcommit : Trailing base (decision.commit engine io).durability ∨
      Reliable (decision.commit engine io).durability := by
    unfold Decision.commit
    simp only
    split
    · next hchunked =>
      obtain haccounted | ⟨hwhole, -⟩ := hrecording
      · exact trailing_commitMany h hentries haccounted hall
      · exact absurd hchunked (by rw [hwhole]; exact nofun)
    · exact trailing_commitRecords h hentries hall
  unfold Decision.perform
  split
  · exact .inl h
  · simp only
    split <;> exact hcommit

end Reliability

end RateGovernor.Dynamics.Surviving
