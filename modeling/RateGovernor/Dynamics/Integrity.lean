import RateGovernor.Dynamics.Compacting
import RateGovernor.Dynamics.Reopening

namespace RateGovernor.Dynamics.Integrity

open Model.CheckedMath Model.Identity Model.Reason Model.Journal Model.JournalWriter
open Model.EngineState
open Model.Durability Model.Authority Model.Maintenance Model.Execution Model.Recovery
open Foundation.ByteCodec Foundation.GuardedRun Install Sections Staging Turns Evolution Halting
open Framing Commits Transactions Journaling Snapshots Compacting Reopening

variable {config : EngineConfig} {tables : Tables} {durability : Durability} {io : Io}
  {journal : JournalFile} {entries : List (JournalRecordType × Bytes)}

def Admissible (entries : List (JournalRecordType × Bytes)) : Prop :=
  ∀ entry ∈ entries, Plain entry.1 ∧ entry.2.length ≤ kScanPayloadBound

theorem Admissible.take (h : Admissible entries) (n : ℕ) : Admissible (entries.take n) :=
  fun entry hmem ↦ h entry (List.mem_of_mem_take hmem)

theorem Admissible.drop (h : Admissible entries) (n : ℕ) : Admissible (entries.drop n) :=
  fun entry hmem ↦ h entry (List.mem_of_mem_drop hmem)

section Properties

/-- A property of journals that transactions of such entries and compactions of such tables keep. -/
structure Lasting (P : JournalFile → Prop) (E : JournalRecordType × Bytes → Prop)
    (T : Tables → Prop) : Prop where
  written {journal : JournalFile} {txn : U64} {entries : List (JournalRecordType × Bytes)}
    {io : Io} : P journal → journal.isOpen = true → Admissible entries →
    (∀ entry ∈ entries, E entry) → (writeTransaction journal txn entries io).failure = none →
      P (writeTransaction journal txn entries io).journal
  compacted {journal : JournalFile} {config : EngineConfig} {tables : Tables} :
    journal.txnOpen = false → T tables →
      P (overSnapshot journal (buildSnapshotRecords config tables)
        (compactedFile (buildSnapshotRecords config tables)))

/-- A property of journals that all transactions and compactions keep. -/
abbrev Stable (P : JournalFile → Prop) : Prop := Lasting P (fun _ ↦ True) fun _ ↦ True

def Kept (P : JournalFile → Prop) (durability : Durability) : Prop :=
  durability.degraded = true ∨
    ∀ journal, durability.journal = some journal → journal.isOpen = true → P journal

/-- A file the scanner takes apart to its end, with no transaction open. -/
structure Untorn (journal : JournalFile) : Prop where
  closed : journal.txnOpen = false
  clean : ∃ scan, Clean journal.file scan ∧ scan.result.status = .ok

def Idle (journal : JournalFile) : Prop := journal.txnOpen = false

theorem stable_untorn : Stable Untorn where
  written {journal txn entries io} h hopen hentries _ hdone := by
    obtain ⟨hclosed, scan, hclean, hstatus⟩ := h
    obtain ⟨-, ⟨-, ⟨failure, hfailure⟩, -⟩ | ⟨-, ⟨scan', hclean', hstatus', -⟩, hleft⟩⟩ :=
      @writeTransaction_cases scan journal txn entries io _ hopen hclosed hclean hstatus hentries
        rfl
    · rw [hdone] at hfailure
      cases hfailure
    · exact ⟨(hleft hdone).2.1, scan', hclean', hstatus'⟩
  compacted hclosed _ := by
    obtain ⟨scan, hclean, hstatus, -⟩ := scan_compacted
      (fun _ hmem ↦ (snapshot_entries hmem).1) fun _ hmem ↦ (snapshot_entries hmem).2
    exact ⟨hclosed, scan, hclean, hstatus⟩

theorem idle_of_commit {result : Written} (hresult : journal.commit io = result)
    (h : result.failure = none) : Idle result.journal := by
  unfold JournalFile.commit at hresult
  split at hresult
  · subst hresult
    cases h
  · split at hresult
    · subst hresult
      cases h
    · simp only at hresult
      split at hresult
      · next hfailure =>
        subst hresult
        rw [hfailure] at h
        cases h
      · split at hresult
        · subst hresult
          cases h
        · subst hresult
          rfl

theorem idle_of_writeTransaction {txn : U64} {result : Written}
    (hresult : writeTransaction journal txn entries io = result) (h : result.failure = none) :
    Idle result.journal := by
  unfold writeTransaction at hresult
  simp only at hresult
  split at hresult
  · next hfailure =>
    subst hresult
    rw [hfailure] at h
    cases h
  · split at hresult
    · next hfailure =>
      subst hresult
      rw [hfailure] at h
      cases h
    · exact idle_of_commit hresult h

theorem stable_idle : Stable Idle where
  written _ _ _ _ hdone := idle_of_writeTransaction rfl hdone
  compacted hclosed _ := hclosed

end Properties

theorem commits_maybeCompact (config : EngineConfig) (tables : Tables) (durability : Durability)
    (journal : JournalFile) (io : Io) :
    (maybeCompact config tables durability journal io).1.journalCommits =
      durability.journalCommits := by
  unfold maybeCompact
  split
  · rfl
  · split
    · rfl
    · simp only
      split <;> rfl

theorem working_of_not_stuck (hstrict : config.durability = .strict)
    (h : ¬ Stuck config durability) : durability.degraded = false ∧
      ∃ journal, durability.journal = some journal ∧ journal.isOpen = true := by
  refine ⟨Bool.eq_false_of_not_eq_true fun hdegraded ↦ h ⟨hstrict, .inl hdegraded⟩, ?_⟩
  cases hjournal : durability.journal with
  | none =>
    refine absurd ⟨hstrict, .inr fun journal hsome ↦ ?_⟩ h
    rw [hjournal] at hsome
    cases hsome
  | some journal =>
    refine ⟨journal, rfl, Bool.eq_true_of_not_eq_false fun hclosed ↦
      h ⟨hstrict, .inr fun journal' hsome ↦ ?_⟩⟩
    rw [hjournal] at hsome
    cases hsome
    exact hclosed

theorem commitRecords_working (hstrict : config.durability = .strict)
    (hhealthy : durability.degraded = false) (hjournal : durability.journal = some journal)
    (hopen : journal.isOpen = true) (hne : entries ≠ []) {result : Written}
    (hresult : writeTransaction journal durability.nextTxnId entries io = result) :
    (∀ failure, result.failure = some failure → ∃ error,
      commitRecords config tables durability entries io =
        ⟨degrade { durability with
          nextTxnId := durability.nextTxnId + 1, journal := some result.journal } failure,
          some error, result.io⟩) ∧
    (result.failure = none → commitRecords config tables durability entries io =
      ⟨(maybeCompact config tables { durability with
          nextTxnId := durability.nextTxnId + 1, journalCommits := durability.journalCommits + 1 }
          result.journal result.io).1, none,
        (maybeCompact config tables { durability with
          nextTxnId := durability.nextTxnId + 1, journalCommits := durability.journalCommits + 1 }
          result.journal result.io).2⟩) := by
  unfold commitRecords
  rw [if_neg (not_not.2 hstrict), if_neg (by rw [hhealthy]; exact nofun)]
  simp only [hjournal]
  rw [if_neg (by rw [hopen]; exact nofun), if_neg hne, hresult]
  refine ⟨fun failure hfailure ↦ ?_, fun hdone ↦ ?_⟩
  · simp only [hfailure]
    exact ⟨_, rfl⟩
  · simp only [hdone]

/-- What the commit of one transaction comes to: it is withheld from the file, committed, or
reported as failed although all of it is in the file. -/
inductive Outcome (durability : Durability) (journal : JournalFile) (scan : Scan)
    (entries : List (JournalRecordType × Bytes)) (io : Io) (result : Committed) : Prop
  | withheld (cause : Withheld journal.config durability.nextTxnId entries io) (error : Error)
      (status : result.status = some error)
      (commits : result.durability.journalCommits = durability.journalCommits)
      (size : (fileOf result.durability).length ≤ journal.file.length + transactionSize entries)
      (reads : Reads (fileOf result.durability) scan.result.committed)
  | committed (cause : ¬ Withheld journal.config durability.nextTxnId entries io)
      (status : result.status = none)
      (commits : result.durability.journalCommits = durability.journalCommits + 1)
  | unreported (cause : ¬ Withheld journal.config durability.nextTxnId entries io) (error : Error)
      (status : result.status = some error)
      (commits : result.durability.journalCommits = durability.journalCommits)
      (size : (fileOf result.durability).length ≤ journal.file.length + transactionSize entries)
      (records : ∃ scan', Clean (fileOf result.durability) scan' ∧ scan'.result.status = .ok ∧
        Follows scan.result.committed entries scan'.result.committed)

theorem commitRecords_outcome (hstrict : config.durability = .strict)
    (hworking : ¬ Stuck config durability) (h : Kept Untorn durability)
    (hentries : Admissible entries) (hne : entries ≠ []) :
    ∃ journal scan, durability.journal = some journal ∧ Clean journal.file scan ∧
      scan.result.status = .ok ∧ Outcome durability journal scan entries io
        (commitRecords config tables durability entries io) := by
  obtain ⟨hhealthy, journal, hjournal, hopen⟩ := working_of_not_stuck hstrict hworking
  obtain ⟨hclosed, scan, hclean, hstatus⟩ :=
    (h.resolve_left (by rw [hhealthy]; exact nofun)) journal hjournal hopen
  refine ⟨journal, scan, hjournal, hclean, hstatus, ?_⟩
  obtain ⟨hsize, ⟨hcause, ⟨failure, hfailure⟩, hreads⟩ | ⟨hcause, hrecords, -⟩⟩ :=
    writeTransaction_cases hopen hclosed hclean hstatus hentries
      (rfl : writeTransaction journal durability.nextTxnId entries io = _)
  · obtain ⟨error, hcommit⟩ := (commitRecords_working hstrict hhealthy hjournal hopen hne rfl).1
      failure hfailure
    rw [hcommit]
    exact .withheld hcause error rfl rfl hsize hreads
  · obtain ⟨hfailed, hdone⟩ :=
      @commitRecords_working config tables durability io journal entries hstrict hhealthy hjournal
        hopen hne _ rfl
    cases hfailure : (writeTransaction journal durability.nextTxnId entries io).failure with
    | some failure =>
      obtain ⟨error, hcommit⟩ := hfailed failure hfailure
      rw [hcommit]
      exact .unreported hcause error rfl rfl hsize hrecords
    | none =>
      rw [hdone hfailure]
      exact .committed hcause rfl (commits_maybeCompact _ _ _ _ _)

theorem commitRecords_nil (config : EngineConfig) (tables : Tables) (durability : Durability)
    (io : Io) : (commitRecords config tables durability [] io).durability = durability := by
  unfold commitRecords
  repeat' split
  all_goals first | rfl | exact absurd rfl ‹¬_›

theorem commits_commitRecords (config : EngineConfig) (tables : Tables) (durability : Durability)
    (entries : List (JournalRecordType × Bytes)) (io : Io) : ∃ n ≤ 1,
      (commitRecords config tables durability entries io).durability.journalCommits =
        durability.journalCommits + UInt64.ofNat n := by
  have hzero : durability.journalCommits + UInt64.ofNat 0 = durability.journalCommits :=
    UInt64.add_zero _
  unfold commitRecords
  repeat' split
  all_goals first
    | exact ⟨0, Nat.zero_le _, hzero.symm⟩
    | skip
  simp only
  split
  · exact ⟨0, Nat.zero_le _, hzero.symm⟩
  · exact ⟨1, Nat.le_refl _, commits_maybeCompact _ _ _ _ _⟩

theorem commits_commitMany (config : EngineConfig) (tables : Tables) (fuel : ℕ)
    (durability : Durability) (entries : List (JournalRecordType × Bytes)) (io : Io) :
    ∃ n ≤ fuel, (commitMany config tables fuel durability entries io).durability.journalCommits =
      durability.journalCommits + UInt64.ofNat n := by
  induction fuel generalizing durability entries io with
  | zero => exact ⟨0, Nat.le_refl _, (UInt64.add_zero _).symm⟩
  | succ fuel ih =>
    obtain ⟨n, hn, hfirst⟩ := commits_commitRecords config tables durability
      (entries.take kMaxRecordsPerTransaction) io
    unfold commitMany
    split
    · exact ⟨0, Nat.zero_le _, (UInt64.add_zero _).symm⟩
    · simp only
      split
      · exact ⟨n, by omega, hfirst⟩
      · obtain ⟨m, hm, hrest⟩ := ih (commitRecords config tables durability
          (entries.take kMaxRecordsPerTransaction) io).durability
          (entries.drop kMaxRecordsPerTransaction) (commitRecords config tables durability
            (entries.take kMaxRecordsPerTransaction) io).io
        refine ⟨n + m, by omega, ?_⟩
        rw [hrest, hfirst, UInt64.ofNat_add, UInt64.add_assoc]

section Chain

variable {P : JournalFile → Prop} {E : JournalRecordType × Bytes → Prop} {T : Tables → Prop}
  (hlasting : Lasting P E T) (htables : T tables)

include hlasting htables

theorem kept_maybeCompact (h : P journal) :
    Kept P (maybeCompact config tables durability journal io).1 := by
  have hkept : Kept P { durability with journal := some journal } :=
    .inr fun journal' hjournal' _ ↦ by cases hjournal'; exact h
  unfold maybeCompact
  split
  · exact hkept
  · split
    · exact hkept
    · simp only
      split
      · exact .inl rfl
      · next hdone =>
        obtain ⟨-, hclosed, hjournal⟩ := compactWith_ok rfl hdone
        refine .inr fun journal' hjournal' _ ↦ ?_
        cases hjournal'
        rw [hjournal]
        exact hlasting.compacted hclosed htables

theorem kept_commitRecords (h : Kept P durability) (hentries : Admissible entries)
    (hall : ∀ entry ∈ entries, E entry) :
    Kept P (commitRecords config tables durability entries io).durability := by
  by_cases hstrict : config.durability = .strict
  · by_cases hworking : Stuck config durability
    · obtain ⟨error, herror⟩ := @commitRecords_stuck config tables durability io entries hworking
      rw [herror]
      exact h
    · by_cases hne : entries = []
      · rw [hne, commitRecords_nil]
        exact h
      · obtain ⟨hhealthy, journal, hjournal, hopen⟩ := working_of_not_stuck hstrict hworking
        have hkept := (h.resolve_left (by rw [hhealthy]; exact nofun)) journal hjournal hopen
        obtain ⟨hfailed, hdone⟩ := @commitRecords_working config tables durability io journal
          entries hstrict hhealthy hjournal hopen hne _ rfl
        cases hfailure : (writeTransaction journal durability.nextTxnId entries io).failure with
        | some failure =>
          obtain ⟨error, hcommit⟩ := hfailed failure hfailure
          rw [hcommit]
          exact .inl rfl
        | none =>
          rw [hdone hfailure]
          exact kept_maybeCompact hlasting htables
            (hlasting.written hkept hopen hentries hall hfailure)
  · unfold commitRecords
    rw [if_pos hstrict]
    exact h

theorem kept_commitMany {fuel : ℕ} (h : Kept P durability) (hentries : Admissible entries)
    (hall : ∀ entry ∈ entries, E entry) :
    Kept P (commitMany config tables fuel durability entries io).durability := by
  induction fuel generalizing durability entries io with
  | zero => exact h
  | succ fuel ih =>
    have hchunk : Kept P (commitRecords config tables durability
        (entries.take kMaxRecordsPerTransaction) io).durability :=
      kept_commitRecords hlasting htables h (hentries.take _)
        fun entry hmem ↦ hall entry (List.mem_of_mem_take hmem)
    unfold commitMany
    split
    · exact h
    · simp only
      split
      · exact hchunk
      · exact ih hchunk (hentries.drop _) fun entry hmem ↦ hall entry (List.mem_of_mem_drop hmem)

end Chain

section Sections

variable {P : JournalFile → Prop} {decision : Decision ρ} {engine : Engine}
  {s t : System} {action : Action}

theorem admissible_of_plain (h : ∀ entry ∈ contents engine decision, Plain entry.1) :
    Admissible (contents engine decision) := by
  intro entry hmem
  refine ⟨h entry hmem, ?_⟩
  obtain ⟨staged, -, rfl⟩ := List.mem_map.1 hmem
  exact record_length_le _ staged

theorem kept_commit {E : JournalRecordType × Bytes → Prop} {T : Tables → Prop}
    (hlasting : Lasting P E T) (htables : T engine.tables) (h : Kept P engine.durability)
    (hentries : Admissible (contents engine decision))
    (hall : ∀ entry ∈ contents engine decision, E entry) :
    Kept P (decision.commit engine io).durability := by
  unfold Decision.commit
  simp only
  split
  · exact kept_commitMany hlasting htables h hentries hall
  · exact kept_commitRecords hlasting htables h hentries hall

theorem kept_perform {E : JournalRecordType × Bytes → Prop} {T : Tables → Prop}
    (hlasting : Lasting P E T) (htables : T engine.tables) (h : Kept P engine.durability)
    (hentries : Admissible (contents engine decision))
    (hall : ∀ entry ∈ contents engine decision, E entry) :
    Kept P (decision.perform engine io).1.durability := by
  unfold Decision.perform
  split
  · exact h
  · simp only
    split
    · exact kept_commit hlasting htables h hentries hall
    · exact kept_commit hlasting htables h hentries hall

theorem admissible_of_sectionOf {decision : Section} (h : sectionOf s action.event = some decision) :
    Admissible (contents s.engine decision) := by
  refine admissible_of_plain fun entry hmem ↦ ?_
  obtain ⟨staged, hstaged, rfl⟩ := List.mem_map.1 hmem
  exact plain_of_stages (stages_of_sectionOf h hstaged)

theorem kept_step (hstable : Stable P) (h : Kept P s.engine.durability)
    (hstep : step s action = some t) : Kept P t.engine.durability := by
  obtain ⟨decision, hsection, rfl⟩ := Option.map_eq_some_iff.1 hstep
  exact kept_perform hstable trivial h (admissible_of_sectionOf hsection) fun _ _ ↦ trivial

end Sections

section Origins

variable {P : JournalFile → Prop} {file : Bytes} {demotedNs advancedNs : U64}

theorem untorn_create {config : JournalConfig}
    (h : JournalFile.create config io = some journal) : Untorn journal := by
  have hfits : Fits (nextRecord { config } .fileHeader 0 bannerPayload) :=
    Nat.le_of_ble_eq_true rfl
  obtain ⟨scan, haccept, hstatus⟩ : ∃ scan,
      ({} : Scan).accept (nextRecord { config } .fileHeader 0 bannerPayload) = some scan ∧
        scan.result.status = .ok := ⟨_, rfl, rfl⟩
  unfold JournalFile.create at h
  obtain ⟨hok, -, -, -, sizeBytes, lastSequence, recordCount, hjournal⟩ | ⟨⟨failure, hfailure⟩, -⟩ :=
    @writeRecord_cases { config } .fileHeader 0 bannerPayload io _ rfl hfits rfl
  · simp only [hok] at h
    split at h
    · cases h
    · cases h
    · cases h
      rw [hjournal]
      exact ⟨rfl, scan, clean_nil.frame hfits haccept, hstatus⟩
  · simp only [hfailure] at h
    cases h

theorem admissible_banner (boot : WorkerBootId) (epoch : FabricEpoch) :
    Admissible [Staged.record boot (.epoch epoch .engineShutdown)] := by
  intro entry hmem
  obtain rfl := List.mem_singleton.1 hmem
  exact ⟨⟨nofun, nofun⟩, record_length_le boot (.epoch epoch .engineShutdown)⟩

theorem kept_construct (hstable : Stable P) {backend : Option Backend} {session : Session}
    {file? : Option JournalFile} (h : ∀ file, file? = some file → P file) :
    Kept P (construct config backend session file? io).1.durability := by
  unfold construct
  simp only
  split
  · exact .inr nofun
  · next file =>
    have hjournal : Kept P { journal := some file } :=
      .inr fun journal hsome _ ↦ by cases hsome; exact h file rfl
    split
    · exact kept_commitRecords hstable trivial hjournal (admissible_banner _ _) fun _ _ ↦ trivial
    · exact hjournal

theorem kept_recovered {E : JournalRecordType × Bytes → Prop} {T : Tables → Prop}
    (hlasting : Lasting P E T) {engine : Engine}
    (h : recoverEngine config file demotedNs advancedNs io = .ok engine)
    (hreopened : ∀ journalConfig, P (.reopen journalConfig file))
    (hrecords : ∀ entry ∈ recoveryRecords config file demotedNs advancedNs io, E entry)
    (hbanner : T (bannered config file io).1.tables) (hrebuilt : T (rebuilt config file io).tables)
    (hdemoted : T (demoted config file demotedNs io).1.tables) : Kept P engine.durability := by
  obtain ⟨-, -, -, rfl⟩ := recoverEngine_ok h
  unfold recoveryRecords at hrecords
  have hbannered : Kept P (bannered config file io).1.durability := by
    rw [bannered_eq]
    refine kept_commitRecords hlasting hbanner (.inr fun journal hsome _ ↦ ?_)
      (admissible_banner _ _) fun entry hmem ↦ ?_
    · cases hsome
      exact hreopened _
    · exact hrecords entry (List.mem_append_left _ (List.mem_append_left _ hmem))
  have hkept : Kept P (demoted config file demotedNs io).1.durability :=
    kept_perform hlasting hrebuilt (show Kept P (rebuilt config file io).durability from hbannered)
      (admissible_of_plain fun entry hmem ↦ demoteForRecovery_plain hmem)
      fun entry hmem ↦ hrecords entry (List.mem_append_left _ (List.mem_append_right _ hmem))
  have hflag : (demoted config file demotedNs io).1.config.advanceEpochOnRecovery =
      config.advanceEpochOnRecovery := by
    rw [demoted, perform_config]
    rfl
  unfold advanced advancedOnRecovery
  rw [hflag]
  split
  · next hconfigured =>
    refine kept_perform hlasting hdemoted hkept
      (admissible_of_plain fun entry hmem ↦ advanceEpoch_plain hmem) fun entry hmem ↦ ?_
    rw [if_pos hconfigured] at hrecords
    exact hrecords entry (List.mem_append_right _ hmem)
  · exact hkept

/-- The compaction a recovery may end with keeps what compactions of its tables keep. -/
theorem kept_tailDropped {E : JournalRecordType × Bytes → Prop} {T : Tables → Prop}
    (hlasting : Lasting P E T) {engine : Engine} (htables : T engine.tables)
    (h : Kept P engine.durability) (truncate : Bool) (result : JournalScanResult) (tailIo : Io) :
    Kept P (tailDropped truncate result engine tailIo).durability := by
  unfold tailDropped
  split
  · split
    · exact h
    · next journal hjournal =>
      refine h.imp_right fun hkept compacted hcompacted hopen ↦ ?_
      cases hcompacted
      obtain hsame | ⟨hshut, -⟩ | ⟨hclosed, hreplaced⟩ := compactWith_cases (rfl :
        journal.compactWith (buildSnapshotRecords engine.config engine.tables) tailIo = _)
      · rw [hsame] at hopen ⊢
        exact hkept journal hjournal hopen
      · rw [hshut] at hopen
        cases hopen
      · rw [hreplaced]
        exact hlasting.compacted hclosed htables
  · exact h

end Origins

end RateGovernor.Dynamics.Integrity
