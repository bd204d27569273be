import RateGovernor.Dynamics.Growing
import RateGovernor.Dynamics.Start

namespace RateGovernor.Safety.FailedCommit

open Model.CheckedMath Model.Identity Model.Reason Model.Journal Model.JournalWriter
open Model.EngineState Model.Durability Model.Execution Model.Recovery Foundation.ByteCodec
open Foundation.GuardedRun Foundation.KeyedTable Dynamics.Sections Dynamics.Turns
open Dynamics.Evolution Dynamics.Halting
open Model.Entities Model.Envelope Model.Authority Model.Lifecycle Model.Maintenance
open Dynamics.Staging
open Dynamics.Framing Dynamics.Commits Dynamics.Transactions Dynamics.Journaling
open Dynamics.Snapshots Dynamics.Integrity Dynamics.Growing Dynamics.Start

variable {s t start : System} {action : Action} {decision : Section} {io : Io}

/-- An engine that has just been constructed over a new journal. -/
def Journalled (start : System) : Prop :=
  ∃ config backend session journalConfig created journal io,
    JournalFile.create journalConfig created = some journal ∧
      start = { engine := (construct config backend session (some journal) io).1 }

/-- A file the scanner reads to its end: no crash has torn it. -/
def Whole (file : Bytes) : Prop :=
  (scanJournalFile file).ok = true ∧ (scanJournalFile file).discardedTruncatedBytes = 0

/-- Memory is as it was, a replay of the file gives what it gave, and no transaction was
committed. -/
structure ChangesNothing (s t : System) : Prop where
  tables : t.engine.tables = s.engine.tables
  scanned : (scanJournalFile (fileOf t.engine.durability)).ok =
    (scanJournalFile (fileOf s.engine.durability)).ok
  committed : (scanJournalFile (fileOf t.engine.durability)).committed =
    (scanJournalFile (fileOf s.engine.durability)).committed
  commits : t.engine.durability.journalCommits = s.engine.durability.journalCommits

/-- The states in which a critical section begins: those that a run leads to, and those in the middle
of a recovery from what a crash has left of such a state's journal. -/
inductive Arises (start : System) : System → Prop
  | run {s : System} (reached : Reaches lifeStep anyStep start s) : Arises start s
  | rebuilt {s : System} {file : Bytes} (reached : Reaches lifeStep anyStep start s)
      (kept : journalFile s = some file) (config : EngineConfig) (cut : ℕ) (io : Io) :
      Arises start { engine := Dynamics.Reopening.rebuilt config (file.take cut) io }
  | demoted {s : System} {file : Bytes} (reached : Reaches lifeStep anyStep start s)
      (kept : journalFile s = some file) (config : EngineConfig) (cut : ℕ) (demotedNs : U64)
      (io : Io) :
      Arises start { engine := (Dynamics.Reopening.demoted config (file.take cut) demotedNs io).1 }

/-- A critical section and the state it leaves: that of an action, or the demotion of a recovery. -/
inductive Performs (s : System) : Io → Section → System → Prop
  | operation {action : Action} {decision : Section} {t : System} (stepped : step s action = some t)
      (sectioned : sectionOf s action.event = some decision) : Performs s action.io decision t
  | demotion (actor : ActorContext) (now : U64) (io : Io) :
      Performs s io (once s (demoteForRecovery s.engine actor now))
        { s with engine := ((demoteForRecovery s.engine actor now).perform s.engine io).1 }

def firstTransaction (engine : Engine) (decision : Section) : List (JournalRecordType × Bytes) :=
  if decision.chunked then (contents engine decision).take kMaxRecordsPerTransaction
  else contents engine decision

/-- The journal had failed before, or fails in the first transaction of the section, before its
commit record is all in the file. -/
def FailsFirst (engine : Engine) (decision : Section) (io : Io) : Prop :=
  Stuck engine.config engine.durability ∨ ∃ journal, engine.durability.journal = some journal ∧
    Withheld journal.config engine.durability.nextTxnId (firstTransaction engine decision) io

theorem idle_of_reaches (hstart : Journalled start) (hrun : Reaches lifeStep anyStep start s) :
    Kept Idle s.engine.durability := by
  induction hrun with
  | refl =>
    obtain ⟨config, backend, session, journalConfig, created, journal, io, hcreate, rfl⟩ := hstart
    refine kept_construct stable_idle fun file hfile ↦ ?_
    cases hfile
    exact (untorn_create hcreate).closed
  | @tail s t incident _ _ hstep ih =>
    cases incident with
    | act action => exact kept_step stable_idle ih hstep
    | crash crash =>
      obtain ⟨file, hfile, hrecovered⟩ := Option.bind_eq_some_iff.1 hstep
      split at hrecovered
      · cases hrecovered
      · next engine hok =>
        cases hrecovered
        exact kept_recovered stable_idle hok (fun _ ↦ rfl) (fun _ _ ↦ trivial) trivial trivial trivial

theorem idle_of_arises (hstart : Journalled start) (h : Arises start s) :
    Kept Idle s.engine.durability := by
  have hrebuilt (config : EngineConfig) (file : Bytes) (io : Io) :
      Kept Idle (Dynamics.Reopening.rebuilt config file io).durability := by
    have hbannered : Kept Idle (Dynamics.Reopening.bannered config file io).1.durability :=
      kept_construct stable_idle fun reopened hreopened ↦ by cases hreopened; rfl
    exact hbannered
  cases h with
  | run hrun => exact idle_of_reaches hstart hrun
  | rebuilt => exact hrebuilt _ _ _
  | demoted =>
    exact kept_perform stable_idle trivial (hrebuilt _ _ _)
      (admissible_of_plain fun _ hmem ↦ Dynamics.Reopening.demoteForRecovery_plain hmem) fun _ _ ↦ trivial

theorem untorn_of_whole {durability : Durability} (h : Kept Idle durability)
    (hwhole : Whole (fileOf durability)) : Kept Untorn durability := by
  refine h.imp_right fun hidle journal hjournal hopen ↦ ⟨hidle journal hjournal hopen, ?_⟩
  rw [fileOf, hjournal] at hwhole
  obtain ⟨scan, hclean, -, hstatus⟩ := clean_of_scan hwhole.1 hwhole.2
  exact ⟨scan, hclean, hstatus⟩

section Outcomes

theorem sizes (engine : Engine) (hrecords : decision.records ≠ []) :
    (contents engine decision).length ≤ sectionSize engine decision ∧
      transactionSize (firstTransaction engine decision) ≤ sectionSize engine decision := by
  have hlength : (contents engine decision).length = decision.records.length := List.length_map _
  unfold sectionSize firstTransaction
  rw [if_neg hrecords]
  split
  · refine ⟨length_le_chunksSize (Nat.le_of_eq hlength), ?_⟩
    obtain ⟨n, hn⟩ := Nat.exists_eq_succ_of_ne_zero
      (Nat.ne_of_gt (List.length_pos_iff.2 hrecords))
    have hne : contents engine decision ≠ [] := by
      rw [contents, ne_eq, List.map_eq_nil_iff]
      exact hrecords
    rw [hn, chunksSize, if_neg hne]
    exact Nat.le_add_right _ _
  · exact ⟨length_le_transactionSize _, Nat.le_refl _⟩

theorem firstTransaction_ne_nil (engine : Engine) (hrecords : decision.records ≠ []) :
    firstTransaction engine decision ≠ [] := by
  have hne : contents engine decision ≠ [] := by
    rw [contents, ne_eq, List.map_eq_nil_iff]
    exact hrecords
  unfold firstTransaction
  split
  · rw [ne_eq, List.take_eq_nil_iff, not_or]
    exact ⟨by decide, hne⟩
  · exact hne

theorem admissible_performs (h : Performs s io decision t) :
    Admissible (contents s.engine decision) := by
  cases h with
  | operation _ hsection => exact admissible_of_sectionOf hsection
  | demotion => exact admissible_of_plain fun _ hmem ↦ Dynamics.Reopening.demoteForRecovery_plain hmem

theorem admissible_firstTransaction (h : Admissible (contents s.engine decision)) :
    Admissible (firstTransaction s.engine decision) := by
  unfold firstTransaction
  split
  · exact h.take _
  · exact h

def firstCommit (engine : Engine) (decision : Section) (io : Io) : Committed :=
  commitRecords engine.config engine.tables engine.durability (firstTransaction engine decision) io

/-- A section's commit ends with its first transaction, or goes on to its other chunks. -/
theorem commit_split (engine : Engine) (hrecords : decision.records ≠ []) (io : Io) :
    decision.commit engine io = firstCommit engine decision io ∧
        (decision.chunked = true → (firstCommit engine decision io).status ≠ none) ∨
      (firstCommit engine decision io).status = none ∧
        ∃ fuel, fuel + 1 = (contents engine decision).length ∧ decision.commit engine io =
          commitMany engine.config engine.tables fuel (firstCommit engine decision io).durability
            ((contents engine decision).drop kMaxRecordsPerTransaction)
            (firstCommit engine decision io).io := by
  have hne : contents engine decision ≠ [] := by
    rw [contents, ne_eq, List.map_eq_nil_iff]
    exact hrecords
  have hcommit : decision.commit engine io =
      if decision.chunked then commitMany engine.config engine.tables
        (contents engine decision).length engine.durability (contents engine decision) io
      else commitRecords engine.config engine.tables engine.durability
        (contents engine decision) io := rfl
  unfold firstCommit firstTransaction
  rw [hcommit]
  by_cases hchunked : decision.chunked = true
  · simp only [if_pos hchunked]
    generalize hlength : (contents engine decision).length = fuel
    cases fuel with
    | zero => exact absurd (List.eq_nil_of_length_eq_zero hlength) hne
    | succ fuel =>
      simp only [commitMany, if_neg hne]
      split
      · next hstatus =>
        refine .inl ⟨rfl, fun _ ↦ ?_⟩
        rw [hstatus]
        exact Option.some_ne_none _
      · next hstatus => exact .inr ⟨hstatus, fuel, rfl, rfl⟩
  · simp only [if_neg hchunked]
    exact .inl ⟨trivial, fun h ↦ absurd h hchunked⟩

theorem scan_of_reads {file : Bytes} {committed : List JournalRecord} (h : Reads file committed)
    (hsize : file.length ≤ kJournalMaxScanBytes) :
    (scanJournalFile file).ok = true ∧ (scanJournalFile file).committed = committed := by
  have hscan : scanJournalFile file = (scanBytes file {}).finish := by
    unfold scanJournalFile
    rw [if_neg (Nat.not_lt.2 hsize)]
    rfl
  obtain ⟨-, -, hcommitted, hok⟩ := finish_tail (scanBytes file {})
  rw [hscan, hcommitted]
  exact ⟨hok.2 (.inl h.1), h.2⟩

end Outcomes

section Failures

theorem failed_perform {ρ : Type} {decision : Decision ρ} {engine : Engine}
    (hrecords : decision.records ≠ []) (hfailed : (decision.commit engine io).status ≠ none) :
    (decision.perform engine io).1.tables = engine.tables ∧
      (decision.perform engine io).1.durability = (decision.commit engine io).durability := by
  simp only [Decision.perform, List.isEmpty_iff, if_neg hrecords]
  split
  · exact ⟨rfl, rfl⟩
  · next hstatus => exact absurd hstatus hfailed

variable (hperforms : Performs s io decision t) (hrecords : decision.records ≠ [])
  (hfailed : (decision.commit s.engine io).status ≠ none)

include hperforms hrecords hfailed

theorem failed_section : t.engine.tables = s.engine.tables ∧
    t.engine.durability = (decision.commit s.engine io).durability := by
  cases hperforms with
  | operation hstep hsection =>
    obtain ⟨decision', hsection', rfl⟩ := Option.map_eq_some_iff.1 hstep
    rw [hsection] at hsection'
    cases hsection'
    exact failed_perform hrecords hfailed
  | demotion => exact failed_perform hrecords hfailed

omit hperforms hrecords in
theorem strict_of_failed : s.engine.config.durability = .strict := by
  cases hmode : s.engine.config.durability with
  | none => exact absurd (commit_of_none io hmode) hfailed
  | strict => rfl

theorem commits_of_split (hbound : (contents s.engine decision).length < 2 ^ 64)
    (hfirst : (firstCommit s.engine decision io).durability.journalCommits =
      s.engine.durability.journalCommits + 1)
    (hstatus : (firstCommit s.engine decision io).status = none) :
    t.engine.durability.journalCommits ≠ s.engine.durability.journalCommits := by
  rw [(failed_section hperforms hrecords hfailed).2]
  obtain hsame | ⟨-, fuel, hfuel, hcommit⟩ := commit_split s.engine hrecords io
  · rw [hsame.1] at hfailed
    exact absurd hstatus hfailed
  · obtain ⟨n, hn, hcommits⟩ := commits_commitMany s.engine.config s.engine.tables fuel
      (firstCommit s.engine decision io).durability
      ((contents s.engine decision).drop kMaxRecordsPerTransaction)
      (firstCommit s.engine decision io).io
    rw [hcommit, hcommits, hfirst]
    intro heq
    have hcount := congrArg UInt64.toNat heq
    rw [UInt64.add_assoc, UInt64.toNat_add, UInt64.toNat_add,
      UInt64.toNat_ofNat_of_lt' (by rw [UInt64.size]; omega)] at hcount
    have hlt := s.engine.durability.journalCommits.toNat_lt
    simp only [UInt64.reduceToNat] at hcount
    omega

end Failures

/-- A section whose commit fails changes nothing if and only if the journal had failed before, or
fails in the first transaction, before its commit record is all in the file. -/
theorem changes_nothing_iff (hstart : Journalled start)
    (harises : Arises start s) (hwhole : Whole (fileOf s.engine.durability))
    (hperforms : Performs s io decision t) (hrecords : decision.records ≠ [])
    (hfailed : (decision.commit s.engine io).status ≠ none)
    (hsize : (fileOf s.engine.durability).length + sectionSize s.engine decision ≤
      kJournalMaxScanBytes) :
    ChangesNothing s t ↔ FailsFirst s.engine decision io := by
  obtain ⟨htables, hdurability⟩ := failed_section hperforms hrecords hfailed
  by_cases hworking : Stuck s.engine.config s.engine.durability
  · obtain ⟨error, herror⟩ := commit_stuck io hworking hrecords
    have hsame : t.engine.durability = s.engine.durability := by rw [hdurability, herror]
    exact ⟨fun _ ↦ .inl hworking, fun _ ↦ ⟨htables, by rw [hsame], by rw [hsame], by rw [hsame]⟩⟩
  · obtain ⟨journal, scan, hjournal, hclean, hstatus, houtcome⟩ := @commitRecords_outcome
      s.engine.config s.engine.tables s.engine.durability io
      (firstTransaction s.engine decision) (strict_of_failed hfailed) hworking
      (untorn_of_whole (idle_of_arises hstart harises) hwhole)
      (admissible_firstTransaction (admissible_performs hperforms))
      (firstTransaction_ne_nil s.engine hrecords)
    have hfile : fileOf s.engine.durability = journal.file := by
      rw [fileOf, hjournal]
      rfl
    obtain ⟨hlength, hfirst⟩ := sizes s.engine hrecords
    rw [hfile] at hsize
    obtain ⟨hok, hcommitted⟩ := scan_of_reads (reads_of_clean hclean hstatus) (by omega)
    have hiff : FailsFirst s.engine decision io ↔
        Withheld journal.config s.engine.durability.nextTxnId (firstTransaction s.engine decision)
          io := by
      refine ⟨fun h ↦ ?_, fun h ↦ .inr ⟨journal, hjournal, h⟩⟩
      obtain ⟨journal', hjournal', hwithheld⟩ := h.resolve_left hworking
      rw [hjournal] at hjournal'
      cases hjournal'
      exact hwithheld
    rw [hiff]
    have hsplit := commit_split s.engine hrecords io
    have hends (hfailure : (firstCommit s.engine decision io).status ≠ none) :
        t.engine.durability = (firstCommit s.engine decision io).durability := by
      obtain hsame | ⟨hnone, -⟩ := hsplit
      · rw [hdurability, hsame.1]
      · exact absurd hnone hfailure
    cases houtcome with
    | withheld hcause error herror hcommits hbytes hreads =>
      have hsame := hends (by rw [firstCommit, herror]; exact Option.some_ne_none _)
      obtain ⟨hok', hcommitted'⟩ := scan_of_reads hreads (by omega)
      refine iff_of_true ⟨htables, ?_, ?_, ?_⟩ hcause
      · rw [hsame, hfile, hok]
        exact hok'
      · rw [hsame, hfile, hcommitted]
        exact hcommitted'
      · rw [hsame]
        exact hcommits
    | committed hcause hnone hcommits =>
      refine iff_of_false (fun h ↦ ?_) hcause
      refine commits_of_split hperforms hrecords hfailed ?_ hcommits hnone h.commits
      simp only [kJournalMaxScanBytes] at hsize
      omega
    | unreported hcause error herror hcommits hbytes hrecords' =>
      refine iff_of_false (fun h ↦ ?_) hcause
      obtain ⟨scan', hclean', hstatus', fresh, hfresh, hcontents⟩ := hrecords'
      have hsame := hends (by rw [firstCommit, herror]; exact Option.some_ne_none _)
      obtain ⟨-, hcommitted'⟩ := scan_of_reads (reads_of_clean hclean' hstatus') (by omega)
      have hgrown := h.committed
      rw [hsame, hfile, hcommitted, firstCommit, hcommitted', hfresh] at hgrown
      have hempty : fresh = [] := List.append_right_eq_self.1 hgrown
      rw [hempty] at hcontents
      exact firstTransaction_ne_nil s.engine hrecords hcontents.symm

section Sample

def widePayloads : JournalConfig := { maxBytes := 0, maxPayloadBytes := 4194304 }

/-- An engine without a backend over a new journal. -/
def bareStart : System := { engine := (construct {} none {} (some (newJournal widePayloads)) []).1 }

theorem journalled_bareStart : Journalled bareStart :=
  ⟨{}, none, {}, widePayloads, [], newJournal widePayloads, [], rfl, rfl⟩

theorem untorn_bareStart : Kept Untorn bareStart.engine.durability :=
  kept_construct stable_untorn fun file hfile ↦ by
    cases hfile
    exact untorn_create
      (show JournalFile.create widePayloads [] = some (newJournal widePayloads) from rfl)

/-- A definition whose begin record is written in part. -/
def tornPut : Action := ⟨.putFlow sampleFlow, [.failed 10]⟩

theorem changes_nothing_of_tornPut :
    ∃ t, step bareStart tornPut = some t ∧ ChangesNothing bareStart t := by
  have hsection : sectionOf bareStart tornPut.event =
    some (once bareStart (putFlow bareStart.engine sampleFlow)) := rfl
  have hperforms : Performs bareStart tornPut.io _ _ := .operation rfl hsection
  refine ⟨_, rfl, (changes_nothing_iff journalled_bareStart (.run .refl)
    ⟨by decide +kernel, by decide +kernel⟩ hperforms (by decide +kernel) (by decide +kernel)
    (by decide +kernel)).2 (.inr ⟨_, rfl, ?_⟩)⟩
  exact .inr (.inl ⟨10, rfl⟩)

end Sample

section Chunks

variable {journal : JournalFile} {entries : List (JournalRecordType × Bytes)}

theorem commitMany_withheld {config : EngineConfig} {tables : Tables} {durability : Durability}
    {scan : Scan} {fuel : ℕ} (hstrict : config.durability = .strict)
    (hhealthy : durability.degraded = false) (hjournal : durability.journal = some journal)
    (hopen : journal.isOpen = true) (hclosed : journal.txnOpen = false)
    (hclean : Clean journal.file scan) (hstatus : scan.result.status = .ok)
    (hadmissible : Admissible entries) (hne : entries ≠ []) (hfails : Fails io) :
    (commitMany config tables (fuel + 1) durability entries io).status ≠ none ∧
      (fileOf (commitMany config tables (fuel + 1) durability entries io).durability).length ≤
        journal.file.length + transactionSize (entries.take kMaxRecordsPerTransaction) ∧
      Reads (fileOf (commitMany config tables (fuel + 1) durability entries io).durability)
        scan.result.committed := by
  have hfirst : entries.take kMaxRecordsPerTransaction ≠ [] := by
    rw [ne_eq, List.take_eq_nil_iff, not_or]
    exact ⟨by decide, hne⟩
  simp only [commitMany, if_neg hne]
  obtain ⟨hgrown, ⟨-, ⟨failure, hfailure⟩, hreads⟩ | ⟨hcause, -⟩⟩ :=
    @writeTransaction_cases scan journal durability.nextTxnId
      (entries.take kMaxRecordsPerTransaction) io _ hopen hclosed hclean hstatus
      (hadmissible.take _) rfl
  · obtain ⟨error, hcommit⟩ := (@commitRecords_working config tables durability io journal
      (entries.take kMaxRecordsPerTransaction) hstrict hhealthy hjournal hopen hfirst _ rfl).1
      failure hfailure
    rw [hcommit]
    exact ⟨Option.some_ne_none _, hgrown, hreads⟩
  · exact absurd (.inr (.inl hfails)) hcause

/-- Where the first transaction of a long section is written and the next one is not, the section
fails with its first records in the file. -/
theorem kept_of_chunks (hstrict : s.engine.config.durability = .strict)
    (hworking : ¬ Stuck s.engine.config s.engine.durability) (hkept : Kept Untorn s.engine.durability)
    (hjournal : s.engine.durability.journal = some journal) (hmax : journal.config.maxBytes = 0)
    (hfsync : journal.config.fsyncOnCommit = true) (hstep : step s action = some t)
    (hsection : sectionOf s action.event = some decision) (hchunked : decision.chunked = true)
    (hlong : kMaxRecordsPerTransaction < (contents s.engine decision).length)
    (hwritten : ¬ Withheld journal.config s.engine.durability.nextTxnId
      (firstTransaction s.engine decision) action.io)
    (hfails : Fails (action.io.drop (kMaxRecordsPerTransaction + 3)))
    (hsize : (fileOf s.engine.durability).length + sectionSize s.engine decision ≤
      kJournalMaxScanBytes) :
    (decision.commit s.engine action.io).status ≠ none ∧
      Follows (scanJournalFile (fileOf s.engine.durability)).committed
        (firstTransaction s.engine decision)
        (scanJournalFile (fileOf t.engine.durability)).committed := by
  have hrecords : decision.records ≠ [] := by
    rintro hempty
    rw [contents, hempty] at hlong
    exact absurd hlong (Nat.not_lt_zero _)
  have hne : contents s.engine decision ≠ [] := List.ne_nil_of_length_pos (Nat.zero_lt_of_lt hlong)
  have hrest : (contents s.engine decision).drop kMaxRecordsPerTransaction ≠ [] := by
    rw [ne_eq, List.drop_eq_nil_iff]
    exact Nat.not_le.2 hlong
  have hfile : fileOf s.engine.durability = journal.file := by
    rw [fileOf, hjournal]
    rfl
  have hsection' : sectionSize s.engine decision =
      chunksSize decision.records.length (contents s.engine decision) := by
    rw [sectionSize, if_neg hrecords, if_pos hchunked]
  have hfirst : firstTransaction s.engine decision =
      (contents s.engine decision).take kMaxRecordsPerTransaction := if_pos hchunked
  have hadmissible := admissible_of_sectionOf hsection
  obtain ⟨hhealthy, _, hsame, hopen⟩ := working_of_not_stuck hstrict hworking
  rw [hjournal] at hsame
  cases hsame
  obtain ⟨hclosed, scan, hclean, hstatus⟩ :=
    (hkept.resolve_left (by rw [hhealthy]; exact Bool.false_ne_true)) journal hjournal hopen
  obtain ⟨hlength, ⟨hcause, -⟩ | ⟨-, ⟨scan', hclean', hstatus', fresh, hfresh, hcontents⟩, hdone⟩⟩ :=
    @writeTransaction_cases scan journal s.engine.durability.nextTxnId
      (firstTransaction s.engine decision) action.io _ hopen hclosed hclean hstatus
      (admissible_firstTransaction hadmissible) rfl
  · exact absurd hcause hwritten
  obtain ⟨hfailure, hok⟩ := @commitRecords_working s.engine.config s.engine.tables
    s.engine.durability action.io journal (firstTransaction s.engine decision) hstrict hhealthy
    hjournal hopen (firstTransaction_ne_nil s.engine hrecords) _ rfl
  obtain ⟨fuel, hfuel⟩ := Nat.exists_eq_add_of_lt hlong
  have htotal : transactionSize (firstTransaction s.engine decision) +
      transactionSize (((contents s.engine decision).drop kMaxRecordsPerTransaction).take
        kMaxRecordsPerTransaction) ≤ sectionSize s.engine decision := by
    have hcount : decision.records.length = (255 + fuel + 1) + 1 := by
      rw [← @List.length_map _ _ decision.records (Staged.record s.engine.config.boot)]
      rw [contents, kMaxRecordsPerTransaction] at hfuel
      omega
    rw [hsection', hcount, chunksSize, if_neg hne, chunksSize, if_neg hrest, hfirst]
    omega
  rw [hfile] at hsize ⊢
  have hbefore := scan_of_reads (reads_of_clean hclean hstatus) (by omega)
  generalize writeTransaction journal s.engine.durability.nextTxnId
    (firstTransaction s.engine decision) action.io = first at *
  have hsplit := commit_split s.engine hrecords action.io
  cases hfailed : first.failure with
  | some failure =>
    obtain ⟨error, hcommit⟩ := hfailure failure hfailed
    obtain ⟨hends, -⟩ | ⟨hnone, -⟩ := hsplit
    · have herror : (decision.commit s.engine action.io).status ≠ none := by
        rw [hends, firstCommit, hcommit]
        exact Option.some_ne_none _
      refine ⟨herror, ?_⟩
      have hsame : fileOf t.engine.durability = first.journal.file := by
        rw [(failed_section (.operation hstep hsection) hrecords herror).2, hends, firstCommit, hcommit]
        rfl
      have hafter := scan_of_reads (reads_of_clean hclean' hstatus') (by omega)
      rw [hsame, hafter.2, hbefore.2]
      exact ⟨fresh, hfresh, hcontents⟩
    · rw [firstCommit, hcommit] at hnone
      cases hnone
  | none =>
    obtain ⟨hopen', hclosed', hconfig, hleft⟩ := hdone hfailed
    have hcommit := hok hfailed
    rw [maybeCompact_of_fits hopen' (.inl (by rw [hconfig]; exact hmax))] at hcommit
    obtain ⟨-, hends⟩ | ⟨-, n, hn, hmany⟩ := hsplit
    · exact absurd (by rw [firstCommit, hcommit]) (hends hchunked)
    · obtain ⟨n, rfl⟩ : ∃ k, n = k + 1 := ⟨n - 1, by rw [kMaxRecordsPerTransaction] at hlong; omega⟩
      have hfails' : Fails first.io := by
        rw [hleft hfsync, hfirst, List.length_take_of_le (Nat.le_of_lt hlong)]
        exact hfails
      rw [firstCommit, hcommit] at hmany
      obtain ⟨herror, hgrown, hreads⟩ := @commitMany_withheld first.io first.journal
        ((contents s.engine decision).drop kMaxRecordsPerTransaction) s.engine.config
        s.engine.tables { s.engine.durability with
          nextTxnId := s.engine.durability.nextTxnId + 1
          journalCommits := s.engine.durability.journalCommits + 1
          journal := some first.journal } scan' n hstrict hhealthy rfl hopen' hclosed' hclean'
        hstatus' (hadmissible.drop _) hrest hfails'
      rw [← hmany] at herror hgrown hreads
      refine ⟨herror, ?_⟩
      have hafter := scan_of_reads hreads (by omega)
      rw [(failed_section (.operation hstep hsection) hrecords herror).2, hafter.2, hbefore.2]
      exact ⟨fresh, hfresh, hcontents⟩

end Chunks

section Ticking

variable {tables : Tables} {now : U64}

theorem length_mergeBy {α : Type} {key : α → U64} {candidate : α} {list : List α}
    (h : ∀ x ∈ list, key x ≠ key candidate) :
    (mergeBy key candidate list).length = list.length + 1 := by
  induction list with
  | nil => rfl
  | cons existing list ih =>
    rw [mergeBy, if_neg (h existing List.mem_cons_self), List.length_cons, List.length_cons,
      ih fun x hmem ↦ h x (List.mem_cons_of_mem _ hmem)]

def losesAuthority (tables : Tables) (now : U64) (envelope : RateEnvelope) : Bool :=
  let cooled := cooldownStage (refillStage envelope now).1 now
  goesStale cooled (authorityStatus tables cooled now)

theorem updates_tickEnvelope {state : TickState} {envelope : RateEnvelope}
    (h : losesAuthority tables now envelope = true)
    (hroom : state.envelopeUpdates.length < kMaxTickEnvelopeTransitions) :
    ∃ updated : RateEnvelope, updated.id = envelope.id ∧
      (tickEnvelope tables now state envelope).envelopeUpdates =
        mergeEnvelope state.envelopeUpdates updated := by
  generalize hcooled : cooldownStage (refillStage envelope now).1 now = cooled
  have hid : (staleStage cooled (authorityStatus tables cooled now)).id = envelope.id := by
    rw [← hcooled]
    unfold staleStage cooldownStage refillStage
    split <;> split <;> split <;> rfl
  simp only [losesAuthority, hcooled] at h
  refine ⟨{ staleStage cooled (authorityStatus tables cooled now) with updatedNs := now }, hid, ?_⟩
  have hfull : ¬ kMaxTickEnvelopeTransitions ≤ state.envelopeUpdates.length := Nat.not_le.2 hroom
  simp only [tickEnvelope, hcooled, h, Bool.or_true, hfull, decide_false, Bool.not_false,
    Bool.and_self, if_true]

theorem length_updates {list : List RateEnvelope} {state : TickState}
    (hlost : ∀ envelope ∈ list, losesAuthority tables now envelope = true)
    (hkeys : (list.map (·.id.value)).Nodup)
    (hfresh : ∀ updated ∈ state.envelopeUpdates, updated.id.value ∉ list.map (·.id.value))
    (hroom : state.envelopeUpdates.length + list.length ≤ kMaxTickEnvelopeTransitions) :
    (list.foldl (tickEnvelope tables now) state).envelopeUpdates.length =
      state.envelopeUpdates.length + list.length := by
  induction list generalizing state with
  | nil => rfl
  | cons envelope list ih =>
    rw [List.map_cons, List.nodup_cons] at hkeys
    rw [List.length_cons] at hroom
    obtain ⟨updated, hid, hupdates⟩ := @updates_tickEnvelope tables now state envelope
      (hlost envelope List.mem_cons_self) (by omega)
    have hlength : (tickEnvelope tables now state envelope).envelopeUpdates.length =
        state.envelopeUpdates.length + 1 := by
      rw [hupdates]
      refine length_mergeBy fun other hmem ↦ ?_
      intro heq
      refine hfresh other hmem ?_
      rw [heq, hid]
      exact List.mem_cons_self
    rw [List.foldl_cons, ih (fun other hmem ↦ hlost other (List.mem_cons_of_mem _ hmem)) hkeys.2
      (fun other hmem ↦ ?_) (by rw [hlength]; omega), hlength, List.length_cons]
    · omega
    · rw [hupdates] at hmem
      obtain rfl | hmem := mem_mergeBy hmem
      · rw [hid]
        exact hkeys.1
      · exact fun h ↦ hfresh other hmem (List.mem_cons_of_mem _ h)

theorem attemptUpdates_envelopes (list : List RateEnvelope) (state : TickState) :
    (list.foldl (tickEnvelope tables now) state).attemptUpdates = state.attemptUpdates := by
  induction list generalizing state with
  | nil => rfl
  | cons envelope list ih => exact ih (tickEnvelope tables now state envelope)

theorem length_tick {engine : Engine} {session : Session}
    (hbackend : engine.control.backend = none) (hattempts : engine.tables.attempts.entries = [])
    (hlost : ∀ envelope ∈ engine.tables.envelopes.entries,
      losesAuthority engine.tables now envelope = true)
    (hroom : engine.tables.envelopes.entries.length ≤ kMaxTickEnvelopeTransitions) :
    (tick engine now session).records.length = engine.tables.envelopes.entries.length := by
  have hstart : (tickStart engine now false).envelopeUpdates = [] := rfl
  have hupdates := @length_updates engine.tables now engine.tables.envelopes.entries
    (tickStart engine now false) hlost (Registry.nodup_entries _)
    (fun updated hmem ↦ by rw [hstart] at hmem; cases hmem)
    (by rw [hstart, List.length_nil, Nat.zero_add]; exact hroom)
  rw [hstart, List.length_nil, Nat.zero_add] at hupdates
  simp only [tick, hbackend, Option.isSome_none, Bool.false_and, tickPasses, hattempts,
    List.foldl_nil, stageEnvelopes, stageTerminated, List.length_append, List.length_map, hupdates,
    attemptUpdates_envelopes]
  exact Nat.add_zero _

end Ticking

section Crowd

/-- Opens more envelopes than a transaction has room for, then replaces the flow they name. -/
def crowd : List Action :=
  register ++ List.replicate 257 ⟨.openEnvelope sampleRequest actor 5, []⟩ ++
    [⟨.putFlow { sampleFlow with generation := ⟨2⟩ }, []⟩]

/-- The begin record of the second transaction is not written. -/
def crowdedTick : Action := ⟨.tick 9 {}, List.replicate 259 .done ++ [.failed 0]⟩

theorem brief_crowd : Guarded step briefly bareStart crowd := by
  refine guarded_of_forall fun action hmem s decision hsection ↦ ?_
  simp only [crowd, register, List.mem_append, List.mem_cons, List.not_mem_nil, or_false,
    List.mem_replicate] at hmem
  rcases hmem with ((rfl | rfl | rfl | rfl | rfl) | ⟨-, rfl⟩) | rfl
  all_goals cases hsection
  · exact brief_ingest
  · exact brief_ingest
  · exact brief_ingest
  · exact brief_ingest
  · exact brief_ingest
  · exact brief_openEnvelope
  · exact brief_ingest

def crowded (s : System) : Bool :=
  s.engine.config.durability = .strict && !s.engine.durability.degraded &&
    s.engine.durability.nextTxnId ≠ 0 &&
    (s.engine.durability.journal.any fun journal ↦ journal.isOpen && journal.config = widePayloads) &&
    s.engine.control.backend.isNone && s.engine.tables.attempts.entries.isEmpty &&
    s.engine.tables.envelopes.entries.length = 257 &&
    s.engine.tables.envelopes.entries.all (losesAuthority s.engine.tables 9)

theorem crowded_of_run : ∃ s, run step bareStart crowd = some s ∧ crowded s = true := by
  have h : (run step bareStart crowd).any crowded = true := by decide +kernel
  generalize run step bareStart crowd = reached at h ⊢
  cases reached with
  | none => cases h
  | some s => exact ⟨s, rfl, h⟩

theorem reaches_life {s t : System} (h : Reaches step anyStep s t) :
    Reaches lifeStep anyStep s t := by
  induction h with
  | refl => exact .refl
  | @tail t u action _ _ hstep ih => exact .tail (a := .act action) ih trivial hstep

theorem answer_crowdedTick {i : ℕ} (h : i < 259) : crowdedTick.io[i]? = some .done := by
  rw [crowdedTick, List.getElem?_append_left (by rwa [List.length_replicate]),
    List.getElem?_replicate_of_lt h]

/-- A tick that fails in its second transaction leaves those of its records in the file that were
in the first. -/
theorem kept_by_crowdedTick : ∃ s t decision, Journalled bareStart ∧
    Reaches lifeStep anyStep bareStart s ∧ step s crowdedTick = some t ∧
    sectionOf s crowdedTick.event = some decision ∧
    (decision.commit s.engine crowdedTick.io).status ≠ none ∧
    Follows (scanJournalFile (fileOf s.engine.durability)).committed
      ((contents s.engine decision).take kMaxRecordsPerTransaction)
      (scanJournalFile (fileOf t.engine.durability)).committed ∧ ¬ ChangesNothing s t := by
  obtain ⟨s, hrun, hcrowded⟩ := crowded_of_run
  have hreaches := reaches_life (reaches_of_run (guarded_anyStep _ _) hrun)
  have hkept := (reaches_of_run (guarded_anyStep _ _) hrun).invariant untorn_bareStart
    fun _ _ _ hkept _ hstep ↦ kept_step stable_untorn hkept hstep
  simp only [crowded, Bool.and_eq_true, decide_eq_true_eq, Bool.not_eq_true',
    Option.isNone_iff_eq_none, List.isEmpty_iff, List.all_eq_true, Option.any_eq_true] at hcrowded
  obtain ⟨⟨⟨⟨⟨⟨⟨hstrict, hhealthy⟩, htxn⟩, journal, hjournal, hopen, hconfig⟩, hbackend⟩,
    hattempts⟩, hcount⟩, hlost⟩ := hcrowded
  have hbounded := bounded_of_run (n := 1000) rfl untorn_bareStart brief_crowd hrun
    (.inr ⟨_, rfl, rfl, by decide +kernel⟩)
  obtain ⟨_, hsame, -, hlength⟩ := hbounded.resolve_left (by rw [hhealthy]; exact nofun)
  rw [hjournal] at hsame
  cases hsame
  have hsection : sectionOf s crowdedTick.event = some (once s (tick s.engine 9 {})) := rfl
  have hrecords : (once s (tick s.engine 9 {})).records.length = 257 :=
    (length_tick hbackend hattempts hlost (by rw [hcount]; decide)).trans hcount
  have hcontents : (contents s.engine (once s (tick s.engine 9 {}))).length = 257 :=
    (List.length_map _).trans hrecords
  have hworking : ¬ Stuck s.engine.config s.engine.durability := by
    rintro ⟨-, hdegraded | hclosed⟩
    · rw [hhealthy] at hdegraded
      cases hdegraded
    · rw [hclosed journal hjournal] at hopen
      cases hopen
  have hfirst : firstTransaction s.engine (once s (tick s.engine 9 {})) =
      (contents s.engine (once s (tick s.engine 9 {}))).take kMaxRecordsPerTransaction := rfl
  have hsize : (fileOf s.engine.durability).length +
      sectionSize s.engine (once s (tick s.engine 9 {})) ≤ kJournalMaxScanBytes := by
    have htick := @sectionSize_le (once s (tick s.engine 9 {})) s.engine
    have hfile : fileOf s.engine.durability = journal.file := by
      rw [fileOf, hjournal]
      rfl
    have hlong : crowd.length = 263 := by
      simp only [crowd, register, List.length_append, List.length_replicate, List.length_cons,
        List.length_nil]
    rw [hrecords] at htick
    rw [hlong] at hlength
    rw [hfile, kJournalMaxScanBytes]
    omega
  have hwritten : ¬ Withheld journal.config s.engine.durability.nextTxnId
      (firstTransaction s.engine (once s (tick s.engine 9 {}))) crowdedTick.io := by
    have hlength : (firstTransaction s.engine (once s (tick s.engine 9 {}))).length = 256 := by
      rw [hfirst, List.length_take, hcontents]
      rfl
    have hanswers {i n : ℕ} (hi : i < 259) (h : crowdedTick.io[i]? = some (.failed n)) : False := by
      rw [answer_crowdedTick hi] at h
      cases h
    have hpayload : journal.config.maxPayloadBytes.toNat = 4194304 := by
      rw [hconfig]
      rfl
    rintro (hzero | ⟨n, hn⟩ | (⟨entry, hmem, hlong⟩ | ⟨i, hi, n, hn⟩) | (hshort | ⟨n, -, hn⟩))
    · exact htxn hzero
    · exact hanswers (by decide) hn
    · rw [hfirst] at hmem
      have hentry := contents_length_le s.engine (List.mem_of_mem_take hmem)
      omega
    · rw [List.getElem?_drop, List.getElem?_tail] at hn
      exact hanswers (by omega) hn
    · omega
    · rw [List.getElem?_drop, hlength] at hn
      exact hanswers (by decide) hn
  obtain ⟨hfailed, hfirst'⟩ := kept_of_chunks hstrict hworking hkept hjournal (by rw [hconfig]; rfl)
    (by rw [hconfig]; rfl) rfl hsection rfl (by rw [hcontents]; decide) hwritten
    ⟨0, rfl⟩ hsize
  refine ⟨s, _, _, journalled_bareStart, hreaches, rfl, hsection, hfailed, hfirst', fun h ↦ ?_⟩
  obtain ⟨fresh, hfresh, htaken⟩ := hfirst'
  rw [h.committed] at hfresh
  rw [List.self_eq_append_right.1 hfresh, hfirst] at htaken
  have hempty := congrArg List.length htaken
  rw [List.length_take, hcontents] at hempty
  cases hempty

end Crowd

end RateGovernor.Safety.FailedCommit
