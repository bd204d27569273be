import RateGovernor.Dynamics.Carrying
import RateGovernor.Dynamics.Integrity
import RateGovernor.Dynamics.Rereading

namespace RateGovernor.Dynamics.Recounting

open Model.CheckedMath Model.Identity Model.Reason Model.Entities Model.Envelope Model.EngineState
open Model.Journal
open Model.JournalWriter Model.RecordCodec Model.EnvelopeCodec Model.Durability Model.Lifecycle
open Model.Maintenance Model.Execution Model.Recovery Foundation.ByteCodec Foundation.KeyedTable
open Install Sections Staging Records Framing Commits Transactions Compacting Snapshots Halting
open Journaling Reopening Demotion Carrying Restoring Rereading Integrity
open Torn (tables_perform tornBytes truncatedTail_of_torn)

variable {k : U64} {attempt : EnforcementAttempt} {record : JournalRecord}
  {records fresh : List JournalRecord} {last : Option EnforcementAttempt} {config : EngineConfig}
  {tables : Tables} {replay : Replay} {staged : Staged} {boot : WorkerBootId}

def nextRecorded (k : U64) (last : Option EnforcementAttempt) (record : JournalRecord) :
    Option EnforcementAttempt :=
  ((restoredAttempt record).filter fun attempt ↦ attempt.id.value = k).or last

def lastRecorded (k : U64) (records : List JournalRecord) : Option EnforcementAttempt :=
  records.foldl (nextRecorded k) none

def Unverified (known : Option EnforcementAttempt) : Prop :=
  ∀ attempt, known = some attempt → attempt.state ≠ .verified

def Spares (k : U64) (record : JournalRecord) : Prop :=
  ∀ attempt, restoredAttempt record = some attempt → attempt.id.value = k →
    attempt.state ≠ .verified

section Recorded

theorem attempts_record (config : EngineConfig) (replay : Replay) (record : JournalRecord)
    (h : (replay.record config record.type record.payload).tables.attempts.find k = some attempt) :
    (∃ restored, restoredAttempt record = some restored ∧
      (replay.tables.attempts.put restored).find k = some attempt) ∨
    restoredAttempt record = none ∧ replay.tables.attempts.find k = some attempt := by
  unfold Replay.record at h
  unfold restoredAttempt
  cases htype : record.type with
  | attemptCreated | attemptDispatched | attemptAcknowledged | attemptTerminated | attemptVerified
  | attemptCompensating =>
    simp only [htype] at h ⊢
    split at h
    · next hnone => exact .inr ⟨hnone, h⟩
    · next restored hdecoded => exact .inl ⟨restored, hdecoded, find_retain h⟩
  | envelopeCounters =>
    simp only [htype] at h
    refine .inr ⟨rfl, ?_⟩
    split at h
    · exact h
    · unfold Replay.patchCounters at h
      repeat' split at h
      all_goals exact h
  | _ =>
    simp only [htype] at h
    refine .inr ⟨rfl, ?_⟩
    repeat' split at h
    all_goals exact h

/-- An attempt that a replay restores is as the last record of it says. -/
theorem recorded_of_replayed {last : Option EnforcementAttempt}
    (hlast : ∀ old, replay.tables.attempts.find k = some old → last = some old)
    (h : (applySnapshotRecords config replay records).tables.attempts.find k = some attempt) :
    records.foldl (nextRecorded k) last = some attempt := by
  induction records generalizing replay last with
  | nil => exact hlast attempt h
  | cons record records ih =>
    refine ih (fun old hfind ↦ ?_) h
    unfold nextRecorded
    obtain ⟨restored, hrestored, hput⟩ | ⟨hnone, hold⟩ := attempts_record config replay record hfind
    · rw [hrestored]
      rw [Registry.find_put] at hput
      by_cases hk : restored.id.value = k
      · rw [if_pos hk] at hput
        rw [← Option.some_inj.1 hput, Option.filter_some, if_pos (decide_eq_true hk)]
        rfl
      · rw [if_neg hk] at hput
        rw [Option.filter_some, if_neg (by simpa using hk)]
        exact hlast old hput
    · rw [hnone]
      exact hlast old hold

theorem unverified_next (h : Unverified last) (hspares : Spares k record) :
    Unverified (nextRecorded k last record) := by
  intro attempt hnext
  unfold nextRecorded at hnext
  rcases Option.or_eq_some_iff.mp hnext with hrestored | ⟨-, hlast⟩
  · obtain ⟨hsome, hk⟩ := Option.filter_eq_some_iff.mp hrestored
    exact hspares attempt hsome (of_decide_eq_true hk)
  · exact h attempt hlast

theorem unverified_foldl (h : Unverified last) (hspares : ∀ record ∈ records, Spares k record) :
    Unverified (records.foldl (nextRecorded k) last) := by
  induction records generalizing last with
  | nil => exact h
  | cons record records ih =>
    exact ih (unverified_next h (hspares record List.mem_cons_self))
      fun later hmem ↦ hspares later (List.mem_cons_of_mem _ hmem)

theorem restoredAttempt_record (h : Staged.Replayable staged ∨
      ∃ envelope, staged = .envelope .envelopeCounters envelope)
    (hcontent : content record = staged.record boot) :
    restoredAttempt record = (attempt? staged).map keptAttempt := by
  obtain ⟨htype, hpayload⟩ := Prod.ext_iff.mp hcontent
  have htype : record.type = (staged.record boot).1 := htype
  have hpayload : record.payload = (staged.record boot).2 := hpayload
  unfold restoredAttempt
  rw [htype, hpayload]
  rcases h with hreplayable | ⟨envelope, rfl⟩
  · cases staged with
    | grant => obtain rfl | rfl := hreplayable <;> rfl
    | reservation => obtain rfl | rfl := hreplayable <;> rfl
    | policy => obtain rfl | rfl := hreplayable <;> rfl
    | resource => obtain rfl | rfl := hreplayable <;> rfl
    | envelope => obtain rfl | rfl | rfl | rfl := hreplayable <;> rfl
    | created attempt => exact read_attempt attempt
    | attempt type attempt =>
      obtain rfl | rfl | rfl | rfl := hreplayable <;> exact read_attempt attempt
    | _ => rfl
  · rfl

theorem spares_of_content (h : Spares k (unplaced (content record))) : Spares k record := h

theorem spares_record (h : Staged.Replayable staged ∨
      ∃ envelope, staged = .envelope .envelopeCounters envelope)
    (hspares : ∀ attempt, attempt? staged = some attempt → attempt.id.value = k →
      attempt.state ≠ .verified) : Spares k (unplaced (staged.record boot)) := by
  intro attempt hrestored hk
  rw [restoredAttempt_record h rfl] at hrestored
  obtain ⟨old, hold, rfl⟩ := Option.map_eq_some_iff.mp hrestored
  exact hspares old hold hk

end Recorded

section Snapshots

theorem attempt_of_listed (h : Listed tables staged) (hattempt : attempt? staged = some attempt) :
    tables.attempts.find attempt.id.value = some attempt := by
  cases h with
  | attempt stored =>
    cases hattempt
    exact Registry.mem_entries.mp stored
  | _ => cases hattempt

theorem spares_snapshot (h : Unverified (tables.attempts.find k)) {entry : JournalRecordType × Bytes}
    (hmem : entry ∈ buildSnapshotRecords config tables) : Spares k (unplaced entry) := by
  obtain ⟨staged, hstaged, rfl⟩ := List.mem_map.mp hmem
  have hlisted := mem_snapshot.mp hstaged
  refine spares_record (.inl (replayable_of_listed hlisted)) fun attempt hattempt hk ↦ ?_
  exact h attempt (hk ▸ attempt_of_listed hlisted hattempt)

end Snapshots

section Journals

/-- A file that can be taken apart to its end, and that does not leave the attempt Verified. -/
structure Silent (k : U64) (journal : JournalFile) : Prop where
  closed : journal.txnOpen = false
  clean : ∃ scan, Clean journal.file scan ∧ scan.result.status = .ok ∧
    Unverified (lastRecorded k scan.result.committed)

theorem lastRecorded_append (records fresh : List JournalRecord) :
    lastRecorded k (records ++ fresh) = fresh.foldl (nextRecorded k) (lastRecorded k records) :=
  List.foldl_append

theorem spares_follows {base : List JournalRecord} {log : List (JournalRecordType × Bytes)}
    (h : Follows base log records) (hbase : Unverified (lastRecorded k base))
    (hlog : ∀ entry ∈ log, Spares k (unplaced entry)) : Unverified (lastRecorded k records) := by
  obtain ⟨fresh, rfl, rfl⟩ := h
  rw [lastRecorded_append]
  exact unverified_foldl hbase fun record hmem ↦
    spares_of_content (hlog (content record) (List.mem_map_of_mem hmem))

theorem lasting_silent : Lasting (Silent k) (fun entry ↦ Spares k (unplaced entry))
    fun tables ↦ Unverified (tables.attempts.find k) where
  written {journal txn entries io} h hopen hentries hspares hdone := by
    obtain ⟨hclosed, scan, hclean, hstatus, hlast⟩ := h
    obtain ⟨-, ⟨-, ⟨failure, hfailure⟩, -⟩ | ⟨-, ⟨scan', hclean', hstatus', hfollows⟩, hleft⟩⟩ :=
      @writeTransaction_cases scan journal txn entries io _ hopen hclosed hclean hstatus hentries
        rfl
    · rw [hdone] at hfailure
      cases hfailure
    · exact ⟨(hleft hdone).2.1, scan', hclean', hstatus', spares_follows hfollows hlast hspares⟩
  compacted hclosed htables := by
    obtain ⟨scan, hclean, hstatus, hfollows⟩ := scan_compacted
      (fun _ hmem ↦ (snapshot_entries hmem).1) fun _ hmem ↦ (snapshot_entries hmem).2
    refine ⟨hclosed, scan, hclean, hstatus, spares_follows hfollows (fun attempt hnone ↦ ?_)
      fun entry hmem ↦ spares_snapshot htables hmem⟩
    cases hnone

end Journals

section Sizes

variable {journal before middle after : JournalFile} {type : JournalRecordType} {txn : U64}
  {payload : Bytes} {entries : List (JournalRecordType × Bytes)} {io : Io} {n m : ℕ}

/-- A journal counts at most so many bytes more than before, under its old configuration. -/
structure Counts (before : JournalFile) (n : ℕ) (after : JournalFile) : Prop where
  config : after.config = before.config
  bytes : after.sizeBytes.toNat ≤ before.sizeBytes.toNat + n

theorem Counts.same : Counts before n before := ⟨rfl, Nat.le_add_right _ _⟩

theorem Counts.trans (h : Counts before n middle) (h' : Counts middle m after) :
    Counts before (n + m) after := by
  refine ⟨h'.config.trans h.config, ?_⟩
  have hfirst := h.bytes
  have hsecond := h'.bytes
  omega

theorem toNat_add_ofNat_le (a : U64) (n : ℕ) : (a + UInt64.ofNat n).toNat ≤ a.toNat + n := by
  rw [UInt64.toNat_add, UInt64.toNat_ofNat']
  exact (Nat.mod_le _ _).trans (Nat.add_le_add_left (Nat.mod_le _ _) _)

theorem counts_writeRecord : Counts journal (recordSize payload)
    (journal.writeRecord type txn payload io).journal := by
  unfold JournalFile.writeRecord
  split
  · exact .same
  · split
    · exact .same
    · simp only
      split
      · exact .same
      · next hencoded =>
        split
        · exact ⟨rfl, Nat.le_add_right _ _⟩
        · refine ⟨rfl, ?_⟩
          obtain ⟨hframe, -⟩ := encodeJournalRecord_eq hencoded
          have hlength := congrArg List.length hframe
          rw [frame_length] at hlength
          exact hlength ▸ toNat_add_ofNat_le _ _

theorem counts_begin : Counts journal 44 (journal.begin txn io).journal := by
  have hcounts : Counts journal 44
      (journal.writeRecord .txnBegin txn (putU64 txn) io).journal :=
    recordSize_putU64 txn ▸ counts_writeRecord
  unfold JournalFile.begin
  split
  · exact .same
  · split
    · exact .same
    · split
      · exact .same
      · simp only
        split
        · exact hcounts
        · exact ⟨hcounts.config, hcounts.bytes⟩

theorem counts_append : Counts journal (recordSize payload)
    (journal.append type payload io).journal := by
  have hcounts : Counts journal (recordSize payload)
      (journal.writeRecord type journal.txnId payload io).journal := counts_writeRecord
  unfold JournalFile.append
  split
  · exact .same
  · split
    · exact .same
    · simp only
      split
      · exact hcounts
      · exact ⟨hcounts.config, hcounts.bytes⟩

theorem counts_appendAll :
    Counts journal (bodySize entries) (appendAll entries journal io).journal := by
  induction entries generalizing journal io with
  | nil => exact .same
  | cons entry entries ih =>
    have hbody : bodySize (entry :: entries) = recordSize entry.2 + bodySize entries := by
      rw [bodySize, List.map_cons, List.sum_cons]
      rfl
    rw [hbody]
    simp only [appendAll]
    split
    · exact counts_append.trans .same
    · exact counts_append.trans ih

theorem counts_commit : Counts journal 60 (journal.commit io).journal := by
  have hcounts : Counts journal 60 (journal.writeRecord .txnCommit journal.txnId
      (commitPayload journal.txnId journal.txnRecordCount journal.txnBytes) io).journal :=
    recordSize_commitPayload _ _ _ ▸ counts_writeRecord
  unfold JournalFile.commit
  split
  · exact .same
  · split
    · exact .same
    · simp only
      split
      · exact hcounts
      · split
        · exact hcounts
        · exact ⟨hcounts.config, hcounts.bytes⟩

theorem counts_rollback : Counts journal n journal.rollback := by
  unfold JournalFile.rollback
  split
  · exact .same
  · exact ⟨rfl, Nat.le_add_right _ _⟩

theorem counts_writeTransaction : Counts journal (transactionSize entries)
    (writeTransaction journal txn entries io).journal := by
  have hsize : transactionSize entries = 44 + bodySize entries + 60 := by
    unfold transactionSize
    omega
  rw [hsize]
  unfold writeTransaction
  simp only
  split
  · exact (counts_begin.trans .same).trans counts_rollback
  · split
    · exact (counts_begin.trans counts_appendAll).trans counts_rollback
    · exact (counts_begin.trans counts_appendAll).trans counts_commit

end Sizes

section Commits

variable {durability : Durability} {entries : List (JournalRecordType × Bytes)} {io : Io}

theorem kept_of_stuck {P : JournalFile → Prop} (h : Stuck config durability) : Kept P durability := by
  obtain ⟨-, hdegraded | hclosed⟩ := h
  · exact .inl hdegraded
  · refine .inr fun journal hjournal hopen ↦ ?_
    rw [hclosed journal hjournal] at hopen
    cases hopen

/-- A transaction behind which the attempt is not Verified leaves such a file, unless the compaction
it sets off brings back what the tables say. -/
theorem silent_commitRecords (hstrict : config.durability = .strict) (h : Kept Untorn durability)
    (hentries : Admissible entries) (hne : entries ≠ [])
    (hlast : ∀ journal scan fresh, durability.degraded = false →
      durability.journal = some journal → journal.isOpen = true → Clean journal.file scan →
      fresh.map content = entries → Unverified (lastRecorded k (scan.result.committed ++ fresh)))
    (hcompact : Unverified (tables.attempts.find k) ∨ Roomy durability (transactionSize entries)) :
    Kept (Silent k) (commitRecords config tables durability entries io).durability := by
  by_cases hworking : Stuck config durability
  · obtain ⟨error, herror⟩ := @commitRecords_stuck config tables durability io entries hworking
    rw [herror]
    exact kept_of_stuck hworking
  · obtain ⟨hhealthy, journal, hjournal, hopen⟩ := working_of_not_stuck hstrict hworking
    obtain ⟨hclosed, scan, hclean, hstatus⟩ :=
      (h.resolve_left (by rw [hhealthy]; exact Bool.false_ne_true)) journal hjournal hopen
    obtain ⟨hfailed, hdone⟩ := @commitRecords_working config tables durability io journal entries
      hstrict hhealthy hjournal hopen hne _ rfl
    cases hfailure : (writeTransaction journal durability.nextTxnId entries io).failure with
    | some failure =>
      obtain ⟨error, hcommit⟩ := hfailed failure hfailure
      rw [hcommit]
      exact .inl rfl
    | none =>
      obtain ⟨-, ⟨-, ⟨failure, hsome⟩, -⟩ | ⟨-, ⟨scan', hclean', hstatus', fresh, hrecords, hfresh⟩,
        hleft⟩⟩ := @writeTransaction_cases scan journal durability.nextTxnId entries io _ hopen
          hclosed hclean hstatus hentries rfl
      · rw [hfailure] at hsome
        cases hsome
      · obtain ⟨hopen', hclosed', hconfig, -⟩ := hleft hfailure
        have hsilent : Silent k (writeTransaction journal durability.nextTxnId entries io).journal :=
          ⟨hclosed', scan', hclean', hstatus',
            hrecords ▸ hlast journal scan fresh hhealthy hjournal hopen hclean hfresh⟩
        rw [hdone hfailure]
        rcases hcompact with hunverified | hroom
        · exact kept_maybeCompact lasting_silent hunverified hsilent
        · rw [maybeCompact_of_fits hopen' ?_]
          · refine .inr fun other hother _ ↦ ?_
            cases hother
            exact hsilent
          · rw [hconfig]
            refine (hroom journal hjournal).imp_right fun hfits ↦ ?_
            exact UInt64.le_iff_toNat_le.mpr (counts_writeTransaction.bytes.trans hfits)

def Unsuccessful (k : U64) (tables : Tables) : Prop :=
  ∃ attempt, tables.attempts.find k = some attempt ∧ attempt.state ≠ .verified

theorem unsuccessful_unverified (h : Unsuccessful k tables) :
    Unverified (tables.attempts.find k) := by
  obtain ⟨attempt, hfind, hstate⟩ := h
  rintro found hfound
  rw [hfind] at hfound
  cases hfound
  exact hstate

theorem unverified_install (hlast : Unsuccessful k tables → Unverified last)
    (hreplayable : Staged.Replayable staged ∨
      ∃ envelope, staged = .envelope .envelopeCounters envelope)
    (hcreated : ∀ attempt, staged = .created attempt → attempt.state ≠ .verified)
    (hcontent : content record = staged.record boot)
    (h : Unsuccessful k (tables.install config staged)) :
    Unverified (nextRecorded k last record) := by
  obtain ⟨attempt, hfind, hstate⟩ := h
  have hkey := Registry.key_of_find hfind
  unfold nextRecorded
  rw [restoredAttempt_record hreplayable hcontent]
  cases hattempt : attempt? staged with
  | none =>
    have hkept : (tables.install config staged).attempts = tables.attempts := by
      cases staged <;> first | rfl | cases hattempt
    exact hlast ⟨attempt, hkept ▸ hfind, hstate⟩
  | some found =>
    rw [Option.map_some, Option.filter_some]
    have hid : (keptAttempt found).id.value = found.id.value := rfl
    rw [hid]
    by_cases hk : found.id.value = k
    · rw [if_pos (decide_eq_true hk)]
      rintro _ ⟨⟩
      cases staged with
      | created created =>
        cases hattempt
        exact hcreated found rfl
      | attempt type staged =>
        cases hattempt
        rw [Tables.install, Registry.find_put, if_pos hk] at hfind
        cases hfind
        exact hstate
      | _ => cases hattempt
    · rw [if_neg (by rwa [decide_eq_true_eq])]
      refine hlast ⟨attempt, ?_, hstate⟩
      cases staged with
      | created created =>
        cases hattempt
        obtain ⟨attempts, order, lists, hretained, hold⟩ := retainAttempt_tables config tables found
        rw [Tables.install, hretained] at hfind
        obtain rfl | hfound := hold k attempt hfind
        · exact absurd hkey hk
        · exact hfound
      | attempt type staged =>
        cases hattempt
        rwa [Tables.install, Registry.find_put, if_neg hk] at hfind
      | _ => cases hattempt

theorem unverified_installed {staged : List Staged}
    (hlast : Unsuccessful k tables → Unverified last)
    (hreplayable : ∀ record ∈ staged, Staged.Replayable record ∨
      ∃ envelope, record = .envelope .envelopeCounters envelope)
    (hcreated : ∀ attempt, .created attempt ∈ staged → attempt.state ≠ .verified)
    (hfresh : fresh.map content = staged.map (Staged.record boot))
    (h : Unsuccessful k (installed config tables staged)) :
    Unverified (fresh.foldl (nextRecorded k) last) := by
  induction staged generalizing tables last fresh with
  | nil =>
    rw [List.map_nil, List.map_eq_nil_iff] at hfresh
    rw [hfresh]
    exact hlast h
  | cons record staged ih =>
    obtain ⟨first, rest, rfl, hcontent, hrest⟩ := List.map_eq_cons_iff.mp hfresh
    have hnext : Unsuccessful k (tables.install config record) →
        Unverified (nextRecorded k last first) := by
      refine unverified_install hlast (hreplayable record List.mem_cons_self) ?_ hcontent
      rintro attempt rfl
      exact hcreated attempt List.mem_cons_self
    show Unverified (rest.foldl (nextRecorded k) (nextRecorded k last first))
    exact ih hnext (fun later hmem ↦ hreplayable later (List.mem_cons_of_mem _ hmem))
      (fun attempt hmem ↦ hcreated attempt (List.mem_cons_of_mem _ hmem)) hrest h

end Commits

section Recovered

variable {file : Bytes} {demotedNs advancedNs now : U64} {io tailIo : Io} {engine : Engine}
  {truncate : Bool}

theorem settledAttempt_verified : (settledAttempt now attempt).state = .verified ↔
    attempt.state = .verified := by
  unfold settledAttempt
  split
  · next hlive =>
    refine ⟨fun h ↦ ?_, fun h ↦ ?_⟩
    · cases h
    · rw [h] at hlive
      cases hlive
  · exact Iff.rfl

/-- A recovery hands out what the last record of an attempt says, and settles it. -/
theorem recorded_of_recoverEngine
    (h : recoverEngine config file demotedNs advancedNs io = .ok engine)
    (hfind : engine.tables.attempts.find k = some attempt) :
    ∃ old, lastRecorded k (scanJournalFile file).committed = some old ∧
      attempt = settledAttempt demotedNs old := by
  rw [(takenOver_of_recoverEngine h).attempts k] at hfind
  obtain ⟨old, hold, rfl⟩ := Option.map_eq_some_iff.mp hfind
  refine ⟨old, recorded_of_replayed (fun earlier hnone ↦ ?_) hold, rfl⟩
  cases hnone

theorem recorded_of_recovered
    (h : recoverEngineWith truncate config file demotedNs advancedNs io tailIo = .ok engine)
    (hfind : engine.tables.attempts.find k = some attempt) :
    ∃ old, lastRecorded k (scanJournalFile file).committed = some old ∧
      attempt = settledAttempt demotedNs old := by
  unfold recoverEngineWith at h
  split at h
  · cases h
  · next recovered hrecovered =>
    cases h
    obtain ⟨durability, heq⟩ := tailDropped_eq truncate (scanJournalFile file) recovered tailIo
    rw [heq] at hfind
    exact recorded_of_recoverEngine hrecovered hfind

theorem spares_recoveryRecords {entry : JournalRecordType × Bytes}
    (hmem : entry ∈ recoveryRecords config file demotedNs advancedNs io) :
    Spares k (unplaced entry) := by
  have hnone {staged : Staged} {boot : WorkerBootId} (hreplayable : Staged.Replayable staged)
      (hattempt : attempt? staged = none) : Spares k (unplaced (staged.record boot)) :=
    spares_record (.inl hreplayable) fun attempt hsome ↦ by
      rw [hattempt] at hsome
      cases hsome
  have hepoch (boot : WorkerBootId) (epoch : FabricEpoch) (reason : ReasonCode) :
      Spares k (unplaced (Staged.record boot (.epoch epoch reason))) := hnone trivial rfl
  have henvelope (boot : WorkerBootId) (envelope : RateEnvelope) :
      Spares k (unplaced (Staged.record boot (.envelope .envelopeStateChange envelope))) :=
    hnone (.inr (.inr (.inl rfl))) rfl
  unfold recoveryRecords at hmem
  rcases List.mem_append.mp hmem with hfirst | hadvance
  · rcases List.mem_append.mp hfirst with hbanner | hdemotion
    · obtain rfl := List.mem_singleton.mp hbanner
      exact hepoch _ _ _
    · obtain ⟨staged, hstaged, rfl⟩ := List.mem_map.mp hdemotion
      obtain ⟨old, -, rfl⟩ | ⟨-, -, envelope, -, rfl⟩ := demoteForRecovery_records hstaged
      · refine spares_record (.inl (.inr (.inr (.inl rfl)))) fun attempt hattempt hk ↦ ?_
        cases hattempt
        rintro ⟨⟩
      · exact henvelope _ _
  · split at hadvance
    · obtain ⟨staged, hstaged, rfl⟩ := List.mem_map.mp hadvance
      obtain rfl | ⟨envelope, rfl⟩ := advanceEpoch_records hstaged
      · exact hepoch _ _ _
      · exact henvelope _ _
    · cases hadvance

theorem attempts_demoted (hfind : (demoted config file demotedNs io).1.tables.attempts.find k =
      some attempt) (hstate : attempt.state = .verified) :
    (rebuilt config file io).tables.attempts.find k = some attempt := by
  obtain hsame | hinstalled :=
    tables_perform (demotion config file demotedNs io) (rebuilt config file io)
      (bannered config file io).2
  · rwa [demoted, hsame] at hfind
  · rw [demoted, hinstalled] at hfind
    obtain ⟨staged, hmem, hattempt⟩ | hold := installed_attempts _ _ hfind
    · obtain ⟨old, -, rfl⟩ | ⟨-, -, envelope, -, rfl⟩ := demoteForRecovery_records hmem
      · cases hattempt
        cases hstate
      · cases hattempt
    · exact hold

theorem committed_of_recoverEngine {scan : Scan} (hclean : Clean file scan)
    (h : recoverEngine config file demotedNs advancedNs io = .ok engine) :
    (scanJournalFile file).committed = scan.result.committed := by
  obtain ⟨hok, -⟩ := recoverEngine_ok h
  rw [scanJournalFile_of_clean hclean (le_of_scan_ok hok)]
  exact (finish_tail scan).2.2.1

theorem silent_of_recoverEngine {scan : Scan} (hclean : Clean file scan)
    (hstatus : scan.result.status = .ok)
    (hlast : Unverified (lastRecorded k (scanJournalFile file).committed))
    (h : recoverEngine config file demotedNs advancedNs io = .ok engine) :
    Kept (Silent k) engine.durability := by
  have hcommitted := committed_of_recoverEngine hclean h
  have hrebuilt : Unverified ((rebuilt config file io).tables.attempts.find k) := by
    intro attempt hfind
    rw [tables_rebuilt] at hfind
    refine hlast attempt (recorded_of_replayed (fun earlier hnone ↦ ?_) hfind)
    cases hnone
  refine kept_recovered lasting_silent h (fun _ ↦ ⟨rfl, scan, hclean, hstatus, hcommitted ▸ hlast⟩)
    (fun entry ↦ spares_recoveryRecords) (fun attempt hnone ↦ ?_) hrebuilt fun attempt hfind ↦ ?_
  · rw [tables_bannered] at hnone
    cases hnone
  · exact fun hstate ↦ hrebuilt attempt (attempts_demoted hfind hstate) hstate

/-- The recovery leaves no torn record in the journal: there was none, or its closing compaction
drops it. -/
def Mends (truncate : Bool) (config : EngineConfig) (file : Bytes) (demotedNs advancedNs : U64)
    (io tailIo : Io) : Prop :=
  tornBytes file = 0 ∨ truncate = true ∧ ∀ engine journal,
    recoverEngine config file demotedNs advancedNs io = .ok engine →
    engine.durability.journal = some journal →
      (journal.compactWith (buildSnapshotRecords engine.config engine.tables) tailIo).failure = none

theorem kept_of_mended {P : JournalFile → Prop} {E : JournalRecordType × Bytes → Prop}
    {T : Tables → Prop} (hlasting : Lasting P E T)
    (hmends : Mends truncate config file demotedNs advancedNs io tailIo)
    (hclean : ∀ scan recovered, Clean file scan → scan.result.status = .ok →
      recoverEngine config file demotedNs advancedNs io = .ok recovered →
        Kept P recovered.durability)
    (htables : ∀ recovered, recoverEngine config file demotedNs advancedNs io = .ok recovered →
      T recovered.tables)
    (h : recoverEngineWith truncate config file demotedNs advancedNs io tailIo = .ok engine) :
    Kept P engine.durability := by
  unfold recoverEngineWith at h
  split at h
  · cases h
  · next recovered hrecovered =>
    cases h
    by_cases htorn : tornBytes file = 0
    · obtain ⟨scan, hscan, -, hstatus⟩ :=
        clean_of_scan (recoverEngine_ok hrecovered).1 (UInt64.toNat_inj.mp htorn)
      exact kept_tailDropped hlasting (htables recovered hrecovered)
        (hclean scan recovered hscan hstatus hrecovered) _ _ _
    · -- The torn record is dropped with the log it ends.
      obtain ⟨htruncate, hdone⟩ := hmends.resolve_left htorn
      unfold tailDropped
      rw [if_pos (by rw [htruncate, truncatedTail_of_torn htorn]; rfl)]
      split
      · next hnone =>
        refine .inr fun journal hjournal _ ↦ ?_
        rw [hnone] at hjournal
        cases hjournal
      · next journal hjournal =>
        refine .inr fun compacted hcompacted _ ↦ ?_
        cases hcompacted
        obtain ⟨-, hclosed, hreplaced⟩ :=
          compactWith_ok rfl (hdone recovered journal hrecovered hjournal)
        rw [hreplaced]
        exact hlasting.compacted hclosed (htables recovered hrecovered)

theorem untorn_of_recovered (hmends : Mends truncate config file demotedNs advancedNs io tailIo)
    (h : recoverEngineWith truncate config file demotedNs advancedNs io tailIo = .ok engine) :
    Kept Untorn engine.durability :=
  kept_of_mended stable_untorn hmends (fun scan _ hclean hstatus hrecovered ↦
    kept_recovered stable_untorn hrecovered (fun _ ↦ ⟨rfl, scan, hclean, hstatus⟩)
      (fun _ _ ↦ trivial) trivial trivial trivial) (fun _ _ ↦ trivial) h

theorem silent_of_recovered (hmends : Mends truncate config file demotedNs advancedNs io tailIo)
    (hlast : Unverified (lastRecorded k (scanJournalFile file).committed))
    (h : recoverEngineWith truncate config file demotedNs advancedNs io tailIo = .ok engine) :
    Kept (Silent k) engine.durability := by
  refine kept_of_mended lasting_silent hmends (fun scan recovered hclean hstatus hrecovered ↦
    silent_of_recoverEngine hclean hstatus hlast hrecovered) (fun recovered hrecovered ↦ ?_) h
  intro attempt hfind
  obtain ⟨old, hold, rfl⟩ := recorded_of_recoverEngine hrecovered hfind
  rw [ne_eq, settledAttempt_verified]
  exact hlast old hold

theorem strict_of_recovered
    (h : recoverEngineWith truncate config file demotedNs advancedNs io tailIo = .ok engine) :
    engine.config.durability = .strict := by
  unfold recoverEngineWith at h
  split at h
  · cases h
  · next recovered hrecovered =>
    cases h
    obtain ⟨durability, heq⟩ := tailDropped_eq truncate (scanJournalFile file) recovered tailIo
    obtain ⟨-, -, -, rfl⟩ := recoverEngine_ok hrecovered
    rw [heq]
    show (advanced config file demotedNs advancedNs io).1.config.durability = .strict
    rw [advanced_config, demoted, perform_config]
    rfl

end Recovered

end RateGovernor.Dynamics.Recounting
