import RateGovernor.Dynamics.Integrity
import RateGovernor.Safety.CompactionLag
import RateGovernor.Safety.SnapshotRoundTrip

namespace RateGovernor.Safety.LostTransaction

open Model.CheckedMath Model.Identity Model.Entities Model.Envelope Model.Journal
open Model.JournalWriter
open Model.EngineState Model.Durability Model.Authority Model.Lifecycle Model.Execution Model.Reason
open Foundation.ByteCodec Foundation.KeyedTable Foundation.GuardedRun Dynamics.Install
open Dynamics.Sections Dynamics.Staging Dynamics.Turns Dynamics.Evolution Dynamics.Halting
open Dynamics.Issue Dynamics.Attempts Dynamics.Retention Dynamics.Records Dynamics.Framing
open Dynamics.Commits Dynamics.Transactions Dynamics.Journaling Dynamics.Start Dynamics.Snapshots
open Dynamics.Compacting Dynamics.Restoring Dynamics.Integrity Dynamics.Numbering Dynamics.Spacing
open CompactionLag ReplayedMemory SnapshotRoundTrip

variable {config : EngineConfig} {tables tables' : Tables} {durability : Durability}
  {records : List (JournalRecordType × Bytes)} {io : Io}

section Losses

def Snapshotted (config : EngineConfig) (tables : Tables) (durability : Durability) : Prop :=
  fileOf durability = compactedFile (buildSnapshotRecords config tables)

instance (config : EngineConfig) (tables : Tables) (durability : Durability) :
    Decidable (Snapshotted config tables durability) := inferInstanceAs (Decidable (_ = _))

/-- How many records of a long list its transactions have taken when one of them is the last to leave
the snapshot in the place of the log. -/
def lostOfMany (config : EngineConfig) (tables : Tables) :
    ℕ → Durability → List (JournalRecordType × Bytes) → Io → ℕ
  | 0, _, _, _ => 0
  | fuel + 1, durability, records, io =>
    if records = [] then 0
    else
      let committed :=
        commitRecords config tables durability (records.take kMaxRecordsPerTransaction) io
      let later := match committed.status with
        | some _ => 0
        | none =>
          lostOfMany config tables fuel committed.durability
            (records.drop kMaxRecordsPerTransaction) committed.io
      if later ≠ 0 then kMaxRecordsPerTransaction + later
      else if Snapshotted config tables committed.durability then kMaxRecordsPerTransaction
      else 0

/-- How many of its records a section has handed to the journal when its commit last compacts. -/
def lost (engine : Engine) (decision : Section) (io : Io) : ℕ :=
  if decision.chunked then
    lostOfMany engine.config engine.tables decision.records.length engine.durability
      (contents engine decision) io
  else if Snapshotted engine.config engine.tables (decision.commit engine io).durability then
    decision.records.length
  else 0

end Losses

section Files

variable {base : List JournalRecord} {log : List (JournalRecordType × Bytes)} {file : Bytes}

def Holds (base : List JournalRecord) (log : List (JournalRecordType × Bytes)) (file : Bytes) : Prop :=
  ∃ scan, Clean file scan ∧ scan.result.status = .ok ∧ Follows base log scan.result.committed

theorem holds_snapshot (config : EngineConfig) (tables : Tables) :
    Holds [compactedHeader] (buildSnapshotRecords config tables)
      (compactedFile (buildSnapshotRecords config tables)) :=
  scan_compacted (fun _ hmem ↦ (snapshot_entries hmem).1) fun _ hmem ↦ (snapshot_entries hmem).2

theorem follows_append {base : List JournalRecord} {log more : List (JournalRecordType × Bytes)}
    {committed further : List JournalRecord} (h : Follows base log committed)
    (hmore : Follows committed more further) : Follows base (log ++ more) further := by
  obtain ⟨fresh, rfl, rfl⟩ := h
  obtain ⟨later, rfl, rfl⟩ := hmore
  exact ⟨fresh ++ later, List.append_assoc _ _ _, List.map_append⟩

theorem closed_of_writeTransaction {journal : JournalFile} {txn : U64}
    (h : (writeTransaction journal txn records io).failure = none) : journal.txnOpen = false := by
  by_contra hopen
  have hopen := Bool.eq_true_of_not_eq_false hopen
  unfold writeTransaction JournalFile.begin at h
  rw [if_pos hopen] at h
  split at h <;> cases h

theorem file_maybeCompact (journal : JournalFile) :
    fileOf (maybeCompact config tables durability journal io).1 = journal.file ∨
      Snapshotted config tables (maybeCompact config tables durability journal io).1 := by
  unfold maybeCompact
  split
  · exact .inl rfl
  · split
    · exact .inl rfl
    · have hcases := @compactWith_cases journal (buildSnapshotRecords config tables) io _ rfl
      have hfile : (journal.compactWith (buildSnapshotRecords config tables) io).journal.file =
          journal.file ∨ (journal.compactWith (buildSnapshotRecords config tables) io).journal.file =
            compactedFile (buildSnapshotRecords config tables) := by
        obtain hsame | ⟨-, -, hfile⟩ | ⟨-, hover⟩ := hcases
        · exact .inl (congrArg (·.file) hsame)
        · exact hfile
        · exact .inr (congrArg (·.file) hover)
      simp only
      split <;> exact hfile

theorem holds_commitRecords (hstrict : config.durability = .strict)
    (h : Holds base log (fileOf durability)) (hentries : Admissible records) (hne : records ≠ [])
    (hdone : (commitRecords config tables durability records io).status = none) :
    Holds base (log ++ records)
        (fileOf (commitRecords config tables durability records io).durability) ∨
      Snapshotted config tables (commitRecords config tables durability records io).durability := by
  have hworking : ¬ Stuck config durability := by
    intro hstuck
    obtain ⟨error, herror⟩ := @commitRecords_stuck config tables durability io records hstuck
    rw [herror] at hdone
    cases hdone
  obtain ⟨hhealthy, journal, hjournal, hopen⟩ := working_of_not_stuck hstrict hworking
  obtain ⟨hfailed, hsucceeded⟩ := @commitRecords_working config tables durability io journal records
    hstrict hhealthy hjournal hopen hne _ rfl
  cases hfailure : (writeTransaction journal durability.nextTxnId records io).failure with
  | some failure =>
    obtain ⟨error, herror⟩ := hfailed failure hfailure
    rw [herror] at hdone
    cases hdone
  | none =>
    rw [hsucceeded hfailure]
    obtain hsame | hsnapshot := @file_maybeCompact config tables
      { durability with
        nextTxnId := durability.nextTxnId + 1
        journalCommits := durability.journalCommits + 1 }
      (writeTransaction journal durability.nextTxnId records io).io
      (writeTransaction journal durability.nextTxnId records io).journal
    · obtain ⟨scan, hclean, hstatus, hfollows⟩ := h
      have hfile : fileOf durability = journal.file := by rw [fileOf, hjournal]; rfl
      rw [hfile] at hclean
      obtain ⟨-, ⟨-, ⟨failure, hsome⟩, -⟩ | ⟨-, ⟨scan', hclean', hstatus', hfollows'⟩, -⟩⟩ :=
        @writeTransaction_cases scan journal durability.nextTxnId records io _ hopen
          (closed_of_writeTransaction hfailure) hclean hstatus hentries rfl
      · rw [hfailure] at hsome
        cases hsome
      · refine .inl ⟨scan', ?_, hstatus', follows_append hfollows hfollows'⟩
        rw [hsame]
        exact hclean'
    · exact .inr hsnapshot

theorem holds_commitMany {fuel : ℕ} (hstrict : config.durability = .strict)
    (h : Holds base log (fileOf durability)) (hentries : Admissible records)
    (hfuel : records.length ≤ fuel)
    (hdone : (commitMany config tables fuel durability records io).status = none)
    (hnone : lostOfMany config tables fuel durability records io = 0) :
    Holds base (log ++ records)
      (fileOf (commitMany config tables fuel durability records io).durability) := by
  induction fuel generalizing durability log records io with
  | zero =>
    obtain rfl := List.eq_nil_of_length_eq_zero (Nat.le_zero.mp hfuel)
    rw [List.append_nil]
    exact h
  | succ fuel ih =>
    unfold commitMany at hdone ⊢
    unfold lostOfMany at hnone
    by_cases hempty : records = []
    · rw [if_pos hempty]
      rw [hempty, List.append_nil]
      exact h
    · rw [if_neg hempty] at hdone hnone ⊢
      have hchunk : records.take kMaxRecordsPerTransaction ≠ [] := by
        rw [ne_eq, List.take_eq_nil_iff, not_or]
        exact ⟨by decide, hempty⟩
      have hlength : (records.drop kMaxRecordsPerTransaction).length ≤ fuel := by
        rw [List.length_drop, kMaxRecordsPerTransaction]
        omega
      cases hstatus : (commitRecords config tables durability
          (records.take kMaxRecordsPerTransaction) io).status with
      | some error =>
        simp only [hstatus] at hdone
        cases hdone
      | none =>
        simp only [hstatus] at hdone hnone ⊢
        have hlater : lostOfMany config tables fuel (commitRecords config tables durability
            (records.take kMaxRecordsPerTransaction) io).durability
            (records.drop kMaxRecordsPerTransaction) (commitRecords config tables durability
              (records.take kMaxRecordsPerTransaction) io).io = 0 := by
          by_contra hlater
          rw [if_pos hlater] at hnone
          exact hlater (Nat.eq_zero_of_add_eq_zero_left hnone)
        rw [if_neg (not_not.mpr hlater)] at hnone
        obtain hheld | hsnapshot :=
          holds_commitRecords hstrict h (hentries.take _) hchunk hstatus
        · have hrest := ih hheld (hentries.drop _) hlength hdone hlater
          rw [List.append_assoc, List.take_append_drop] at hrest
          exact hrest
        · rw [if_pos hsnapshot] at hnone
          cases hnone

theorem holds_of_lostOfMany {fuel : ℕ} (hstrict : config.durability = .strict)
    (hentries : Admissible records) (hfuel : records.length ≤ fuel)
    (hdone : (commitMany config tables fuel durability records io).status = none)
    (hlost : lostOfMany config tables fuel durability records io ≠ 0) :
    Holds [compactedHeader] (buildSnapshotRecords config tables ++
        records.drop (lostOfMany config tables fuel durability records io))
      (fileOf (commitMany config tables fuel durability records io).durability) := by
  induction fuel generalizing durability records io with
  | zero => exact absurd rfl hlost
  | succ fuel ih =>
    unfold commitMany at hdone ⊢
    unfold lostOfMany at hlost ⊢
    by_cases hempty : records = []
    · rw [if_pos hempty] at hlost
      exact absurd rfl hlost
    · rw [if_neg hempty] at hdone hlost
      rw [if_neg hempty, if_neg hempty]
      have hlength : (records.drop kMaxRecordsPerTransaction).length ≤ fuel := by
        rw [List.length_drop, kMaxRecordsPerTransaction]
        omega
      cases hstatus : (commitRecords config tables durability
          (records.take kMaxRecordsPerTransaction) io).status with
      | some error =>
        simp only [hstatus] at hdone
        cases hdone
      | none =>
        simp only [hstatus] at hdone hlost ⊢
        by_cases hlater : lostOfMany config tables fuel (commitRecords config tables durability
            (records.take kMaxRecordsPerTransaction) io).durability
            (records.drop kMaxRecordsPerTransaction) (commitRecords config tables durability
              (records.take kMaxRecordsPerTransaction) io).io = 0
        · rw [if_neg (not_not.mpr hlater)] at hlost ⊢
          by_cases hsnapshot : Snapshotted config tables (commitRecords config tables durability
              (records.take kMaxRecordsPerTransaction) io).durability
          · rw [if_pos hsnapshot]
            refine holds_commitMany hstrict ?_ (hentries.drop _) hlength hdone hlater
            rw [hsnapshot]
            exact holds_snapshot config tables
          · rw [if_neg hsnapshot] at hlost
            exact absurd rfl hlost
        · rw [if_pos hlater, ← List.drop_drop]
          exact ih (hentries.drop _) hlength hdone hlater

/-- What the file holds after a section whose commit compacts. -/
theorem holds_of_lost {engine : Engine} {decision : Section}
    (hstrict : engine.config.durability = .strict)
    (hentries : Admissible (contents engine decision))
    (hdone : (decision.commit engine io).status = none) (hlost : lost engine decision io ≠ 0) :
    Holds [compactedHeader] (buildSnapshotRecords engine.config engine.tables ++
        (contents engine decision).drop (lost engine decision io))
      (fileOf (decision.commit engine io).durability) := by
  have hlength : (contents engine decision).length = decision.records.length := List.length_map _
  unfold lost at hlost ⊢
  cases hchunked : decision.chunked with
  | true =>
    unfold Decision.commit at hdone ⊢
    rw [hchunked, if_pos rfl] at hdone hlost
    rw [if_pos rfl, hchunked, if_pos rfl]
    rw [← hlength] at hlost ⊢
    exact holds_of_lostOfMany hstrict hentries (Nat.le_refl _) hdone hlost
  | false =>
    rw [hchunked, if_neg Bool.false_ne_true] at hlost
    rw [if_neg Bool.false_ne_true]
    by_cases hsnapshot :
        Snapshotted engine.config engine.tables (decision.commit engine io).durability
    · rw [if_pos hsnapshot, ← hlength, List.drop_length, List.append_nil, hsnapshot]
      exact holds_snapshot engine.config engine.tables
    · rw [if_neg hsnapshot] at hlost
      exact absurd rfl hlost

end Files

section Objects

variable {replay : Replay} {record later : Staged} {staged : List Staged}

/-- The tables hold the same objects, in whatever order they forget attempts. -/
structure SameObjects (tables tables' : Tables) : Prop where
  flows : tables.flows = tables'.flows
  grants : tables.grants = tables'.grants
  reservations : tables.reservations = tables'.reservations
  policies : tables.policies = tables'.policies
  resources : tables.resources = tables'.resources
  backends : tables.backends = tables'.backends
  epoch : tables.epoch = tables'.epoch
  envelopes : tables.envelopes = tables'.envelopes
  attempts : tables.attempts = tables'.attempts

theorem SameObjects.symm (h : SameObjects tables tables') : SameObjects tables' tables :=
  ⟨h.flows.symm, h.grants.symm, h.reservations.symm, h.policies.symm, h.resources.symm,
    h.backends.symm, h.epoch.symm, h.envelopes.symm, h.attempts.symm⟩

theorem SameObjects.trans {tables'' : Tables} (h : SameObjects tables tables')
    (h' : SameObjects tables' tables'') : SameObjects tables tables'' :=
  ⟨h.flows.trans h'.flows, h.grants.trans h'.grants, h.reservations.trans h'.reservations,
    h.policies.trans h'.policies, h.resources.trans h'.resources, h.backends.trans h'.backends,
    h.epoch.trans h'.epoch, h.envelopes.trans h'.envelopes, h.attempts.trans h'.attempts⟩

theorem sameObjects_of_rebuilt (h : Rebuilt config tables replay) :
    SameObjects replay.tables tables :=
  ⟨h.flows, h.grants, h.reservations, h.policies, h.resources, h.backends, h.epoch, h.envelopes,
    h.attempts⟩

def Amends (tables : Tables) : Staged → Prop
  | .created _ => False
  | .attempt _ attempt => ∃ old, tables.attempts.find attempt.id.value = some old ∧
    attempt.envelope = old.envelope
  | .epoch epoch _ => epoch.valid = true ∧
    (tables.epoch = epoch ∨ tables.epoch.value < epoch.value)
  | _ => True

theorem indexed_of_same (h : Indexed config tables) (hattempts : tables'.attempts = tables.attempts)
    (horder : tables'.attemptOrder = tables.attemptOrder)
    (hlists : tables'.attemptsByEnvelope = tables.attemptsByEnvelope) : Indexed config tables' := by
  have hlist (e : RateEnvelopeId) : tables'.attemptList e = tables.attemptList e := by
    rw [Tables.attemptList, Tables.attemptList, hlists]
  refine ⟨fun k a ↦ ?_, fun e k ↦ ?_, fun e ↦ ?_, fun e ↦ ?_, ?_, fun k ↦ ?_, ?_⟩
  · rw [hattempts, hlist]
    exact h.listed k a
  · rw [hattempts, hlist]
    exact h.stored e k
  · rw [hlist]
    exact h.nodup e
  · rw [hlist]
    exact h.bounded e
  · rw [horder]
    exact h.distinct
  · rw [horder, hattempts]
    exact h.ordered k
  · rw [horder]
    exact h.room

theorem sameObjects_restore (h : SameObjects replay.tables tables)
    (hindexed : Indexed config replay.tables) (hrecord : Amends tables record) :
    SameObjects (Replay.restore config replay record).tables (tables.install config record) ∧
      Indexed config (Replay.restore config replay record).tables := by
  cases record with
  | flow flow =>
    exact ⟨{ h with flows := congrArg (·.put flow) h.flows }, indexed_of_same hindexed rfl rfl rfl⟩
  | grant type grant =>
    exact ⟨{ h with grants := congrArg (·.put grant) h.grants },
      indexed_of_same hindexed rfl rfl rfl⟩
  | reservation type reservation =>
    exact ⟨{ h with reservations := congrArg (·.put reservation) h.reservations },
      indexed_of_same hindexed rfl rfl rfl⟩
  | policy type policy =>
    exact ⟨{ h with policies := congrArg (·.put policy) h.policies },
      indexed_of_same hindexed rfl rfl rfl⟩
  | resource type resource =>
    exact ⟨{ h with resources := congrArg (·.put resource) h.resources },
      indexed_of_same hindexed rfl rfl rfl⟩
  | backend backend =>
    exact ⟨{ h with backends := congrArg (·.put backend) h.backends },
      indexed_of_same hindexed rfl rfl rfl⟩
  | epoch epoch reason =>
    obtain ⟨hvalid, hsame | hnewer⟩ := hrecord
    · have hkept : Replay.restore config replay (.epoch epoch reason) = replay := by
        simp only [Replay.restore, Bool.and_eq_true, decide_eq_true_eq]
        refine if_neg fun hnewer ↦ ?_
        rw [h.epoch, hsame] at hnewer
        exact UInt64.lt_irrefl _ hnewer.2
      rw [hkept]
      exact ⟨{ h with epoch := h.epoch.trans hsame }, hindexed⟩
    · have hset : Replay.restore config replay (.epoch epoch reason) =
          { replay with tables := { replay.tables with epoch } } := by
        simp only [Replay.restore, Bool.and_eq_true, decide_eq_true_eq]
        exact if_pos ⟨hvalid, h.epoch.symm ▸ hnewer⟩
      rw [hset]
      exact ⟨{ h with epoch := rfl }, indexed_of_same hindexed rfl rfl rfl⟩
  | envelope type envelope =>
    exact ⟨{ h with envelopes := congrArg (·.put envelope) h.envelopes },
      indexed_of_same hindexed rfl rfl rfl⟩
  | created attempt => exact hrecord.elim
  | attempt type attempt =>
    obtain ⟨old, hfound, henvelope⟩ := hrecord
    rw [← h.attempts] at hfound
    have hretained := retainAttempt_known hindexed hfound henvelope
    have hrestored : (Replay.restore config replay (.attempt type attempt)).tables =
        { replay.tables with attempts := replay.tables.attempts.put attempt } := hretained
    rw [hrestored]
    exact ⟨{ h with attempts := congrArg (·.put attempt) h.attempts },
      hindexed.put hfound henvelope⟩

theorem amends_install (h : Amends tables record) (hlater : Amends tables later)
    (hepochs : ∀ epoch reason epoch' reason', record = .epoch epoch reason →
      later = .epoch epoch' reason' → epoch' = epoch) :
    Amends (tables.install config record) later := by
  cases later with
  | created attempt => exact hlater
  | attempt type attempt =>
    obtain ⟨old, hfound, henvelope⟩ := hlater
    cases record with
    | created => exact h.elim
    | attempt _ first =>
      obtain ⟨stored, hstored, hsame⟩ := h
      by_cases hkey : first.id.value = attempt.id.value
      · refine ⟨first, ?_, ?_⟩
        · rw [← hkey]
          exact Registry.find_put_self _ first
        · rw [hkey, hfound] at hstored
          cases hstored
          exact henvelope.trans hsame.symm
      · refine ⟨old, ?_, henvelope⟩
        have hother := Registry.find_put_of_ne tables.attempts hkey
        exact hother.trans hfound
    | _ => exact ⟨old, hfound, henvelope⟩
  | epoch epoch reason =>
    obtain ⟨hvalid, hnewer⟩ := hlater
    cases record with
    | created => exact h.elim
    | epoch first _ => exact ⟨hvalid, .inl (hepochs _ _ _ _ rfl rfl).symm⟩
    | _ => exact ⟨hvalid, hnewer⟩
  | _ => trivial

theorem sameObjects_restoreAll (h : SameObjects replay.tables tables)
    (hindexed : Indexed config replay.tables) (hall : ∀ record ∈ staged, Amends tables record)
    (hepochs : ∀ epoch reason epoch' reason', .epoch epoch reason ∈ staged →
      .epoch epoch' reason' ∈ staged → epoch' = epoch) :
    SameObjects (restoreAll config replay staged).tables (installed config tables staged) := by
  induction staged generalizing replay tables with
  | nil => exact h
  | cons record staged ih =>
    have hrecord := hall record List.mem_cons_self
    obtain ⟨hsame, hnext⟩ := sameObjects_restore h hindexed hrecord
    refine ih hsame hnext (fun later hmem ↦ ?_) fun epoch reason epoch' reason' hmem hmem' ↦ ?_
    · refine amends_install hrecord (hall later (List.mem_cons_of_mem _ hmem)) ?_
      rintro epoch reason epoch' reason' rfl rfl
      exact hepochs _ _ _ _ List.mem_cons_self (List.mem_cons_of_mem _ hmem)
    · exact hepochs _ _ _ _ (List.mem_cons_of_mem _ hmem) (List.mem_cons_of_mem _ hmem')

end Objects

section Sections

variable {start s t : System} {action : Action} {decision : Section} {record : Staged}

theorem lost_of_whole {engine : Engine} (hwhole : decision.chunked = false)
    (hlost : lost engine decision io ≠ 0) : lost engine decision io = decision.records.length := by
  unfold lost at hlost ⊢
  rw [hwhole, if_neg Bool.false_ne_true] at hlost ⊢
  by_cases hsnapshot :
      Snapshotted engine.config engine.tables (decision.commit engine io).durability
  · exact if_pos hsnapshot
  · rw [if_neg hsnapshot] at hlost
    exact absurd rfl hlost

theorem not_issuing_of_chunked (hsection : sectionOf s action.event = some decision)
    (hchunked : decision.chunked = true) (hstages : Stages s action.event record) :
    ¬ Issuing record := by
  refine not_issuing_of_stages hstages ?_
  have hsweeps : sweeps action.event = true := by
    by_contra hother
    rw [whole_of_sectionOf hsection (Bool.eq_false_of_not_eq_true hother)] at hchunked
    cases hchunked
  obtain ⟨event, io⟩ := action
  cases event with
  | advanceEpoch | tick | markSessionLost | shutdown => rfl
  | _ => cases hsweeps

theorem amends_of_chunked (hsection : sectionOf s action.event = some decision)
    (hchunked : decision.chunked = true) (hstages : Stages s action.event record) :
    Amends s.engine.tables record := by
  cases record with
  | created attempt => exact not_issuing_of_chunked hsection hchunked hstages trivial
  | attempt type attempt =>
    obtain ⟨old, hfound, hmoves⟩ := moves_of_stages hstages
    exact ⟨old, hfound, congrArg AttemptIdentity.envelope hmoves.same⟩
  | epoch epoch reason =>
    obtain ⟨event, io⟩ := action
    cases hstages with
    | epoch valid newer => exact ⟨valid, .inr newer⟩
  | _ => trivial

/-- What a compacted file of a section replays to: the tables as the section found them, with what
it wrote after the compaction. -/
theorem sameObjects_of_lost (h : Ordered s) (htexts : TextsFit s.engine.tables)
    (hsection : sectionOf s action.event = some decision)
    (hstaged : ∀ record ∈ decision.records, Staged.TextsFit record)
    (hlost : lost s.engine decision io ≠ 0) :
    SameObjects
      (replayed s.engine.config (.fresh s.engine.config)
        (buildSnapshotRecords s.engine.config s.engine.tables ++
          (contents s.engine decision).drop (lost s.engine decision io))).tables
      (installed s.engine.config s.engine.tables
        (decision.records.drop (lost s.engine decision io))) := by
  have hsnapshotable := h.snapshotable
  have hrebuilt := replayed_snapshot hsnapshotable htexts
  rw [replayed_append]
  cases hchunked : decision.chunked with
  | false =>
    have hlength : (contents s.engine decision).length = decision.records.length :=
      List.length_map _
    rw [lost_of_whole hchunked hlost, List.drop_length, ← hlength, List.drop_length]
    exact sameObjects_of_rebuilt hrebuilt
  | true =>
    have hstages {record : Staged} (hmem : record ∈ decision.records.drop (lost s.engine decision io)) :
        Stages s action.event record :=
      stages_of_sectionOf hsection (List.mem_of_mem_drop hmem)
    have hreplayable : ∀ record ∈ decision.records.drop (lost s.engine decision io),
        Staged.Replayable record := by
      intro record hmem
      obtain hreplayable | ⟨envelope, rfl⟩ := replayable_of_stages (hstages hmem)
      · exact hreplayable
      · obtain ⟨id, tokens, now, hevent⟩ := consumed_of_counters (hstages hmem) rfl
        have hwhole := whole_of_sectionOf hsection (by rw [hevent]; rfl)
        rw [hchunked] at hwhole
        cases hwhole
    have hkept : (decision.records.drop (lost s.engine decision io)).map Staged.kept =
        decision.records.drop (lost s.engine decision io) := by
      refine (List.map_congr_left fun record hmem ↦ ?_).trans (List.map_id _)
      exact kept_eq (hstaged record (List.mem_of_mem_drop hmem))
        fun envelope ↦ planless_of_stages h (hstages hmem)
    have hindexed : Indexed s.engine.config
        (replayed s.engine.config (.fresh s.engine.config)
          (buildSnapshotRecords s.engine.config s.engine.tables)).tables := by
      rw [buildSnapshotRecords,
        replayed_staged _ fun record hmem ↦ replayable_of_listed (mem_snapshot.1 hmem),
        kept_snapshot hsnapshotable htexts]
      exact indexed_snapshot hsnapshotable
    rw [contents, ← List.map_drop, replayed_staged _ hreplayable, hkept]
    refine sameObjects_restoreAll (sameObjects_of_rebuilt hrebuilt) hindexed
      (fun record hmem ↦ amends_of_chunked hsection hchunked (hstages hmem)) ?_
    intro epoch reason epoch' reason' hmem hmem'
    obtain ⟨event, io⟩ := action
    cases hstages hmem
    cases hstages hmem'
    rfl

/-- What a recovery would make of the file is what the engine has in memory. -/
def Reproduces (t : System) : Prop :=
  (scanJournalFile (fileOf t.engine.durability)).ok = true ∧
    SameObjects (rescanned t).tables t.engine.tables

/-- The section is the action's, and its commit succeeds and compacts the log. -/
structure CompactsBy (s : System) (action : Action) (decision : Section) : Prop where
  sectioned : sectionOf s action.event = some decision
  done : (decision.commit s.engine action.io).status = none
  compacts : lost s.engine decision action.io ≠ 0

theorem CompactsBy.stages (h : CompactsBy s action decision) : decision.records ≠ [] := by
  intro hnone
  apply h.compacts
  unfold lost
  rw [hnone]
  split
  · rfl
  · split <;> rfl

theorem CompactsBy.settled (h : CompactsBy s action decision) (hstep : step s action = some t) :
    t.engine.tables = installed s.engine.config s.engine.tables decision.records ∧
      t.engine.durability = (decision.commit s.engine action.io).durability := by
  obtain ⟨decision', hsection, hturn⟩ := turn_of_step hstep
  cases h.sectioned.symm.trans hsection
  cases hturn with
  | quiet hrecords => exact absurd hrecords h.stages
  | failed hrecords hstatus =>
    rw [h.done] at hstatus
    cases hstatus
  | committed => exact ⟨rfl, rfl⟩

theorem rescanned_of_compacted (hstrict : s.engine.config.durability = .strict)
    (h : CompactsBy s action decision) (hstep : step s action = some t)
    (hsize : (fileOf t.engine.durability).length ≤ kJournalMaxScanBytes) :
    (scanJournalFile (fileOf t.engine.durability)).ok = true ∧
      rescanned t = replayed s.engine.config (.fresh s.engine.config)
        (buildSnapshotRecords s.engine.config s.engine.tables ++
          (contents s.engine decision).drop (lost s.engine decision action.io)) := by
  obtain ⟨-, hdurability⟩ := h.settled hstep
  obtain ⟨scan, hclean, hstatus, hfollows⟩ :=
    holds_of_lost hstrict (admissible_of_sectionOf h.sectioned) h.done h.compacts
  rw [← hdurability] at hclean
  obtain ⟨-, -, hcommitted, hok⟩ := finish_tail scan
  have hheader : replayed s.engine.config (.fresh s.engine.config)
      ([compactedHeader].map content) = .fresh s.engine.config := rfl
  refine ⟨?_, ?_⟩
  · rw [scanJournalFile_of_clean hclean hsize]
    exact hok.2 (.inl hstatus)
  · rw [rescanned, config_step hstep, scanJournalFile_of_clean hclean hsize, hcommitted,
      applySnapshotRecords_eq, hfollows.contents, replayed_append, hheader]

/-- The file that a section leaves when its commit has compacted the log reproduces the memory
exactly when all that was handed to the journal up to then is stored already or is staged again. -/
theorem reproduces_compacted_iff (hfresh : Fresh start)
    (hstrict : start.engine.config.durability = .strict)
    (hseveral : 2 ≤ start.engine.config.maxAttemptsPerEnvelope.toNat)
    (hrun : Reaches step inService start s) (htexts : TextsFit s.engine.tables)
    (hstaged : ∀ record ∈ decision.records, Staged.TextsFit record)
    (h : CompactsBy s action decision) (hstep : step s action = some t) :
    Reproduces t ↔ (fileOf t.engine.durability).length ≤ kJournalMaxScanBytes ∧
      SameObjects
        (installed s.engine.config s.engine.tables
          (decision.records.drop (lost s.engine decision action.io)))
        (installed s.engine.config s.engine.tables decision.records) := by
  have hordered := ordered_of_reaches hfresh hseveral hrun
  have hconfig := config_of_reaches hrun
  obtain ⟨htables, -⟩ := h.settled hstep
  have hreplay := sameObjects_of_lost hordered htexts h.sectioned hstaged h.compacts
  constructor
  · rintro ⟨hok, hsame⟩
    have hsize := le_of_scan_ok hok
    obtain ⟨-, hrescanned⟩ := rescanned_of_compacted (hconfig ▸ hstrict) h hstep hsize
    rw [hrescanned, htables] at hsame
    exact ⟨hsize, hreplay.symm.trans hsame⟩
  · rintro ⟨hsize, hsame⟩
    obtain ⟨hok, hrescanned⟩ := rescanned_of_compacted (hconfig ▸ hstrict) h hstep hsize
    refine ⟨hok, ?_⟩
    rw [hrescanned, htables]
    exact hreplay.trans hsame

end Sections

section Samples

variable {s t : System} {action : Action} {decision : Section}

theorem lost_of_counted {engine : Engine} (hwhole : decision.chunked = false)
    (hrecords : decision.records ≠ [])
    (hcounted : (decision.commit engine io).durability.compactions ≠
      engine.durability.compactions) : lost engine decision io ≠ 0 := by
  have hsnapshot :
      Snapshotted engine.config engine.tables (decision.commit engine io).durability := by
    unfold Decision.commit at hcounted ⊢
    rw [hwhole, if_neg Bool.false_ne_true] at hcounted ⊢
    exact compacted_of_commitRecords hcounted
  unfold lost
  rw [hwhole, if_neg Bool.false_ne_true, if_pos hsnapshot]
  exact fun hnone ↦ hrecords (List.eq_nil_of_length_eq_zero hnone)

theorem compactsBy_of_counted (hstep : step s action = some t)
    (hevent : sweeps action.event = false) (hcommits : commits s action = true)
    (hcounted : t.engine.durability.compactions ≠ s.engine.durability.compactions) :
    ∃ decision, CompactsBy s action decision := by
  obtain ⟨decision, hsection, hturn⟩ := turn_of_step hstep
  have hwhole := whole_of_sectionOf hsection hevent
  cases hturn with
  | quiet => exact absurd rfl hcounted
  | failed hrecords hstatus =>
    simp only [commits, hsection, hstatus, Option.isNone_some, Bool.and_false] at hcommits
    cases hcommits
  | committed hrecords hstatus =>
    exact ⟨decision, hsection, hstatus, lost_of_counted hwhole hrecords hcounted⟩

/-- An envelope is opened on authorities of which none is registered, and no plan is derived. -/
def planlessSample : List Action :=
  [⟨.openEnvelope sampleRequest actor 5, []⟩, ⟨.authorize ⟨1⟩ actor 5, []⟩]

def authorizeAction : Action := ⟨.authorize ⟨1⟩ actor 5, []⟩

theorem unauthorizedEnvelope_again {envelope : RateEnvelope} {reason : ReasonCode} {now : U64}
    (hstate : envelope.state = .failed) (hreason : envelope.reason = reason)
    (hupdated : envelope.updatedNs = now) :
    unauthorizedEnvelope envelope reason now = envelope := by
  subst hreason hupdated
  unfold unauthorizedEnvelope
  rw [hstate]
  obtain ⟨⟩ := envelope
  cases hstate
  rfl

/-- What there is to know of an envelope whose next authorization changes nothing. -/
structure Settled (s : System) (envelope : RateEnvelope) : Prop where
  state : envelope.state = .failed
  updated : envelope.updatedNs = 5
  reason : envelope.reason = (derivePlanLocked s.engine envelope 5).reason
  denied : (derivePlanLocked s.engine envelope 5).authorized = false
  running : s.engine.control.shuttingDown = false
  admitted : checkActor s.engine actor = none

instance (s : System) (envelope : RateEnvelope) : Decidable (Settled s envelope) :=
  decidable_of_iff (envelope.state = .failed ∧ envelope.updatedNs = 5 ∧
      envelope.reason = (derivePlanLocked s.engine envelope 5).reason ∧
      (derivePlanLocked s.engine envelope 5).authorized = false ∧
      s.engine.control.shuttingDown = false ∧ checkActor s.engine actor = none)
    ⟨fun ⟨h₁, h₂, h₃, h₄, h₅, h₆⟩ ↦ ⟨h₁, h₂, h₃, h₄, h₅, h₆⟩,
      fun h ↦ ⟨h.state, h.updated, h.reason, h.denied, h.running, h.admitted⟩⟩

theorem records_of_settled {envelope : RateEnvelope} (h : Settled s envelope)
    (hfind : s.engine.tables.envelopes.find 1 = some envelope)
    (hsection : sectionOf s authorizeAction.event = some decision) :
    decision.records = [.envelope .envelopeStateChange envelope] := by
  cases hsection
  have hnotRunning : ¬ s.engine.control.shuttingDown = true := by
    rw [h.running]
    exact Bool.false_ne_true
  have hdenied : (!(derivePlanLocked s.engine envelope 5).authorized) = true := by
    rw [h.denied]
    rfl
  show (authorize s.engine ⟨1⟩ actor 5).records = _
  unfold authorize
  simp only [if_neg hnotRunning, h.admitted, hfind, if_pos hdenied]
  rw [unauthorizedEnvelope_again h.state h.reason h.updated]
  rfl

/-- A second authorization at the same reading is denied once more, and compacts a file that has
all of it. -/
theorem reproduces_unauthorized : ∃ s t, run step tightStart planlessSample = some s ∧
    step s authorizeAction = some t ∧
    t.engine.durability.compactions ≠ s.engine.durability.compactions ∧ Reproduces t := by
  obtain ⟨s, envelope, hrun, hfind, htest⟩ : ∃ s envelope,
      run step tightStart planlessSample = some s ∧
      s.engine.tables.envelopes.find 1 = some envelope ∧
      decide (Settled s envelope ∧ TextsFit s.engine.tables ∧
        (∀ record ∈ stagedBy s authorizeAction, Staged.TextsFit record) ∧
        commits s authorizeAction = true) = true :=
    of_observe (by decide +kernel)
  obtain ⟨hsettled, htexts, hstaged, hcommits⟩ := of_decide_eq_true htest
  have hcompacts : (run step tightStart planlessSample).any (fun s ↦
      (step s authorizeAction).any fun t ↦
        t.engine.durability.compactions ≠ s.engine.durability.compactions ∧
          (fileOf t.engine.durability).length ≤ kJournalMaxScanBytes) = true := by
    decide +kernel
  rw [hrun, Option.any_some] at hcompacts
  obtain ⟨t, hstep, hcompacts⟩ := (Option.any_eq_true _ _).mp hcompacts
  obtain ⟨hcounted, hsize⟩ := of_decide_eq_true hcompacts
  obtain ⟨decision, hcompacted⟩ := compactsBy_of_counted hstep rfl hcommits hcounted
  have hrecords := records_of_settled hsettled hfind hcompacted.sectioned
  have hguarded : Guarded step inService tightStart planlessSample := by decide +kernel
  have hkey := Registry.key_of_find hfind
  have hkey : envelope.id.value = 1 := hkey
  refine ⟨s, t, hrun, hstep, hcounted, ?_⟩
  refine (reproduces_compacted_iff ⟨_, _, _, _, _, rfl⟩ rfl (by decide)
    (reaches_of_run hguarded hrun) htexts ?_ hcompacted hstep).mpr ⟨hsize, ?_⟩
  · rw [stagedBy, hcompacted.sectioned] at hstaged
    exact hstaged
  · have hwhole := whole_of_sectionOf hcompacted.sectioned rfl
    rw [lost_of_whole hwhole hcompacted.compacts, List.drop_length, hrecords]
    have hput : s.engine.tables.envelopes.put envelope = s.engine.tables.envelopes :=
      Registry.put_of_find (hkey ▸ hfind)
    exact ⟨rfl, rfl, rfl, rfl, rfl, rfl, rfl, hput.symm, rfl⟩

/-- A flow is put into the engine and acknowledged, and the compacted file does not have it. -/
theorem flow_is_lost : ∃ t, step tightStart flowAction = some t ∧
    (∃ decision, CompactsBy tightStart flowAction decision) ∧
    (fileOf t.engine.durability).length ≤ kJournalMaxScanBytes ∧ ¬ Reproduces t := by
  have hcommits : commits tightStart flowAction = true := by decide +kernel
  have htest : (step tightStart flowAction).any (fun t ↦
      t.engine.durability.compactions ≠ tightStart.engine.durability.compactions ∧
        (fileOf t.engine.durability).length ≤ kJournalMaxScanBytes ∧
        t.engine.tables.flows.size = 1 ∧ (rescanned t).tables.flows.size = 0) = true := by
    decide +kernel
  obtain ⟨t, hstep, htest⟩ := (Option.any_eq_true _ _).mp htest
  obtain ⟨hcounted, hsize, hflow, hnone⟩ := of_decide_eq_true htest
  refine ⟨t, hstep, compactsBy_of_counted hstep rfl hcommits hcounted, hsize, fun h ↦ ?_⟩
  have hflows := congrArg Registry.size h.2.flows
  rw [hflow, hnone] at hflows
  cases hflows

end Samples

end RateGovernor.Safety.LostTransaction
