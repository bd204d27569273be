import RateGovernor.Dynamics.Integrity
import RateGovernor.Dynamics.Spacing

namespace RateGovernor.Dynamics.Lagging

open Model.CheckedMath Model.Reason Model.Journal Model.JournalWriter Model.EngineState
open Model.Durability Model.Execution Foundation.ByteCodec Sections Staging Turns Evolution Halting
open Framing Commits Transactions Journaling Snapshots Compacting Integrity
open Foundation.KeyedTable Install Records

variable {config : EngineConfig} {tables : Tables} {durability before after : Durability}
  {journal : JournalFile}
  {scan : Scan} {base : List JournalRecord} {log records : List (JournalRecordType × Bytes)} {io : Io}

section Commits

/-- What a working journal holds once a list of records was committed: all of it behind what it held
before, or a snapshot of the tables with the records that came after the last compaction. -/
inductive Retains (config : EngineConfig) (tables : Tables) (chunked : Bool)
    (base : List JournalRecord) (log records : List (JournalRecordType × Bytes))
    (before after : Durability) : Prop
  | appended (counted : after.compactions = before.compactions)
      (logging : Logging after base (log ++ records))
  | compacted {lost count : ℕ} (positive : 0 < lost) (within : lost ≤ records.length)
      (whole : lost = records.length ∨ chunked = true ∧ kMaxRecordsPerTransaction ∣ lost)
      (happened : 0 < count) (few : count ≤ records.length)
      (counted : after.compactions = before.compactions + UInt64.ofNat count)
      (logging : Logging after [compactedHeader]
        (buildSnapshotRecords config tables ++ records.drop lost))

theorem Retains.later {middle : Durability} {lost count first : ℕ} (hpositive : 0 < lost)
    (hwithin : lost ≤ (records.drop kMaxRecordsPerTransaction).length)
    (hwhole : lost = (records.drop kMaxRecordsPerTransaction).length ∨
      true = true ∧ kMaxRecordsPerTransaction ∣ lost) (hsome : 0 < count)
    (hfew : count ≤ (records.drop kMaxRecordsPerTransaction).length) (hfirst : first ≤ 1)
    (hbefore : middle.compactions = before.compactions + UInt64.ofNat first)
    (hcounted : after.compactions = middle.compactions + UInt64.ofNat count)
    (hlogging : Logging after [compactedHeader] (buildSnapshotRecords config tables ++
      (records.drop kMaxRecordsPerTransaction).drop lost)) :
    Retains config tables true base log records before after := by
  rw [List.length_drop] at hwithin hwhole hfew
  rw [List.drop_drop] at hlogging
  rw [hbefore, UInt64.add_assoc, ← UInt64.ofNat_add] at hcounted
  refine .compacted (by omega) (by omega) ?_ (by omega) ?_ hcounted hlogging
  · rcases hwhole with hall | ⟨-, hdvd⟩
    · exact .inl (by omega)
    · exact .inr ⟨rfl, (Nat.dvd_add_right (Nat.dvd_refl _)).mpr hdvd⟩
  · unfold kMaxRecordsPerTransaction at hfew
    omega

theorem Retains.first {middle : Durability} (hrecords : records ≠ [])
    (hbefore : middle.compactions = before.compactions + 1)
    (hcounted : after.compactions = middle.compactions)
    (hlogging : Logging after [compactedHeader]
      (buildSnapshotRecords config tables ++ records.drop kMaxRecordsPerTransaction)) :
    Retains config tables true base log records before after := by
  have hpos := List.length_pos_iff.mpr hrecords
  have hcount : after.compactions = before.compactions + UInt64.ofNat 1 := hcounted.trans hbefore
  by_cases hmany : kMaxRecordsPerTransaction ≤ records.length
  · exact .compacted (by decide) hmany (.inr ⟨rfl, Nat.dvd_refl _⟩) Nat.one_pos hpos hcount hlogging
  · rw [List.drop_eq_nil_of_le (Nat.le_of_not_le hmany)] at hlogging
    refine .compacted hpos (Nat.le_refl _) (.inl rfl) Nat.one_pos hpos hcount ?_
    rw [List.drop_length]
    exact hlogging

theorem stuck_commitMany {fuel : ℕ} (h : Stuck config durability) (hfuel : records.length ≤ fuel) :
    Stuck config (commitMany config tables fuel durability records io).durability := by
  by_cases hempty : records = []
  · cases fuel with
    | zero => exact h
    | succ fuel =>
      rw [commitMany, if_pos hempty]
      exact h
  · have hpos := List.length_pos_iff.mpr hempty
    obtain ⟨error, herror⟩ := @commitMany_stuck config tables durability io records fuel h
      (by omega) hempty
    rw [herror]
    exact h

theorem logging_maybeCompact (hsound : Sound journal scan) (hclosed : journal.txnOpen = false)
    (hlog : Follows base log scan.result.committed)
    (hafter : (maybeCompact config tables durability journal io).1 = after)
    (hhealthy : durability.degraded = false) (hdone : after.degraded = false) :
    (after.compactions = durability.compactions ∧ Logging after base log) ∨
      (after.compactions = durability.compactions + 1 ∧
        Logging after [compactedHeader] (buildSnapshotRecords config tables)) := by
  have hkept : Logging { durability with journal := some journal } base log :=
    ⟨hhealthy, journal, scan, rfl, hsound, hclosed, hlog⟩
  unfold maybeCompact at hafter
  split at hafter
  · subst hafter
    exact .inl ⟨rfl, hkept⟩
  · split at hafter
    · subst hafter
      exact .inl ⟨rfl, hkept⟩
    · simp only at hafter
      cases hfailure : (journal.compactWith (buildSnapshotRecords config tables) io).failure with
      | some failure =>
        simp only [hfailure] at hafter
        subst hafter
        cases hdone
      | none =>
        simp only [hfailure] at hafter
        subst hafter
        obtain ⟨-, -, hjournal⟩ := compactWith_ok rfl hfailure
        obtain ⟨scan', hclean, hstatus, hfollows⟩ := @scan_compacted
          (buildSnapshotRecords config tables) (fun entry hmem ↦ (snapshot_entries hmem).1)
          fun entry hmem ↦ (snapshot_entries hmem).2
        refine .inr ⟨rfl, hhealthy, _, scan', rfl, ?_, ?_, hfollows⟩
        · rw [hjournal]
          exact ⟨hsound.isOpen, hsound.bound, hclean, hstatus⟩
        · rw [hjournal]
          exact hclosed

theorem retains_commitRecords (hstrict : config.durability = .strict)
    (h : Logging durability base log) (hrecords : records ≠ [])
    (hplain : ∀ record ∈ records, Plain record.1)
    (hafter : (commitRecords config tables durability records io).durability = after)
    (hworking : ¬ Stuck config after) :
    (commitRecords config tables durability records io).status = none ∧
      ((after.compactions = durability.compactions ∧ Logging after base (log ++ records)) ∨
        (after.compactions = durability.compactions + 1 ∧
          Logging after [compactedHeader] (buildSnapshotRecords config tables))) := by
  obtain ⟨journal, scan, hjournal, hsound, hclosed, hlog⟩ := h.sound
  obtain ⟨hfailed, hdone⟩ := @commitRecords_working config tables durability io journal records
    hstrict h.healthy hjournal hsound.isOpen hrecords _ rfl
  obtain ⟨hok, ⟨scan', hsound', hlog'⟩, hclosed', -, -⟩ | ⟨⟨failure, hfailure⟩, -⟩ :=
    writeTransaction_spec hsound hlog hclosed hplain
      (rfl : writeTransaction journal durability.nextTxnId records io = _)
  · rw [hdone hok] at hafter ⊢
    have hundegraded : after.degraded = false := by
      by_contra hdegraded
      exact hworking ⟨hstrict, .inl (Bool.eq_true_of_not_eq_false hdegraded)⟩
    have hlogging := logging_maybeCompact hsound' hclosed' hlog' hafter h.healthy hundegraded
    exact ⟨rfl, hlogging⟩
  · obtain ⟨error, hcommit⟩ := hfailed failure hfailure
    rw [hcommit] at hafter
    subst hafter
    exact absurd ⟨hstrict, .inl rfl⟩ hworking

/-- Each transaction of a long list can be the one that compacts. -/
theorem retains_commitMany {fuel : ℕ} (hstrict : config.durability = .strict)
    (h : Logging durability base log) (hfuel : records.length ≤ fuel)
    (hplain : ∀ record ∈ records, Plain record.1)
    (hworking : ¬ Stuck config (commitMany config tables fuel durability records io).durability) :
    (commitMany config tables fuel durability records io).status = none ∧
      Retains config tables true base log records durability
        (commitMany config tables fuel durability records io).durability := by
  induction fuel generalizing durability base log records io with
  | zero =>
    obtain rfl := List.eq_nil_of_length_eq_zero (Nat.le_zero.mp hfuel)
    exact ⟨rfl, .appended rfl (by rw [List.append_nil]; exact h)⟩
  | succ fuel ih =>
    unfold commitMany at hworking ⊢
    split
    · next hempty =>
      rw [hempty]
      exact ⟨rfl, .appended rfl (by rw [List.append_nil]; exact h)⟩
    · next hrecords =>
      rw [if_neg hrecords] at hworking
      have hchunk : records.take kMaxRecordsPerTransaction ≠ [] := by
        rw [ne_eq, List.take_eq_nil_iff, not_or]
        exact ⟨by decide, hrecords⟩
      have hlength : (records.drop kMaxRecordsPerTransaction).length ≤ fuel := by
        rw [List.length_drop, kMaxRecordsPerTransaction]
        omega
      have hfirst : ¬ Stuck config (commitRecords config tables durability
          (records.take kMaxRecordsPerTransaction) io).durability := by
        intro hstuck
        apply hworking
        simp only
        cases hstatus : (commitRecords config tables durability
            (records.take kMaxRecordsPerTransaction) io).status with
        | some error => exact hstuck
        | none => exact stuck_commitMany hstuck hlength
      obtain ⟨hok, hlogging⟩ := retains_commitRecords hstrict h hchunk
        (fun record hmem ↦ hplain record (List.mem_of_mem_take hmem)) rfl hfirst
      have hrest : ∀ record ∈ records.drop kMaxRecordsPerTransaction, Plain record.1 :=
        fun record hmem ↦ hplain record (List.mem_of_mem_drop hmem)
      simp only [hok] at hworking ⊢
      rcases hlogging with ⟨hsame, happended⟩ | ⟨hone, hcompacted⟩
      · obtain ⟨hstatus, hretains⟩ := ih happended hlength hrest hworking
        refine ⟨hstatus, ?_⟩
        cases hretains with
        | appended counted logging =>
          rw [List.append_assoc, List.take_append_drop] at logging
          exact .appended (counted.trans hsame) logging
        | compacted positive within whole happened few counted logging =>
          exact .later positive within whole happened few (Nat.zero_le 1)
            (hsame.trans (UInt64.add_zero _).symm) counted logging
      · obtain ⟨hstatus, hretains⟩ := ih hcompacted hlength hrest hworking
        refine ⟨hstatus, ?_⟩
        cases hretains with
        | appended counted logging => exact .first hrecords hone counted logging
        | compacted positive within whole happened few counted logging =>
          exact .later positive within whole happened few (Nat.le_refl 1) hone counted logging

end Commits

section Texts

theorem listed_install {record staged : Staged} (h : Listed (tables.install config record) staged) :
    Listed tables staged ∨ (Staged.TextsFit record → Staged.TextsFit staged) := by
  have hput {α : Type} {key : α → U64} {r : Registry α key} {v w : α}
      (hmem : w ∈ (r.put v).entries) : w ∈ r.entries ∨ w = v := by
    rw [Registry.mem_entries, Registry.find_put] at hmem
    split at hmem
    · cases hmem
      exact .inr rfl
    · exact .inl (Registry.mem_entries.mpr hmem)
  cases record with
  | created attempt =>
    obtain ⟨attempts, order, lists, hretain, hold⟩ := retainAttempt_tables config tables attempt
    rw [Tables.install, hretain] at h
    cases h with
    | attempt stored =>
      rcases hold _ _ (Registry.mem_entries.mp stored) with rfl | hfind
      · exact .inr id
      · exact .inl (.attempt (Registry.mem_entries.mpr hfind))
    | _ => exact .inl (by constructor <;> assumption)
  | epoch epoch reason =>
    cases h with
    | epoch => exact .inr fun _ ↦ trivial
    | _ => exact .inl (by constructor; assumption)
  | flow flow =>
    cases h with
    | flow stored =>
      rcases hput stored with hold | rfl
      · exact .inl (.flow hold)
      · exact .inr id
    | _ => exact .inl (by constructor <;> assumption)
  | grant type grant =>
    cases h with
    | grant stored =>
      rcases hput stored with hold | rfl
      · exact .inl (.grant hold)
      · exact .inr id
    | _ => exact .inl (by constructor <;> assumption)
  | reservation type reservation =>
    cases h with
    | reservation stored =>
      rcases hput stored with hold | rfl
      · exact .inl (.reservation hold)
      · exact .inr id
    | _ => exact .inl (by constructor <;> assumption)
  | policy type policy =>
    cases h with
    | policy stored =>
      rcases hput stored with hold | rfl
      · exact .inl (.policy hold)
      · exact .inr id
    | _ => exact .inl (by constructor <;> assumption)
  | resource type resource =>
    cases h with
    | resource stored =>
      rcases hput stored with hold | rfl
      · exact .inl (.resource hold)
      · exact .inr id
    | _ => exact .inl (by constructor <;> assumption)
  | backend backend =>
    cases h with
    | backend stored =>
      rcases hput stored with hold | rfl
      · exact .inl (.backend hold)
      · exact .inr id
    | _ => exact .inl (by constructor <;> assumption)
  | envelope type envelope =>
    cases h with
    | envelope stored =>
      rcases hput stored with hold | rfl
      · exact .inl (.envelope hold)
      · exact .inr id
    | _ => exact .inl (by constructor <;> assumption)
  | attempt type attempt =>
    cases h with
    | attempt stored =>
      rcases hput stored with hold | rfl
      · exact .inl (.attempt hold)
      · exact .inr id
    | _ => exact .inl (by constructor <;> assumption)

theorem textsFit_install {record : Staged} (h : TextsFit tables) (hrecord : Staged.TextsFit record) :
    TextsFit (tables.install config record) := by
  intro staged hmem
  rcases listed_install (mem_snapshot.mp hmem) with hlisted | hfits
  · exact h staged (mem_snapshot.mpr hlisted)
  · exact hfits hrecord

theorem textsFit_installed {staged : List Staged} (h : TextsFit tables)
    (hall : ∀ record ∈ staged, Staged.TextsFit record) :
    TextsFit (installed config tables staged) := by
  induction staged generalizing tables with
  | nil => exact h
  | cons record staged ih =>
    exact ih (textsFit_install h (hall record List.mem_cons_self))
      fun later hmem ↦ hall later (List.mem_cons_of_mem _ hmem)

end Texts

section Steps

variable {s t : System} {action : Action}

theorem retains_commit {decision : Section} (hstrict : s.engine.config.durability = .strict)
    (h : Logging s.engine.durability base log) (hrecords : decision.records ≠ [])
    (hplain : ∀ record ∈ contents s.engine decision, Plain record.1)
    (hworking : ¬ Stuck s.engine.config (decision.commit s.engine io).durability) :
    (decision.commit s.engine io).status = none ∧
      Retains s.engine.config s.engine.tables decision.chunked base log (contents s.engine decision)
        s.engine.durability (decision.commit s.engine io).durability := by
  unfold Decision.commit at hworking ⊢
  cases hchunked : decision.chunked with
  | true =>
    rw [hchunked, if_pos rfl] at hworking
    rw [if_pos rfl]
    exact retains_commitMany hstrict h (Nat.le_refl _) hplain hworking
  | false =>
    rw [hchunked, if_neg Bool.false_ne_true] at hworking
    rw [if_neg Bool.false_ne_true]
    have hcontents : contents s.engine decision ≠ [] := fun hnil ↦
      hrecords (List.map_eq_nil_iff.mp hnil)
    have hpos := List.length_pos_iff.mpr hcontents
    obtain ⟨hok, ⟨hsame, happended⟩ | ⟨hone, hcompacted⟩⟩ :=
      retains_commitRecords hstrict h hcontents hplain rfl hworking
    · exact ⟨hok, .appended hsame happended⟩
    · refine ⟨hok, .compacted hpos (Nat.le_refl _) (.inl rfl) Nat.one_pos hpos hone ?_⟩
      rw [List.drop_length, List.append_nil]
      exact hcompacted

/-- A step that leaves the journal working has committed its section. -/
theorem retains_step (hstrict : s.engine.config.durability = .strict)
    (h : Logging s.engine.durability base log) (hstep : step s action = some t)
    (hworking : ¬ Stuck t.engine.config t.engine.durability) :
    ∃ decision, sectionOf s action.event = some decision ∧ Spacing.Commits s action ∧
      Retains s.engine.config s.engine.tables decision.chunked base log (contents s.engine decision)
        s.engine.durability t.engine.durability := by
  have hconfig := config_step hstep
  obtain ⟨decision, hsection, hturn⟩ := turn_of_step hstep
  refine ⟨decision, hsection, ?_⟩
  have hcommits (hstatus : decision.records ≠ [] →
      (decision.commit s.engine action.io).status = none) : Spacing.Commits s action := by
    intro decision' hsection' hrecords
    cases hsection.symm.trans hsection'
    exact hstatus hrecords
  rw [hconfig] at hworking
  cases hturn with
  | quiet hrecords =>
    refine ⟨hcommits fun hne ↦ absurd hrecords hne, .appended rfl ?_⟩
    rw [contents, hrecords, List.map_nil, List.append_nil]
    exact h
  | failed hrecords hstatus => exact absurd (stuck_of_commit hstatus) hworking
  | committed hrecords hstatus =>
    refine ⟨hcommits fun _ ↦ hstatus, ?_⟩
    exact (retains_commit hstrict h hrecords (fun record hmem ↦ by
      obtain ⟨staged, hstaged, rfl⟩ := List.mem_map.mp hmem
      exact plain_of_stages (stages_of_sectionOf hsection hstaged)) hworking).2

end Steps

end RateGovernor.Dynamics.Lagging
