import RateGovernor.Dynamics.Integrity

namespace RateGovernor.Dynamics.Growing

open Model.CheckedMath Model.Identity Model.Reason Model.Entities Model.Journal Model.JournalWriter
open Model.EngineState Model.Durability Model.Envelope Model.Authority Model.Calls
open Model.Lifecycle Model.Execution
open Foundation.ByteCodec Foundation.GuardedRun Sections Turns Evolution Halting Commits
open Transactions Journaling Snapshots Integrity

variable {s t : System} {action : Action} {decision : Section} {io : Io}
  {entries : List (JournalRecordType × Bytes)} {n : ℕ}

section Sizes

theorem length_le_transactionSize (entries : List (JournalRecordType × Bytes)) :
    entries.length ≤ transactionSize entries := by
  have hbody : entries.length ≤ bodySize entries := by
    unfold bodySize
    induction entries with
    | nil => exact Nat.le_refl _
    | cons entry entries ih =>
      rw [List.map_cons, List.sum_cons, List.length_cons, recordSize, kJournalRecordHeaderSize]
      omega
  exact Nat.le_trans hbody (Nat.le_add_left _ _)

theorem length_le_chunksSize {fuel : ℕ} {entries : List (JournalRecordType × Bytes)}
    (hfuel : entries.length ≤ fuel) : entries.length ≤ chunksSize fuel entries := by
  induction fuel generalizing entries with
  | zero => exact Nat.le_trans hfuel (Nat.zero_le _)
  | succ fuel ih =>
    unfold chunksSize
    split
    · next hempty =>
      rw [hempty]
      exact Nat.le_refl _
    · next hne =>
      have hpos := List.length_pos_iff.2 hne
      have hfirst := length_le_transactionSize (entries.take kMaxRecordsPerTransaction)
      have hrest := @ih (entries.drop kMaxRecordsPerTransaction)
        (by rw [List.length_drop, kMaxRecordsPerTransaction]; omega)
      rw [List.length_take] at hfirst
      rw [List.length_drop] at hrest
      omega

theorem bodySize_le {n : ℕ} (h : ∀ entry ∈ entries, entry.2.length ≤ n) :
    bodySize entries ≤ entries.length * (kJournalRecordHeaderSize + n) := by
  unfold bodySize
  induction entries with
  | nil => exact Nat.zero_le _
  | cons entry entries ih =>
    have hentry := h entry List.mem_cons_self
    have hrest := ih fun other hmem ↦ h other (List.mem_cons_of_mem _ hmem)
    rw [List.map_cons, List.sum_cons, List.length_cons, recordSize, Nat.add_mul, Nat.one_mul]
    omega

theorem contents_length_le (engine : Engine) {entry : JournalRecordType × Bytes}
    (h : entry ∈ contents engine decision) : entry.2.length ≤ 16384 := by
  obtain ⟨staged, -, rfl⟩ := List.mem_map.1 h
  exact length_record_le _ staged

theorem transactionSize_le (hne : entries ≠ []) (h : ∀ entry ∈ entries, entry.2.length ≤ n) :
    transactionSize entries ≤ entries.length * (140 + n) := by
  have hbody := bodySize_le h
  have hpos : 1 ≤ entries.length := List.length_pos_iff.2 hne
  rw [kJournalRecordHeaderSize] at hbody
  have hsplit : entries.length * (140 + n) =
      entries.length * 104 + entries.length * (36 + n) := by
    rw [← Nat.mul_add]
    congr 1
    omega
  rw [transactionSize, hsplit]
  omega

theorem chunksSize_le {fuel : ℕ} (h : ∀ entry ∈ entries, entry.2.length ≤ n) :
    chunksSize fuel entries ≤ entries.length * (140 + n) := by
  induction fuel generalizing entries with
  | zero => exact Nat.zero_le _
  | succ fuel ih =>
    unfold chunksSize
    split
    · exact Nat.zero_le _
    · next hne =>
      have hfirst := @transactionSize_le (entries.take kMaxRecordsPerTransaction) n
        (by rw [ne_eq, List.take_eq_nil_iff, not_or]; exact ⟨by decide, hne⟩)
        fun entry hmem ↦ h entry (List.mem_of_mem_take hmem)
      have hrest := @ih (entries.drop kMaxRecordsPerTransaction)
        fun entry hmem ↦ h entry (List.mem_of_mem_drop hmem)
      have hlength := congrArg List.length
        (List.take_append_drop kMaxRecordsPerTransaction entries)
      rw [List.length_append] at hlength
      rw [← hlength, Nat.add_mul]
      exact Nat.add_le_add hfirst hrest

theorem sectionSize_le (engine : Engine) :
    sectionSize engine decision ≤ decision.records.length * 16524 := by
  have hlength : (contents engine decision).length = decision.records.length := List.length_map _
  rw [← hlength]
  unfold sectionSize
  split
  · exact Nat.zero_le _
  · split
    · exact chunksSize_le fun entry ↦ contents_length_le engine
    · next hrecords _ =>
      refine transactionSize_le ?_ fun entry ↦ contents_length_le engine
      rw [contents, ne_eq, List.map_eq_nil_iff]
      exact hrecords

end Sizes

section Growth

def Brief {ρ : Type} (decision : Decision ρ) : Prop :=
  decision.chunked = false ∧ decision.records.length ≤ 1

def briefly (s : System) (action : Action) : Prop :=
  ∀ decision, sectionOf s action.event = some decision → Brief decision

/-- The journal has failed, or its file is at most so long and is never compacted. -/
def Bounded (n : ℕ) (durability : Durability) : Prop :=
  durability.degraded = true ∨ ∃ journal, durability.journal = some journal ∧
    journal.config.maxBytes = 0 ∧ journal.file.length ≤ n

theorem bounded_commitRecords {config : EngineConfig} {tables : Tables} {durability : Durability}
    (hstrict : config.durability = .strict) (hkept : Kept Untorn durability)
    (hentries : Admissible entries) (hne : entries ≠ []) (h : Bounded n durability) :
    Bounded (n + transactionSize entries)
      (commitRecords config tables durability entries io).durability := by
  by_cases hworking : Stuck config durability
  · obtain ⟨error, herror⟩ := @commitRecords_stuck config tables durability io entries hworking
    rw [herror]
    exact h.imp_right fun ⟨journal, hjournal, hmax, hlength⟩ ↦
      ⟨journal, hjournal, hmax, Nat.le_add_right_of_le hlength⟩
  · obtain ⟨hhealthy, journal, hjournal, hopen⟩ := working_of_not_stuck hstrict hworking
    obtain ⟨hclosed, scan, hclean, hstatus⟩ :=
      (hkept.resolve_left (by rw [hhealthy]; exact nofun)) journal hjournal hopen
    obtain ⟨_, hsame, hmax, hlength⟩ := h.resolve_left (by rw [hhealthy]; exact nofun)
    rw [hjournal] at hsame
    cases hsame
    obtain ⟨hgrown, houtcome⟩ := @writeTransaction_cases scan journal durability.nextTxnId entries
      io _ hopen hclosed hclean hstatus hentries rfl
    obtain ⟨hfailure, hok⟩ := @commitRecords_working config tables durability io journal entries
      hstrict hhealthy hjournal hopen hne _ rfl
    cases hfailed : (writeTransaction journal durability.nextTxnId entries io).failure with
    | some failure =>
      obtain ⟨error, hcommit⟩ := hfailure failure hfailed
      rw [hcommit]
      exact .inl rfl
    | none =>
      obtain ⟨-, ⟨failure, hsome⟩, -⟩ | ⟨-, -, hdone⟩ := houtcome
      · rw [hfailed] at hsome
        cases hsome
      · obtain ⟨hopen', -, hconfig, -⟩ := hdone hfailed
        rw [hok hfailed, maybeCompact_of_fits hopen' (.inl (by rw [hconfig]; exact hmax))]
        exact .inr ⟨_, rfl, by rw [hconfig]; exact hmax, by omega⟩

theorem bounded_step (hstrict : s.engine.config.durability = .strict)
    (hkept : Kept Untorn s.engine.durability) (hbrief : briefly s action)
    (hstep : step s action = some t) (h : Bounded n s.engine.durability) :
    Bounded (n + 16524) t.engine.durability := by
  obtain ⟨decision, hsection, rfl⟩ := Option.map_eq_some_iff.1 hstep
  obtain ⟨hwhole, hshort⟩ := hbrief decision hsection
  have hcommitted (hrecords : decision.records ≠ []) :
      Bounded (n + 16524) (decision.commit s.engine action.io).durability := by
    have hne : contents s.engine decision ≠ [] := by
      rw [contents, ne_eq, List.map_eq_nil_iff]
      exact hrecords
    have hsize := @transactionSize_le (contents s.engine decision) 16384 hne
      fun entry ↦ contents_length_le s.engine
    rw [contents, List.length_map] at hsize
    have hgrown := @bounded_commitRecords action.io (contents s.engine decision) n s.engine.config
      s.engine.tables s.engine.durability hstrict hkept (admissible_of_sectionOf hsection) hne h
    unfold Decision.commit
    simp only [hwhole, Bool.false_eq_true, if_false]
    refine hgrown.imp_right ?_
    rintro ⟨journal, hjournal, hmax, hlength⟩
    exact ⟨journal, hjournal, hmax, Nat.le_trans hlength (by rw [contents]; omega)⟩
  have hturn := turn_performed s action.io decision
  generalize performed s action.io decision = t at hturn ⊢
  cases hturn with
  | quiet =>
    refine h.imp_right ?_
    rintro ⟨journal, hjournal, hmax, hlength⟩
    exact ⟨journal, hjournal, hmax, Nat.le_add_right_of_le hlength⟩
  | failed hrecords => exact hcommitted hrecords
  | committed hrecords => exact hcommitted hrecords

theorem bounded_of_run {actions : List Action} (hstrict : s.engine.config.durability = .strict)
    (hkept : Kept Untorn s.engine.durability) (hbrief : Guarded step briefly s actions)
    (hrun : run step s actions = some t) (h : Bounded n s.engine.durability) :
    Bounded (n + actions.length * 16524) t.engine.durability := by
  induction actions generalizing s n with
  | nil =>
    cases hrun
    rwa [List.length_nil, Nat.zero_mul, Nat.add_zero]
  | cons action actions ih =>
    obtain ⟨hfirst, hrest⟩ := hbrief
    cases hstep : step s action with
    | none => simp only [run, hstep] at hrun; cases hrun
    | some u =>
      simp only [run, hstep] at hrun hrest
      have hgrown := ih (by rw [config_step hstep]; exact hstrict)
        (kept_step stable_untorn hkept hstep) hrest
        hrun (bounded_step hstrict hkept hfirst hstep h)
      rwa [Nat.add_assoc, Nat.add_comm 16524, ← Nat.succ_mul] at hgrown

end Growth

section Brevity

theorem guarded_of_forall {ok : System → Action → Prop} {actions : List Action}
    (h : ∀ action ∈ actions, ∀ s, ok s action) : Guarded step ok s actions := by
  induction actions generalizing s with
  | nil => trivial
  | cons action actions ih =>
    refine ⟨h action List.mem_cons_self s, ?_⟩
    cases step s action with
    | none => trivial
    | some t => exact ih fun other hmem ↦ h other (List.mem_cons_of_mem _ hmem)

theorem brief_ingest {engine : Engine} {names : Ingest} {shape : ReasonCode}
    {existing : Option Generation} {generation : Generation} {size : ℕ} {limit : U64}
    {staged : Staged} :
    Brief (ingest engine names shape existing generation size limit staged) := by
  unfold ingest
  repeat' split
  all_goals exact ⟨rfl, Nat.le_of_ble_eq_true rfl⟩

theorem brief_openEnvelope {engine : Engine} {request : EnvelopeRequest} {actor : ActorContext}
    {now : U64} : Brief (openEnvelope engine request actor now) := by
  unfold openEnvelope
  simp only
  repeat' split
  all_goals exact ⟨rfl, Nat.le_of_ble_eq_true rfl⟩

end Brevity

end RateGovernor.Dynamics.Growing
