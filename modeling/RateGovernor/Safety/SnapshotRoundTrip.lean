import RateGovernor.Dynamics.Compacting
import RateGovernor.Dynamics.Numbering
import RateGovernor.Model.Recovery

namespace RateGovernor.Safety.SnapshotRoundTrip

open Model.CheckedMath Model.Identity Model.Reason Model.Entities Model.Envelope Model.Journal
open Model.JournalWriter Model.EngineState Model.Durability Model.Execution Model.Recovery
open Foundation.KeyedTable Foundation.GuardedRun Dynamics.Install Dynamics.Sections
open Dynamics.Staging Dynamics.Turns Dynamics.Evolution Dynamics.Halting Dynamics.Issue
open Dynamics.Attempts Dynamics.Start Dynamics.Serials Dynamics.Snapshots Dynamics.Compacting
open Dynamics.Numbering

variable {s t u start : System} {action : Action}

/-- Steps that are taken while the counter of attempts has not reached its end. -/
def inService (s : System) (_ : Action) : Prop := Serviceable s

def Writes (t : System) (action : Action) (record : Staged) : Prop :=
  ∃ decision, sectionOf t action.event = some decision ∧ record ∈ decision.records ∧
    (decision.commit t.engine action.io).status = none

/-- Whatever a step creates then has a larger identity than all that was in the snapshot. -/
structure Later (snapshot : Tables) (t : System) : Prop where
  envelopes : ∀ action envelope, Writes t action (.envelope .envelopeOpened envelope) →
    ∀ k e, snapshot.envelopes.find k = some e → k < envelope.id.value
  attempts : ∀ action attempt, Writes t action (.created attempt) →
    ∀ k a, snapshot.attempts.find k = some a → k < attempt.id.value

/-- The engine has everything the tables held, and issues no identity of theirs again. -/
structure Reproduced (tables : Tables) (engine : Engine) : Prop where
  flows : engine.tables.flows = tables.flows
  grants : engine.tables.grants = tables.grants
  reservations : engine.tables.reservations = tables.reservations
  policies : engine.tables.policies = tables.policies
  resources : engine.tables.resources = tables.resources
  backends : engine.tables.backends = tables.backends
  epoch : engine.tables.epoch = tables.epoch
  envelopes : engine.tables.envelopes = tables.envelopes
  attempts : engine.tables.attempts = tables.attempts
  orphans : engine.control.recoveryOrphanRecords = 0
  later : ∀ t, Reaches step inService { engine } t → Later tables t

section Runs

variable {tables : Tables}

structure Beyond (tables : Tables) (t : System) : Prop where
  ids : IdsAhead t
  kept : ∀ k e, tables.envelopes.find k = some e → ∃ e', t.engine.tables.envelopes.find k = some e'
  issued : ∀ k a, tables.attempts.find k = some a → Issued t k

theorem Writes.working {record : Staged} (h : Writes t action record) :
    ¬Stuck t.engine.config t.engine.durability := by
  obtain ⟨decision, -, hmem, hdone⟩ := h
  intro hstuck
  obtain ⟨error, herror⟩ := commit_stuck action.io hstuck (List.ne_nil_of_mem hmem)
  rw [herror] at hdone
  cases hdone

theorem Writes.stages {record : Staged} (h : Writes t action record) :
    Stages t action.event record := by
  obtain ⟨decision, hsection, hmem, -⟩ := h
  exact stages_of_sectionOf hsection hmem

theorem Beyond.later (h : Beyond tables t) : Later tables t where
  envelopes action envelope hwrites k e hfind := by
    have hstages := hwrites.stages
    obtain ⟨event, io⟩ := action
    cases hstages with
    | opened hroom =>
      obtain ⟨stored, hstored⟩ := h.kept k e hfind
      obtain hstuck | hahead := h.ids
      · exact absurd hstuck hwrites.working
      · exact UInt64.lt_iff_toNat_lt.2 ((hahead hroom).1 k stored hstored)
  attempts action attempt hwrites k a hfind := by
    obtain ⟨envelope, hcreates⟩ := creates_of_stages hwrites.stages
    obtain hstuck | hlt := h.issued k a hfind
    · exact absurd hstuck hwrites.working
    · rw [hcreates.issued]
      exact hlt

theorem beyond_step (h : Beyond tables s) (hroom : Serviceable s)
    (hstep : step s action = some t) : Beyond tables t where
  ids := idsAhead_step h.ids hstep
  kept k e hfind := by
    obtain ⟨e', hfind'⟩ := h.kept k e hfind
    exact envelope_persists hstep hfind'
  issued k a hfind := issued_step hroom (h.issued k a hfind) hstep

theorem later_of_reaches (h : Beyond tables s) (hrun : Reaches step inService s t) :
    Later tables t :=
  Beyond.later (hrun.invariant h fun _ _ _ hbeyond hroom hstep ↦ beyond_step hbeyond hroom hstep)

end Runs

theorem reproduced_of_rebuilt {tables : Tables} {records : List JournalRecord} (hempty : Fresh u)
    (h : Rebuilt u.engine.config tables
      (applySnapshotRecords u.engine.config (.fresh u.engine.config) records)) :
    Reproduced tables (restored u.engine records) := by
  obtain ⟨htables, hnextEnvelope, hnextAttempt, horphans⟩ := replay_of_fresh hempty
  have hstart : (Replay.fresh u.engine.config) =
      { tables := u.engine.tables
        nextEnvelopeId := u.engine.control.nextEnvelopeId
        nextAttemptId := u.engine.control.nextAttemptId
        orphans := u.engine.control.recoveryOrphanRecords } := by
    rw [htables, hnextEnvelope, hnextAttempt, horphans]
    rfl
  rw [hstart] at h
  refine ⟨h.flows, h.grants, h.reservations, h.policies, h.resources, h.backends, h.epoch,
    h.envelopes, h.attempts, h.orphans, fun t hrun ↦ later_of_reaches ⟨.inr h.envelopeIds,
      fun k e hfind ↦ ⟨e, ?_⟩, fun k a hfind ↦ .inr (h.attemptIds k a hfind)⟩ hrun⟩
  exact (congrArg (·.find k) h.envelopes).trans hfind

theorem config_of_reaches (hrun : Reaches step inService start s) :
    s.engine.config = start.engine.config := by
  induction hrun with
  | refl => rfl
  | tail _ _ hstep ih => exact (config_step hstep).trans ih

theorem ordered_of_reaches (hfresh : Fresh start)
    (hseveral : 2 ≤ start.engine.config.maxAttemptsPerEnvelope.toNat)
    (hrun : Reaches step inService start s) : Ordered s := by
  induction hrun with
  | refl => exact ordered_of_fresh hfresh
  | tail hrun hroom hstep ih =>
    exact ordered_step ih (config_of_reaches hrun ▸ hseveral) hroom hstep

/-- A snapshot of an engine, written to a file that can be scanned and replayed into a fresh
engine of the same configuration, gives back what the engine held. -/
theorem snapshot_round_trip {journal : JournalFile} {io : Io} {written : Written}
    (hfresh : Fresh start) (hseveral : 2 ≤ start.engine.config.maxAttemptsPerEnvelope.toNat)
    (hrun : Reaches step inService start s) (htexts : TextsFit s.engine.tables)
    (hwritten : journal.compactWith (buildSnapshotRecords s.engine.config s.engine.tables) io =
      written) (hdone : written.failure = none)
    (hsize : written.journal.file.length ≤ kJournalMaxScanBytes)
    (hempty : Fresh u) (hconfig : u.engine.config = s.engine.config) :
    (scanJournalFile written.journal.file).ok = true ∧
      Reproduced s.engine.tables
        (restored u.engine (scanJournalFile written.journal.file).committed) := by
  have hordered := ordered_of_reaches hfresh hseveral hrun
  obtain ⟨-, -, hjournal⟩ := compactWith_ok hwritten hdone
  have hfile : written.journal.file =
      compactedFile (buildSnapshotRecords s.engine.config s.engine.tables) :=
    congrArg (·.file) hjournal
  rw [hfile] at hsize ⊢
  obtain ⟨hok, hrebuilt⟩ := rebuilt_compacted hordered.snapshotable htexts hsize
  refine ⟨hok, reproduced_of_rebuilt hempty ?_⟩
  rw [hconfig]
  exact hrebuilt

section Sample

def sampleJournal : JournalFile := { config := { maxPayloadBytes := 4194304 } }

theorem compactWith_sampleJournal (config : EngineConfig) (tables : Tables) :
    sampleJournal.compactWith (buildSnapshotRecords config tables) [] =
      ⟨overSnapshot sampleJournal (buildSnapshotRecords config tables)
        (compactedFile (buildSnapshotRecords config tables)), none, []⟩ := by
  refine compactWith_done rfl rfl rfl fun entry hmem ↦ ?_
  obtain ⟨staged, -, rfl⟩ := List.mem_map.1 hmem
  exact record_length_le _ staged

instance (s : System) (action : Action) : Decidable (inService s action) :=
  inferInstanceAs (Decidable (Serviceable s))

def sampleFits (s : System) : Bool :=
  s.engine.tables.attempts.size = 1 && TextsFit s.engine.tables &&
    (compactedFile (buildSnapshotRecords s.engine.config s.engine.tables)).length ≤
      kJournalMaxScanBytes

/-- An engine with a verified attempt, whose snapshot is written, scanned and replayed. -/
theorem round_trip_of_applySample : ∃ s, Reaches step inService sampleStart s ∧
    s.engine.tables.attempts.size = 1 ∧
    Reproduced s.engine.tables (restored sampleStart.engine (scanJournalFile
      (compactedFile (buildSnapshotRecords s.engine.config s.engine.tables))).committed) := by
  have hguarded : Guarded step inService sampleStart applySample := by decide +kernel
  have hfits : (run step sampleStart applySample).elim false sampleFits = true := by decide +kernel
  cases hrun : run step sampleStart applySample with
  | none =>
    rw [hrun] at hfits
    cases hfits
  | some s =>
    rw [hrun] at hfits
    simp only [Option.elim_some, sampleFits, Bool.and_eq_true, decide_eq_true_eq] at hfits
    obtain ⟨⟨hsize, htexts⟩, hlength⟩ := hfits
    have hreaches := reaches_of_run hguarded hrun
    exact ⟨s, hreaches, hsize, (snapshot_round_trip fresh_sampleStart (by decide) hreaches htexts
      (compactWith_sampleJournal _ _) rfl hlength fresh_sampleStart
      (config_of_reaches hreaches).symm).2⟩

end Sample

section Crowd

/-- An engine that takes as many flows as there are. -/
def crowdStart : System :=
  { engine := (construct { durability := .none, maxFlows := 0xFFFFFFFF } none {} none []).1 }

def crowdFlow (n : ℕ) : Flow := { sampleFlow with id := ⟨UInt64.ofNat (n + 1)⟩ }

def crowdFlows : ℕ → Registry Flow (·.id.value)
  | 0 => .empty
  | n + 1 => (crowdFlows n).put (crowdFlow n)

def crowd (n : ℕ) : System :=
  { engine := { crowdStart.engine with
      tables := { crowdStart.engine.tables with flows := crowdFlows n } } }

theorem toNat_crowdId {n : ℕ} (h : n < 2 ^ 32) : (crowdFlow n).id.value.toNat = n + 1 :=
  UInt64.toNat_ofNat_of_lt' (by simp only [UInt64.size]; omega)

theorem crowdFlows_spec {n : ℕ} (h : n < 2 ^ 32) : (crowdFlows n).size = n ∧
    ∀ k flow, (crowdFlows n).find k = some flow →
      k.toNat ≤ n ∧ flow.provenance.detail = [] := by
  induction n with
  | zero =>
    refine ⟨Std.ExtTreeMap.size_empty, fun k flow hfind ↦ ?_⟩
    rw [crowdFlows, Registry.find_empty] at hfind
    cases hfind
  | succ n ih =>
    obtain ⟨hsize, hkeys⟩ := ih (by omega)
    have hid := toNat_crowdId (show n < 2 ^ 32 by omega)
    have hfresh : (crowdFlows n).find (crowdFlow n).id.value = none := by
      cases hfind : (crowdFlows n).find (crowdFlow n).id.value with
      | none => rfl
      | some flow =>
        have hle := (hkeys _ flow hfind).1
        omega
    refine ⟨(Registry.size_put_of_find_none hfresh).trans (congrArg (· + 1) hsize), ?_⟩
    intro k flow hfind
    rw [crowdFlows, Registry.find_put] at hfind
    split at hfind
    · next hk =>
      cases hfind
      rw [← hk, hid]
      exact ⟨Nat.le_refl _, rfl⟩
    · obtain ⟨hle, hdetail⟩ := hkeys k flow hfind
      exact ⟨Nat.le_succ_of_le hle, hdetail⟩

theorem step_crowd {n : ℕ} (h : n < 2 ^ 32 - 1) :
    step (crowd n) ⟨.putFlow (crowdFlow n), []⟩ = some (crowd (n + 1)) := by
  obtain ⟨hsize, hkeys⟩ := crowdFlows_spec (show n < 2 ^ 32 by omega)
  have hid := toNat_crowdId (show n < 2 ^ 32 by omega)
  have hvalid : (crowdFlow n).id.valid = true := by
    refine decide_eq_true fun hzero ↦ ?_
    rw [hzero] at hid
    cases hid
  have hshape : (crowdFlow n).validateStructure = .none := by
    unfold Flow.validateStructure
    rw [hvalid]
    rfl
  have hfresh : (crowdFlows n).find (crowdFlow n).id.value = none := by
    cases hfind : (crowdFlows n).find (crowdFlow n).id.value with
    | none => rfl
    | some flow =>
      have hle := (hkeys _ flow hfind).1
      omega
  have hroom : ¬(crowd n).engine.config.maxFlows.toNat ≤ (crowd n).engine.tables.flows.size := by
    show ¬(2 ^ 32 - 1 : ℕ) ≤ (crowdFlows n).size
    omega
  have hdecision : Model.Authority.putFlow (crowd n).engine (crowdFlow n) =
      Model.Authority.stage (crowd n).engine.control [.flow (crowdFlow n)] := by
    unfold Model.Authority.putFlow Model.Authority.ingest
    rw [hshape, if_neg (fun h ↦ h rfl), if_neg nofun,
      show (crowd n).engine.tables.flows.find (crowdFlow n).id.value = none from hfresh,
      Option.map_none]
    simp only [if_neg hroom]
  show some (performed (crowd n) []
    (once (crowd n) (Model.Authority.putFlow (crowd n).engine (crowdFlow n)))) = _
  rw [hdecision]
  rfl

theorem reaches_crowd {n : ℕ} (h : n < 2 ^ 32) : Reaches step inService crowdStart (crowd n) := by
  induction n with
  | zero => exact .refl
  | succ n ih => exact .tail (ih (by omega)) (show (1 : U64) ≠ _ by decide) (step_crowd (by omega))

theorem textsFit_crowd {n : ℕ} (h : n < 2 ^ 32) : TextsFit (crowd n).engine.tables := by
  intro staged hmem
  cases mem_snapshot.1 hmem with
  | flow hv =>
    have hdetail := ((crowdFlows_spec h).2 _ _ (Registry.mem_entries.1 hv)).2
    show _ ≤ _
    rw [hdetail]
    exact Nat.zero_le _
  | epoch => trivial
  | _ hv =>
    exact absurd ((Registry.mem_entries.1 hv).symm.trans (Registry.find_empty _)) nofun

theorem scan_too_long_crowd : kJournalMaxScanBytes < (compactedFile (buildSnapshotRecords
    (crowd (2 ^ 24)).engine.config (crowd (2 ^ 24)).engine.tables)).length := by
  have hentries : (crowd (2 ^ 24)).engine.tables.flows.entries.length = 2 ^ 24 :=
    (Registry.length_entries _).trans (crowdFlows_spec (by decide)).1
  have hsnapshot : 2 ^ 24 ≤ (buildSnapshotRecords (crowd (2 ^ 24)).engine.config
      (crowd (2 ^ 24)).engine.tables).length := by
    rw [buildSnapshotRecords, List.length_map, snapshot_eq, List.length_append, authorities]
    simp only [List.length_append, List.length_map, hentries]
    omega
  refine Nat.lt_of_lt_of_le ?_ (compactedFile_length_ge _)
  refine Nat.lt_of_lt_of_le ?_ (Nat.mul_le_mul_right _ hsnapshot)
  decide

/-- So many flows do not fit in a file the scanner takes, and nothing is replayed. -/
theorem round_trip_fails_for_crowd : Fresh crowdStart ∧
    2 ≤ crowdStart.engine.config.maxAttemptsPerEnvelope.toNat ∧
    ∃ s, Reaches step inService crowdStart s ∧ TextsFit s.engine.tables ∧
      s.engine.config = crowdStart.engine.config ∧ ∃ written,
      sampleJournal.compactWith (buildSnapshotRecords s.engine.config s.engine.tables) [] =
        written ∧ written.failure = none ∧
      ¬ Reproduced s.engine.tables
        (restored crowdStart.engine (scanJournalFile written.journal.file).committed) := by
  have hcount : (2 ^ 24 : ℕ) < 2 ^ 32 := by decide
  refine ⟨⟨_, _, _, _, _, rfl⟩, by decide, crowd (2 ^ 24), reaches_crowd hcount,
    textsFit_crowd hcount, rfl, _, compactWith_sampleJournal _ _, rfl, fun h ↦ ?_⟩
  generalize hfile : (overSnapshot sampleJournal _ _).file = file at h
  have hlong : kJournalMaxScanBytes < file.length := by
    rw [← hfile]
    exact scan_too_long_crowd
  have hscan : (scanJournalFile file).committed = [] := by
    unfold scanJournalFile
    rw [if_pos hlong]
  have hflows := h.flows
  rw [hscan] at hflows
  have hsize : (0 : ℕ) = 2 ^ 24 := by
    rw [← (crowdFlows_spec hcount).1]
    exact congrArg Registry.size hflows
  exact absurd hsize (by decide)

end Crowd

end RateGovernor.Safety.SnapshotRoundTrip
