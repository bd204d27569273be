import RateGovernor.Dynamics.Evolution

namespace RateGovernor.Dynamics.Halting

open Model.EngineState Model.JournalWriter Model.Reason Model.Durability Model.Execution
open Sections Turns

variable {s t : System} {action : Action}
variable {config : EngineConfig} {tables : Tables} {durability : Durability} {io : Io}

/-- Durability is required and can no longer be had: no object will be written again. -/
def Stuck (config : EngineConfig) (durability : Durability) : Prop :=
  config.durability = .strict ∧
    (durability.degraded = true ∨ ∀ journal, durability.journal = some journal →
      journal.isOpen = false)

theorem commitRecords_stuck {records} (h : Stuck config durability) :
    ∃ error, commitRecords config tables durability records io = ⟨durability, some error, io⟩ := by
  obtain ⟨hstrict, hdegraded | hclosed⟩ := h
  · exact ⟨_, by rw [commitRecords, if_neg (not_not.2 hstrict), if_pos hdegraded]⟩
  · unfold commitRecords
    rw [if_neg (not_not.2 hstrict)]
    split
    · exact ⟨_, rfl⟩
    · split
      · exact ⟨_, rfl⟩
      · next journal hjournal =>
        rw [hclosed journal hjournal]
        exact ⟨_, rfl⟩

theorem stuck_of_commitRecords {records error}
    (h : (commitRecords config tables durability records io).status = some error) :
    Stuck config (commitRecords config tables durability records io).durability := by
  revert h
  unfold commitRecords
  split
  · exact nofun
  · next hstrict =>
    have hstrict : config.durability = .strict := not_not.1 hstrict
    split
    · next hdegraded => exact fun _ ↦ ⟨hstrict, .inl hdegraded⟩
    · split
      · next hnone =>
        refine fun _ ↦ ⟨hstrict, .inr fun journal hjournal ↦ ?_⟩
        rw [hnone] at hjournal
        cases hjournal
      · next journal hsome =>
        split
        · next hclosed =>
          refine fun _ ↦ ⟨hstrict, .inr fun journal' hjournal ↦ ?_⟩
          rw [hsome] at hjournal
          cases hjournal
          simpa using hclosed
        · split
          · exact nofun
          · simp only
            split
            · exact fun _ ↦ ⟨hstrict, .inl rfl⟩
            · exact nofun

theorem degraded_of_commitRecords {records error} {journal : JournalFile}
    (hjournal : durability.journal = some journal) (hopen : journal.isOpen = true)
    (h : (commitRecords config tables durability records io).status = some error) :
    (commitRecords config tables durability records io).durability.degraded = true := by
  revert h
  unfold commitRecords
  split
  · exact nofun
  · split
    · next hdegraded => exact fun _ ↦ hdegraded
    · simp only [hjournal]
      rw [if_neg (by rw [hopen]; exact nofun)]
      split
      · exact nofun
      · split
        · exact fun _ ↦ rfl
        · exact nofun

theorem commitMany_stuck {records fuel} (h : Stuck config durability) (hfuel : fuel ≠ 0)
    (hrecords : records ≠ []) :
    ∃ error, commitMany config tables fuel durability records io = ⟨durability, some error, io⟩ := by
  cases fuel with
  | zero => exact absurd rfl hfuel
  | succ fuel =>
    obtain ⟨error, herror⟩ : ∃ error, commitRecords config tables durability
        (records.take kMaxRecordsPerTransaction) io = ⟨durability, some error, io⟩ :=
      commitRecords_stuck h
    exact ⟨error, by simp only [commitMany, if_neg hrecords, herror]⟩

theorem stuck_of_commitMany {records fuel error}
    (h : (commitMany config tables fuel durability records io).status = some error) :
    Stuck config (commitMany config tables fuel durability records io).durability := by
  induction fuel generalizing durability records io with
  | zero => cases h
  | succ fuel ih =>
    unfold commitMany at h ⊢
    split at h
    · cases h
    · next hrecords =>
      rw [if_neg hrecords]
      simp only at h ⊢
      split at h
      · next _ hstatus => exact stuck_of_commitRecords hstatus
      · exact ih h

theorem commit_stuck {ρ : Type} {decision : Decision ρ} {engine : Engine} (io : Io)
    (h : Stuck engine.config engine.durability) (hrecords : decision.records ≠ []) :
    ∃ error, decision.commit engine io = ⟨engine.durability, some error, io⟩ := by
  have hmap : decision.records.map (Staged.record engine.config.boot) ≠ [] := by
    simpa using hrecords
  unfold Decision.commit
  simp only
  split
  · exact commitMany_stuck h (by simpa using hrecords) hmap
  · exact commitRecords_stuck h

theorem stuck_of_commit {ρ : Type} {decision : Decision ρ} {engine : Engine} {error : Error}
    (h : (decision.commit engine io).status = some error) :
    Stuck engine.config (decision.commit engine io).durability := by
  unfold Decision.commit at h ⊢
  simp only at h ⊢
  split at h
  · next hchunked =>
    rw [if_pos hchunked]
    exact stuck_of_commitMany h
  · next hchunked =>
    rw [if_neg hchunked]
    exact stuck_of_commitRecords h

theorem durability_perform {ρ : Type} {decision : Decision ρ} {engine : Engine} (io : Io)
    (h : Stuck engine.config engine.durability) :
    (decision.perform engine io).1.durability = engine.durability := by
  unfold Decision.perform
  split
  · rfl
  · next hrecords =>
    obtain ⟨error, herror⟩ := @commit_stuck ρ decision engine io h (by simpa using hrecords)
    simp only [herror]

theorem stuck_step (h : Stuck s.engine.config s.engine.durability) (hstep : step s action = some t) :
    Stuck t.engine.config t.engine.durability ∧ t.engine.tables = s.engine.tables := by
  obtain ⟨decision, hsection, hturn⟩ := turn_of_step hstep
  cases hturn with
  | quiet => exact ⟨h, rfl⟩
  | failed hrecords hstatus => exact ⟨stuck_of_commit hstatus, rfl⟩
  | committed hrecords hstatus =>
    obtain ⟨error, herror⟩ := commit_stuck action.io h hrecords
    rw [herror] at hstatus
    cases hstatus

section Unjournalled

variable {config : EngineConfig} {tables : Tables} {durability : Durability} {io : Io}

theorem commitRecords_of_none {records} (h : config.durability = .none) :
    commitRecords config tables durability records io = ⟨durability, none, io⟩ := by
  rw [commitRecords, if_pos]
  rw [h]
  exact nofun

theorem commitMany_unjournalled {records fuel} (h : config.durability = .none) :
    commitMany config tables fuel durability records io = ⟨durability, none, io⟩ := by
  induction fuel generalizing records with
  | zero => rfl
  | succ fuel ih =>
    unfold commitMany
    split
    · rfl
    · simp only [commitRecords_of_none h]
      exact ih

theorem commitMany_of_none {records fuel} (h : config.durability = .none) :
    (commitMany config tables fuel durability records io).status = none := by
  rw [commitMany_unjournalled h]

theorem commit_unjournalled {decision : Section} {engine : Engine} (io : Io)
    (h : engine.config.durability = .none) :
    decision.commit engine io = ⟨engine.durability, none, io⟩ := by
  unfold Decision.commit
  simp only
  split
  · exact commitMany_unjournalled h
  · exact commitRecords_of_none h

theorem commit_of_none {decision : Section} {engine : Engine} (io : Io)
    (h : engine.config.durability = .none) : (decision.commit engine io).status = none := by
  rw [commit_unjournalled io h]

end Unjournalled

end RateGovernor.Dynamics.Halting
