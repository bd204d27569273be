import RateGovernor.Dynamics.Start
import RateGovernor.Dynamics.Commits
import RateGovernor.Dynamics.Halting

namespace RateGovernor.Dynamics.Founding

open Model.CheckedMath Model.Reason Model.Journal Model.JournalWriter Model.EngineState
open Model.Durability Model.Execution Foundation.ByteCodec Framing Commits Halting Start

/-- The record an engine puts into the journal it is constructed over. -/
def engineBanner (config : EngineConfig) : JournalRecordType × Bytes :=
  Staged.record config.boot
    (.epoch (if config.initialEpoch.valid then config.initialEpoch else ⟨1⟩) .engineShutdown)

/-- An engine in Strict mode over a new journal that had room for its banner. -/
structure Founded (start : System) : Prop where
  strict : start.engine.config.durability = .strict
  healthy : start.engine.durability.degraded = false
  built : ∃ config backend session journalConfig created journal io,
    JournalFile.create journalConfig created = some journal ∧
    journalConfig.maxPayloadBytes.toNat ≤ kScanPayloadBound ∧
    Roomy { journal := some journal } (transactionSize [engineBanner config.normalized]) ∧
    start = { engine := (construct config backend session (some journal) io).1 }

variable {start : System} {config : JournalConfig} {journal : JournalFile} {io : Io}

theorem Founded.fresh (h : Founded start) : Fresh start := by
  obtain ⟨config, backend, session, -, -, journal, io, -, -, -, rfl⟩ := h.built
  exact ⟨config, backend, session, some journal, io, rfl⟩

theorem logging_create (h : JournalFile.create config io = some journal)
    (hbound : config.maxPayloadBytes.toNat ≤ kScanPayloadBound) :
    Logging { journal := some journal } [firstRecord] [] := by
  have hsound : Sound { config } {} := ⟨rfl, hbound, clean_nil, rfl⟩
  obtain ⟨scan, haccept, hcommitted⟩ : ∃ scan, ({} : Scan).accept firstRecord = some scan ∧
      scan.result.committed = [firstRecord] := ⟨_, rfl, rfl⟩
  unfold JournalFile.create at h
  obtain ⟨hok, hsound', file, count, hjournal⟩ | ⟨⟨failure, hfailure⟩, -⟩ :=
    writeRecord_spec hsound haccept
      (rfl : JournalFile.writeRecord { config } .fileHeader 0 bannerPayload io = _)
  · simp only [hok] at h
    split at h
    · cases h
    · cases h
    · cases h
      refine ⟨rfl, _, scan, rfl, hsound', ?_, [], ?_, rfl⟩
      · rw [hjournal]
      · rw [hcommitted, List.append_nil]
  · simp only [hfailure] at h
    cases h

theorem config_construct {config : EngineConfig} {backend : Option Backend} {session : Session}
    {journal : Option JournalFile} {io : Io} :
    (construct config backend session journal io).1.config = config.normalized := by
  unfold construct
  simp only
  split
  · rfl
  · split <;> rfl

theorem Founded.logging (h : Founded start) :
    Logging start.engine.durability [firstRecord] [engineBanner start.engine.config] := by
  obtain ⟨config, backend, session, journalConfig, created, journal, io, hcreate, hbound, hroom,
    hstart⟩ := h.built
  have hstrict := h.strict
  have hhealthy := h.healthy
  subst hstart
  have hnew := logging_create hcreate hbound
  obtain ⟨_, scan, hjournal, hsound, -⟩ := hnew.sound
  cases hjournal
  have hplain : ∀ record ∈ [engineBanner config.normalized], Plain record.1 := by
    intro record hmem
    obtain rfl := List.mem_singleton.mp hmem
    exact ⟨nofun, nofun⟩
  have hconfig : (construct config backend session (some journal) io).1.config =
      config.normalized := config_construct
  rw [hconfig] at hstrict
  have hbanner : (construct config backend session (some journal) io).1.durability =
      (commitRecords config.normalized (construct config backend session (some journal) io).1.tables
        { journal := some journal } [engineBanner config.normalized] io).durability := by
    unfold construct
    simp only
    rw [if_pos (by rw [hsound.isOpen, hstrict]; rfl)]
    rfl
  have hroom : Roomy { journal := some journal }
      (transactionSize [engineBanner config.normalized] + 0) := hroom
  simp only [hconfig]
  rw [hbanner] at hhealthy ⊢
  obtain ⟨-, hlogging, -⟩ | ⟨⟨error, herror⟩, -⟩ := commitRecords_spec hstrict hnew
    (List.cons_ne_nil _ _) hplain hroom (rfl : commitRecords config.normalized
      (construct config backend session (some journal) io).1.tables { journal := some journal }
      [engineBanner config.normalized] io = _)
  · exact hlogging
  · rw [degraded_of_commitRecords rfl hsound.isOpen herror] at hhealthy
    cases hhealthy

end RateGovernor.Dynamics.Founding
