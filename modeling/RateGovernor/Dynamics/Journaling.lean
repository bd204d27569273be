import RateGovernor.Dynamics.Commits
import RateGovernor.Dynamics.Halting

namespace RateGovernor.Dynamics.Journaling

open Model.CheckedMath Model.Reason Model.Journal Model.JournalWriter Model.EngineState
open Model.Durability Model.Execution Foundation.ByteCodec Install Sections Staging Turns Evolution
open Halting Commits

variable {s t : System} {event : Event} {action : Action} {decision : Section} {boot}
  {base : List JournalRecord} {log : List (JournalRecordType × Bytes)}

section Decisions

variable {ρ : Type} {decision : Decision ρ} {engine : Engine} (io : Io)

def contents (engine : Engine) (decision : Decision ρ) : List (JournalRecordType × Bytes) :=
  decision.records.map (Staged.record engine.config.boot)

def sectionSize (engine : Engine) (decision : Decision ρ) : ℕ :=
  if decision.records = [] then 0
  else if decision.chunked then chunksSize decision.records.length (contents engine decision)
  else transactionSize (contents engine decision)

theorem commit_spec (hstrict : engine.config.durability = .strict)
    (h : Logging engine.durability base log) (hrecords : decision.records ≠ [])
    (hplain : ∀ record ∈ contents engine decision, Plain record.1) {more : ℕ}
    (hroom : Roomy engine.durability (sectionSize engine decision + more)) :
    ((decision.commit engine io).status = none ∧
      Logging (decision.commit engine io).durability base (log ++ contents engine decision) ∧
      Roomy (decision.commit engine io).durability more) ∨
    ((∃ error, (decision.commit engine io).status = some error) ∧
      ∃ k, recordsIn (fileOf (decision.commit engine io).durability) =
        base.map content ++ (log ++ (contents engine decision).take k)) := by
  unfold Decision.commit
  simp only [sectionSize, if_neg hrecords] at hroom ⊢
  split
  · next hchunked =>
    rw [if_pos hchunked, ← List.length_map (Staged.record engine.config.boot)] at hroom
    exact commitMany_spec hstrict h (Nat.le_refl _) hplain hroom rfl
  · next hwhole =>
    rw [if_neg hwhole] at hroom
    have hne : contents engine decision ≠ [] := by
      rw [contents, ne_eq, List.map_eq_nil_iff]
      exact hrecords
    obtain hdone | ⟨herror, hfile⟩ := commitRecords_spec hstrict h hne hplain hroom rfl
    · exact .inl hdone
    · refine .inr ⟨herror, ?_⟩
      obtain hfile | hfile := hfile
      · exact ⟨0, hfile.trans (by rw [List.take_zero, List.append_nil])⟩
      · exact ⟨(contents engine decision).length, hfile.trans (by rw [List.take_length])⟩

theorem perform_spec (hstrict : engine.config.durability = .strict)
    (h : Logging engine.durability base log)
    (hplain : ∀ record ∈ contents engine decision, Plain record.1) {more : ℕ}
    (hroom : Roomy engine.durability (sectionSize engine decision + more)) :
    ((decision.perform engine io).2.1 = decision.reply none ∧
      (∃ durability, (decision.perform engine io).1 = { engine with
        control := decision.settled
        tables := installed engine.config engine.tables decision.records
        durability }) ∧
      Logging (decision.perform engine io).1.durability base (log ++ contents engine decision) ∧
      Roomy (decision.perform engine io).1.durability more) ∨
    ∃ error, (decision.perform engine io).2.1 = decision.reply (some error) := by
  unfold Decision.perform
  split
  · next hempty =>
    have hempty : decision.records = [] := by simpa using hempty
    rw [sectionSize, if_pos hempty, Nat.zero_add] at hroom
    rw [contents, hempty, List.map_nil, List.append_nil]
    exact .inl ⟨rfl, ⟨engine.durability, rfl⟩, h, hroom⟩
  · next hrecords =>
    have hrecords : decision.records ≠ [] := by simpa using hrecords
    obtain ⟨hok, hlogging, hroom'⟩ | ⟨⟨error, herror⟩, -⟩ :=
      commit_spec io hstrict h hrecords hplain hroom
    · simp only [hok]
      exact .inl ⟨trivial, ⟨_, rfl⟩, hlogging, hroom'⟩
    · simp only [herror]
      exact .inr ⟨error, rfl⟩

end Decisions

def Uncompacted (s : System) (action : Action) : Prop :=
  ∀ decision, sectionOf s action.event = some decision →
    Roomy s.engine.durability (sectionSize s.engine decision)

theorem plain_of_stages {record : Staged} (h : Stages s event record) :
    Plain (record.record boot).1 := by
  cases h <;> exact ⟨nofun, nofun⟩

inductive Writes (s : System) (action : Action) (base : List JournalRecord)
    (log : List (JournalRecordType × Bytes)) (t : System) : Prop
  | appended (decision : Section) (enabled : sectionOf s action.event = some decision)
      (tables : t.engine.tables = installed s.engine.config s.engine.tables decision.records)
      (logging : Logging t.engine.durability base (log ++ contents s.engine decision))
  | broken (decision : Section) (enabled : sectionOf s action.event = some decision) (k : ℕ)
      (records : decision.records ≠ []) (error : Error)
      (status : (decision.commit s.engine action.io).status = some error)
      (tables : t.engine.tables = s.engine.tables)
      (stuck : Stuck t.engine.config t.engine.durability)
      (file : recordsIn (fileOf t.engine.durability) =
        base.map content ++ (log ++ (contents s.engine decision).take k))

/-- A step that finds room either appends what it writes to memory, or writes nothing to memory
and ends the journal. -/
theorem writes_step (hstrict : s.engine.config.durability = .strict)
    (h : Logging s.engine.durability base log) (hroom : Uncompacted s action)
    (hstep : step s action = some t) : Writes s action base log t := by
  obtain ⟨decision, hsection, hturn⟩ := turn_of_step hstep
  have hplain : ∀ record ∈ contents s.engine decision, Plain record.1 := by
    intro record hmem
    obtain ⟨staged, hstaged, rfl⟩ := List.mem_map.1 hmem
    exact plain_of_stages (stages_of_sectionOf hsection hstaged)
  have hroom : Roomy s.engine.durability (sectionSize s.engine decision + 0) :=
    hroom decision hsection
  cases hturn with
  | quiet hrecords =>
    refine .appended decision hsection ?_ ?_
    · rw [hrecords]
      rfl
    · rw [contents, hrecords, List.map_nil, List.append_nil]
      exact h
  | failed hrecords hstatus =>
    obtain ⟨hok, -⟩ | ⟨-, k, hfile⟩ := commit_spec action.io hstrict h hrecords hplain hroom
    · rw [hstatus] at hok
      cases hok
    · exact .broken decision hsection k hrecords _ hstatus rfl (stuck_of_commit hstatus) hfile
  | committed hrecords hstatus =>
    obtain ⟨-, hlogging, -⟩ | ⟨⟨error, herror⟩, -⟩ :=
      commit_spec action.io hstrict h hrecords hplain hroom
    · exact .appended decision hsection rfl hlogging
    · rw [hstatus] at herror
      cases herror

end RateGovernor.Dynamics.Journaling
