import RateGovernor.Dynamics.Halting

namespace RateGovernor.Dynamics.Driving

open Model.CheckedMath Model.Identity Model.Reason Model.Envelope Model.EngineState
open Model.JournalWriter
open Model.Durability Model.Authority Model.Calls Model.Lifecycle Model.Completion
open Model.Revocation Model.Execution Foundation.KeyedTable Foundation.GuardedRun Install Sections
open Staging Turns Halting

variable {s t : System} {event : Event} {action : Action} {rest : List Action} {io : Io}
  {decision : Section} {call next : Call} {calls : List Call}

def Recorded : System → List Action → Prop
  | _, [] => True
  | s, action :: rest => match sectionOf s action.event with
    | none => Recorded s rest
    | some decision =>
      (decision.records ≠ [] → (decision.commit s.engine action.io).status = none) ∧
        Recorded (performed s action.io decision) rest

section Steps

theorem drive_section (h : sectionOf s action.event = some decision) :
    drive step s (action :: rest) = drive step (performed s action.io decision) rest :=
  drive_enabled (by rw [step, h]; rfl)

theorem step_disabled (h : sectionOf s action.event = none) : step s action = none := by
  rw [step, h]
  rfl

theorem recorded_section (h : sectionOf s action.event = some decision) :
    Recorded s (action :: rest) ↔
      (decision.records ≠ [] → (decision.commit s.engine action.io).status = none) ∧
        Recorded (performed s action.io decision) rest := by
  simp only [Recorded, h]

theorem not_enabled_of_past {i : ℕ} (hsite : siteOf event = .waiting i ∨ siteOf event = .resuming i)
    (hpast : s.calls.length ≤ i) : sectionOf s event = none := by
  have hnone : s.calls[i]? = none := List.getElem?_eq_none hpast
  cases event <;> obtain hsite | hsite := hsite <;> cases hsite <;>
    simp only [sectionOf, hnone, Option.bind_eq_bind, Option.bind_none]

/-- What a section leaves once the journal has taken its objects. -/
structure Settled (s : System) (decision : Section) (t : System) : Prop where
  config : t.engine.config = s.engine.config
  control : t.engine.control = decision.settled
  tables : t.engine.tables = installed s.engine.config s.engine.tables decision.records
  calls : t.calls = decision.reply none

/-- What a section leaves whose objects the journal has refused. -/
structure Refused (s : System) (decision : Section) (t : System) : Prop where
  tables : t.engine.tables = s.engine.tables
  calls : ∃ error, t.calls = decision.reply (some error)

theorem performed_settled
    (h : decision.records ≠ [] → (decision.commit s.engine io).status = none) :
    Settled s decision (performed s io decision) := by
  have hturn := turn_performed s io decision
  generalize performed s io decision = t at hturn
  cases hturn with
  | quiet hrecords => exact ⟨rfl, rfl, by rw [hrecords]; rfl, rfl⟩
  | failed hrecords hstatus =>
    rw [h hrecords] at hstatus
    cases hstatus
  | committed => exact ⟨rfl, rfl, rfl, rfl⟩

theorem performed_refused (hrecords : decision.records ≠ [])
    (h : (decision.commit s.engine io).status ≠ none) :
    Refused s decision (performed s io decision) := by
  have hturn := turn_performed s io decision
  generalize performed s io decision = t at hturn
  cases hturn with
  | quiet hnone => exact absurd hnone hrecords
  | failed => exact ⟨rfl, _, rfl⟩
  | committed _ hstatus => exact absurd hstatus h

end Steps

theorem recorded_of_none (h : s.engine.config.durability = .none) : Recorded s rest := by
  induction rest generalizing s with
  | nil => trivial
  | cons action rest ih =>
    cases hsection : sectionOf s action.event with
    | none =>
      simp only [Recorded, hsection]
      exact ih h
    | some decision =>
      have hcommit : (decision.commit s.engine action.io).status = none :=
        commit_of_none action.io h
      rw [recorded_section hsection]
      exact ⟨fun _ ↦ hcommit, ih ((performed_settled fun _ ↦ hcommit).config ▸ h)⟩

theorem performed_of_none (h : s.engine.config.durability = .none) :
    performed s io decision =
      { engine := { s.engine with
          control := decision.settled
          tables := installed s.engine.config s.engine.tables decision.records }
        calls := decision.reply none } := by
  unfold performed Decision.perform
  split
  · next hempty =>
    have hnone : decision.records = [] := by simpa using hempty
    rw [hnone]
    rfl
  · rw [commit_unjournalled io h]
    rfl

section Waiting

theorem set_last : (calls ++ [call]).set calls.length next = calls ++ [next] := by
  rw [List.set_append_right _ _ (Nat.le_refl _), Nat.sub_self]
  rfl

theorem replace_last {next : Option Call} :
    replaceCall (calls ++ [call]) calls.length next = calls ++ next.toList := by
  cases next with
  | none =>
    rw [replaceCall, List.eraseIdx_append_of_length_le (Nat.le_refl _), Nat.sub_self]
    rfl
  | some next => exact set_last

theorem find_last : (calls ++ [call])[calls.length]? = some call := by
  rw [List.getElem?_append_right (Nat.le_refl _), Nat.sub_self]
  rfl

variable (action rest next) in
theorem drive_moved (hcalls : t.calls = calls ++ [call])
    (h : sectionOf t action.event = some (moved t calls.length next)) :
    drive step t (action :: rest) =
        drive step { engine := t.engine, calls := calls ++ [next] } rest ∧
      (Recorded t (action :: rest) ↔
        Recorded { engine := t.engine, calls := calls ++ [next] } rest) := by
  have hmoved : performed t action.io (moved t calls.length next) =
      { engine := t.engine, calls := calls ++ [next] } := by
    rw [← set_last, ← hcalls]
    rfl
  constructor
  · rw [drive_section h, hmoved]
  · rw [recorded_section h, hmoved]
    exact and_iff_right fun hrecords ↦ absurd rfl hrecords

end Waiting

end RateGovernor.Dynamics.Driving
