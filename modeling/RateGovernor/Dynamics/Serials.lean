import RateGovernor.Dynamics.Attempts
import RateGovernor.Dynamics.Start

namespace RateGovernor.Dynamics.Serials

open Model.CheckedMath Model.Entities Model.Envelope Model.EngineState Model.Durability
open Model.Lifecycle Model.Execution Foundation.KeyedTable Foundation.GuardedRun Install Sections
open Staging Turns Evolution Halting Issue Attempts Start

variable {s t : System} {action : Action} {k : U64} {a : EnforcementAttempt}

def Serviceable (s : System) : Prop := s.engine.control.nextAttemptId ≠ 0xFFFFFFFFFFFFFFFF

instance (s : System) : Decidable (Serviceable s) := inferInstanceAs (Decidable (_ ≠ _))

def Issued (s : System) (k : U64) : Prop :=
  Stuck s.engine.config s.engine.durability ∨ k < s.engine.control.nextAttemptId

def SerialsAhead (s : System) : Prop :=
  ∀ k a, s.engine.tables.attempts.find k = some a → Issued s k

theorem serialsAhead_of_fresh (h : Fresh s) : SerialsAhead s := by
  intro k a hfind
  rw [no_attempt_of_fresh h] at hfind
  cases hfind

theorem serials_of_issues {decision : Section} (h : Issues s decision) (hroom : Serviceable s) :
    s.engine.control.nextAttemptId ≤ decision.settled.nextAttemptId ∧
      ∀ a, .created a ∈ decision.records →
        s.engine.control.nextAttemptId < decision.settled.nextAttemptId := by
  have htaken : s.engine.control.nextAttemptId < s.engine.control.nextAttemptId + 1 :=
    lt_succ hroom
  cases h with
  | nothing ids records =>
    rw [ids.2]
    exact ⟨UInt64.le_refl _, fun a hmem ↦ absurd trivial (records _ hmem)⟩
  | envelope request now room ids records =>
    rw [ids.2, records]
    refine ⟨UInt64.le_refl _, fun a hmem ↦ ?_⟩
    cases List.mem_singleton.1 hmem
  | apply _ _ _ _ _ _ _ ids =>
    rw [ids.2]
    exact ⟨UInt64.le_of_lt htaken, fun _ _ ↦ htaken⟩
  | revoke _ _ _ _ _ _ _ ids =>
    rw [ids.2]
    exact ⟨UInt64.le_of_lt htaken, fun _ _ ↦ htaken⟩

theorem issued_step (hroom : Serviceable s) (h : Issued s k) (hstep : step s action = some t) :
    Issued t k := by
  obtain hstuck | hlt := h
  · exact .inl (stuck_step hstuck hstep).1
  · obtain ⟨decision, hsection, hturn⟩ := turn_of_step hstep
    have hnext := (serials_of_issues (issues_of_sectionOf hsection) hroom).1
    cases hturn with
    | quiet => exact .inr (UInt64.lt_of_lt_of_le hlt hnext)
    | failed _ hstatus => exact .inl (stuck_of_commit hstatus)
    | committed => exact .inr (UInt64.lt_of_lt_of_le hlt hnext)

theorem serialsAhead_step (hroom : Serviceable s) (h : SerialsAhead s)
    (hstep : step s action = some t) : SerialsAhead t := by
  intro k a hfind
  have kept {b : EnforcementAttempt} (hfound : s.engine.tables.attempts.find k = some b) :
      Issued t k := issued_step hroom (h k b hfound) hstep
  have hkey := Registry.key_of_find hfind
  obtain ⟨decision, hsection, hturn⟩ := turn_of_step hstep
  cases hturn with
  | quiet => exact kept hfind
  | failed => exact kept hfind
  | committed =>
    obtain ⟨record, hmem, hrecord⟩ | hold := installed_attempts _ _ hfind
    · have hstages := stages_of_sectionOf hsection hmem
      cases record with
      | created value =>
        cases hrecord
        obtain ⟨envelope, hcreates⟩ := creates_of_stages hstages
        have hnext := (serials_of_issues (issues_of_sectionOf hsection) hroom).2 _ hmem
        rw [← hcreates.issued] at hnext
        exact .inr (hkey ▸ hnext)
      | attempt type value =>
        cases hrecord
        obtain ⟨old, hfound, -⟩ := moves_of_stages hstages
        rw [hkey] at hfound
        exact kept hfound
      | _ => cases hrecord
    · exact kept hold

theorem stored_of_issued (h : Issued s k) (hstep : step s action = some t)
    (hfind : t.engine.tables.attempts.find k = some a) :
    ∃ old, s.engine.tables.attempts.find k = some old ∧ identity a = identity old := by
  obtain hstuck | hlt := h
  · rw [(stuck_step hstuck hstep).2] at hfind
    exact ⟨a, hfind, rfl⟩
  · have hkey := Registry.key_of_find hfind
    obtain hold | hcreated | ⟨type, hstages⟩ := attempt_step hstep hfind
    · exact ⟨a, hold, rfl⟩
    · obtain ⟨envelope, hcreates⟩ := creates_of_stages hcreated
      have hissued := hcreates.issued
      rw [hkey] at hissued
      rw [hissued] at hlt
      exact absurd hlt (UInt64.lt_irrefl _)
    · obtain ⟨old, hfound, hmoves⟩ := moves_of_stages hstages
      rw [hkey] at hfound
      exact ⟨old, hfound, hmoves.same⟩

end RateGovernor.Dynamics.Serials
