import RateGovernor.Dynamics.Readbacks
import RateGovernor.Dynamics.Start
import RateGovernor.Dynamics.States

namespace RateGovernor.Dynamics.Flags

open Model.CheckedMath Model.Reason Model.Envelope Model.EngineState Model.Calls Model.Authority
open Model.Lifecycle Model.Completion Model.Revocation Model.Maintenance Model.Execution
open Foundation.GuardedRun Sections Turns Evolution States Start

variable {s t : System} {event : Event} {action : Action} {tables : Tables}
  {envelope old : RateEnvelope} {now : U64}

theorem envelopes_of_reaches {P : RateEnvelope → Prop} {bad : System → Event → Prop}
    (hstages : ∀ {s event type envelope}, Stages s event (.envelope type envelope) →
      (∀ k old, s.engine.tables.envelopes.find k = some old → P old) → ¬ bad s event → P envelope)
    {start : System} (hfresh : Fresh start)
    (hrun : Reaches step (fun s action ↦ commits s action = true → ¬ bad s action.event) start s) :
    ∀ k envelope, s.engine.tables.envelopes.find k = some envelope → P envelope := by
  refine hrun.invariant
    (I := fun s ↦ ∀ k envelope, s.engine.tables.envelopes.find k = some envelope → P envelope) ?_ ?_
  · intro k envelope hfind
    rw [no_envelope_of_fresh hfresh] at hfind
    cases hfind
  · intro s action t hold hok hstep k envelope hfind
    obtain hsame | hcommits := same_or_commits hstep
    · rw [hsame] at hfind
      exact hold k envelope hfind
    obtain hkept | ⟨type, hstaged⟩ := envelope_step hstep hfind
    · exact hold k envelope hkept
    · exact hstages hstaged hold (hok hcommits)

section Updates

def SameFlags (old new : RateEnvelope) : Prop :=
  new.effectVerified = old.effectVerified ∧ new.requiresRevalidation = old.requiresRevalidation

theorem withdrawn_of_epochDemoted (h : epochDemoted now old = some envelope) :
    envelope.effectVerified = false ∧ envelope.state ≠ .applied := by
  unfold epochDemoted at h
  simp only at h
  split at h
  · cases h
  · cases h
    refine ⟨rfl, ?_⟩
    simp only
    split
    · exact nofun
    · next hactive =>
      simp only [Bool.or_eq_true, decide_eq_true_eq, not_or] at hactive
      exact hactive.1

theorem withdrawn_of_sessionLost (h : sessionLostEnvelope old = some envelope) :
    envelope.effectVerified = false ∧ envelope.state ≠ .applied := by
  unfold sessionLostEnvelope at h
  simp only at h
  split at h
  · cases h
  · cases h
    refine ⟨rfl, ?_⟩
    simp only
    split
    · exact nofun
    · next hactive =>
      simp only [Bool.or_eq_true, decide_eq_true_eq, not_or] at hactive
      exact hactive.1

/-- A tick withdraws the effect of an envelope that goes stale and leaves the flags of any other. -/
theorem flags_maintained (tables : Tables) (old : RateEnvelope) (now : U64) :
    ((maintained tables old now).effectVerified = false ∧
      (maintained tables old now).state ≠ .applied) ∨
    SameFlags old (maintained tables old now) ∧
      ((maintained tables old now).state = old.state ∨
        (maintained tables old now).state = .authorized) := by
  have hrefill : SameFlags old (refillStage old now).1 := by
    unfold refillStage
    split <;> exact ⟨rfl, rfl⟩
  have hcooled : SameFlags old (cooldownStage (refillStage old now).1 now) ∧
      ((cooldownStage (refillStage old now).1 now).state = old.state ∨
        (cooldownStage (refillStage old now).1 now).state = .authorized) := by
    unfold cooldownStage
    split
    · exact ⟨hrefill, .inl (state_refillStage old now)⟩
    · refine ⟨hrefill, ?_⟩
      simp only
      split
      · exact .inr rfl
      · exact .inl (state_refillStage old now)
  unfold maintained staleStage
  simp only
  split
  · exact .inr hcooled
  · refine .inl ⟨rfl, ?_⟩
    simp only
    split <;> exact nofun

theorem flags_unauthorizedEnvelope (old : RateEnvelope) (reason : ReasonCode) (now : U64) :
    SameFlags old (unauthorizedEnvelope old reason now) ∧
      ((unauthorizedEnvelope old reason now).state = .applied → old.state = .applied) := by
  refine ⟨⟨rfl, rfl⟩, ?_⟩
  unfold unauthorizedEnvelope
  simp only
  split
  · exact nofun
  · exact id

theorem flags_authorizedEnvelope (old : RateEnvelope) (plan : EffectivePlan) (now : U64) :
    ((authorizedEnvelope old plan now).effectVerified = old.effectVerified ∧
      ((authorizedEnvelope old plan now).requiresRevalidation = old.requiresRevalidation ∨
        (authorizedEnvelope old plan now).requiresRevalidation = false)) ∧
      ((authorizedEnvelope old plan now).state = .applied → old.state = .applied) := by
  unfold authorizedEnvelope
  simp only
  split
  · split
    · exact ⟨⟨rfl, .inl rfl⟩, id⟩
    · exact ⟨⟨rfl, .inr rfl⟩, nofun⟩
  · split
    · exact ⟨⟨rfl, .inl rfl⟩, nofun⟩
    · exact ⟨⟨rfl, .inl rfl⟩, id⟩

theorem flags_plannedEnvelope (old : RateEnvelope) (plan : EffectivePlan) :
    SameFlags old (plannedEnvelope old plan) := by
  unfold plannedEnvelope
  split <;> exact ⟨rfl, rfl⟩

theorem flags_lateEnvelope (old : RateEnvelope) (reason : ReasonCode) (effect : Bool) (now : U64) :
    ((lateEnvelope old reason effect now).effectVerified = false ∧
      (lateEnvelope old reason effect now).state ≠ .applied) ∨
    SameFlags old (lateEnvelope old reason effect now) ∧
      (lateEnvelope old reason effect now).state = old.state := by
  unfold lateEnvelope
  simp only
  split
  · exact .inr ⟨⟨rfl, rfl⟩, rfl⟩
  · split
    · next h => exact .inl ⟨rfl, by simp only [h]; exact nofun⟩
    · exact .inl ⟨rfl, nofun⟩

theorem flags_judgedRevokeEnvelope (old : RateEnvelope) (reason : ReasonCode)
    (verification : VerificationOutcome) (now : U64) :
    (judgedRevokeEnvelope old reason verification now).effectVerified = false ∧
      (judgedRevokeEnvelope old reason verification now).state ≠ .applied := by
  unfold judgedRevokeEnvelope
  simp only
  split <;> exact ⟨rfl, nofun⟩

end Updates

end RateGovernor.Dynamics.Flags
