import RateGovernor.Dynamics.Bindings

namespace RateGovernor.Dynamics.States

open Model.CheckedMath Model.Reason Model.Envelope Model.EngineState Model.Lifecycle
open Model.Completion
open Model.Maintenance Model.Authority Sections

variable {tables : Tables} {envelope old : RateEnvelope} {now : U64}

theorem state_of_epochDemoted (h : epochDemoted now old = some envelope)
    (happlied : old.state ≠ .applied) (hdispatching : old.state ≠ .dispatching) :
    envelope.state = old.state := by
  unfold epochDemoted at h
  simp only [happlied, hdispatching, decide_false, Bool.or_false, Bool.false_eq_true,
    if_false] at h
  split at h
  · cases h
  · cases h
    rfl

theorem state_of_sessionLost (h : sessionLostEnvelope old = some envelope)
    (happlied : old.state ≠ .applied) (hdispatching : old.state ≠ .dispatching) :
    envelope.state = old.state := by
  unfold sessionLostEnvelope at h
  simp only [happlied, hdispatching, decide_false, Bool.or_false, Bool.false_eq_true,
    if_false] at h
  split at h
  · cases h
  · cases h
    rfl

theorem state_refillStage (envelope : RateEnvelope) (now : U64) :
    (refillStage envelope now).1.state = envelope.state := by
  unfold refillStage
  split <;> rfl

theorem state_cooldownStage (h : envelope.state ≠ .degraded) (now : U64) :
    (cooldownStage envelope now).state = envelope.state := by
  unfold cooldownStage
  split
  · rfl
  · simp only [h, decide_false, Bool.false_and, Bool.false_eq_true, if_false]

theorem state_staleStage (envelope : RateEnvelope) (stale : ReasonCode) :
    (staleStage envelope stale).state =
      if goesStale envelope stale then
        if holdsEffect envelope then .revokePending else .stale
      else envelope.state := by
  unfold staleStage
  cases goesStale envelope stale <;> rfl

theorem maintained_of_revoked (tables : Tables) (now : U64) (h : old.state = .revoked) :
    (maintained tables old now).state = .revoked := by
  have hrefill := (state_refillStage old now).trans h
  have hcooled : (cooldownStage (refillStage old now).1 now).state = .revoked :=
    (state_cooldownStage (by rw [hrefill]; exact nofun) now).trans hrefill
  refine (state_staleStage _ _).trans ?_
  rw [hcooled]
  simp only [goesStale, hcooled, ne_eq, not_true_eq_false, decide_false, Bool.and_false,
    Bool.false_and, Bool.false_eq_true, if_false]

theorem maintained_of_revokePending (tables : Tables) (now : U64) (h : old.state = .revokePending) :
    (maintained tables old now).state = .revokePending := by
  have hrefill := (state_refillStage old now).trans h
  have hcooled : (cooldownStage (refillStage old now).1 now).state = .revokePending :=
    (state_cooldownStage (by rw [hrefill]; exact nofun) now).trans hrefill
  refine (state_staleStage _ _).trans ?_
  rw [hcooled]
  simp only [holdsEffect, hcooled, decide_true, Bool.or_true, Bool.true_or, if_true, ite_self]

theorem state_authorizedEnvelope (plan : EffectivePlan) (now : U64)
    (h : old.state = .revokePending ∨ old.state = .revoked) :
    (authorizedEnvelope old plan now).state = old.state := by
  have happlied : old.state ≠ .applied := by
    obtain h | h := h <;> rw [h] <;> exact nofun
  have hdegraded : old.state ≠ .degraded := by
    obtain h | h := h <;> rw [h] <;> exact nofun
  unfold authorizedEnvelope
  simp only [happlied, hdegraded, decide_false, Bool.or_self, Bool.false_eq_true, if_false]
  split
  · next hother =>
    simp only [ne_eq, Bool.and_eq_true, decide_eq_true_eq] at hother
    exact absurd h (not_or.2 hother)
  · rfl

theorem state_unauthorizedEnvelope (reason : ReasonCode) (now : U64)
    (h : old.state = .revokePending ∨ old.state = .revoked) :
    (unauthorizedEnvelope old reason now).state = old.state := by
  unfold unauthorizedEnvelope
  obtain h | h := h <;> rw [h] <;> rfl

theorem state_plannedEnvelope (plan : EffectivePlan) :
    (plannedEnvelope old plan).state = old.state := by
  unfold plannedEnvelope
  split <;> rfl

theorem state_lateEnvelope (reason : ReasonCode) (effect : Bool) (now : U64) :
    (lateEnvelope old reason effect now).state =
      if effect && old.state ≠ .revoked then .revokePending else old.state := by
  unfold lateEnvelope
  cases effect with
  | false => rfl
  | true =>
    by_cases h : old.state = .revoked
    · simp only [h, Bool.not_true, Bool.false_eq_true, if_false, if_true, ne_eq, not_true_eq_false,
        decide_false, Bool.and_false]
    · simp only [h, Bool.not_true, Bool.false_eq_true, if_false, ne_eq, not_false_eq_true,
        decide_true, Bool.and_true, if_true]

end RateGovernor.Dynamics.States
