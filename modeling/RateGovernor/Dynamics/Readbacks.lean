import RateGovernor.Dynamics.Bindings

namespace RateGovernor.Dynamics.Readbacks

open Model.CheckedMath Model.Reason Model.Envelope Model.EngineState Model.Calls Model.Completion
open Model.Maintenance Bindings

def Answered (verification : VerificationOutcome) : Prop :=
  verification.status ≠ .unsupported ∧ verification.status ≠ .failed

def Exact (rate burst : U64) (verification : VerificationOutcome) : Prop :=
  verification.observedRateUps = rate ∧ verification.observedBurstTokens = burst

def floorOf (envelope : RateEnvelope) : U64 :=
  if envelope.hasPlan then envelope.plan.floorUps else 0

def Claims (envelope : RateEnvelope) (verification : VerificationOutcome) : Prop :=
  envelope.appliedRateUps = verification.observedRateUps ∧
    envelope.appliedBurstTokens = verification.observedBurstTokens

section Apply

inductive JudgedApply (request : ApplyRequest) (verification : VerificationOutcome)
    (old new : RateEnvelope) : Prop
  | unconfirmed (silent : Answered verification → verification.observedPresent = false)
      (state : new.state = .degraded) (doubted : new.requiresRevalidation = true)
      (unverified : new.effectVerified = false)
  | exact (answered : Answered verification) (present : verification.observedPresent = true)
      (exact : Exact request.rateUps request.burstTokens verification)
      (claims : Claims new verification) (state : new.state = .applied)
      (trusted : new.requiresRevalidation = false) (verified : new.effectVerified = true)
  | overDelivered (answered : Answered verification) (present : verification.observedPresent = true)
      (exceeds : request.rateUps < verification.observedRateUps) (state : new.state = .revokePending)
      (doubted : new.requiresRevalidation = true) (unverified : new.effectVerified = false)
  | under (answered : Answered verification) (present : verification.observedPresent = true)
      (inexact : ¬ Exact request.rateUps request.burstTokens verification)
      (under : verification.observedRateUps ≤ request.rateUps)
      (floor : floorOf old ≤ verification.observedRateUps)
      (claims : Claims new verification) (state : new.state = .degraded)
      (trusted : new.requiresRevalidation = false) (verified : new.effectVerified = true)
  | below (answered : Answered verification) (present : verification.observedPresent = true)
      (inexact : ¬ Exact request.rateUps request.burstTokens verification)
      (under : verification.observedRateUps ≤ request.rateUps)
      (floor : verification.observedRateUps < floorOf old)
      (claims : Claims new verification) (state : new.state = .revokePending)
      (doubted : new.requiresRevalidation = true) (verified : new.effectVerified = true)

theorem judgedApply (engine : Engine) (old : RateEnvelope) (attempt : EnforcementAttempt)
    (request : ApplyRequest) (verification : VerificationOutcome) (now : U64) :
    JudgedApply request verification old
      (judgeApply engine old attempt request verification now).envelope := by
  unfold judgeApply
  simp only
  split
  · next h => exact .unconfirmed (fun ha ↦ absurd h ha.1) rfl rfl rfl
  · next hsupported =>
    split
    · next h => exact .unconfirmed (fun ha ↦ absurd h ha.2) rfl rfl rfl
    · next hworked =>
      have hanswered : Answered verification := ⟨hsupported, hworked⟩
      split
      · next h => exact .unconfirmed (fun _ ↦ by simpa using h) rfl rfl rfl
      · next hpresent =>
        have hpresent : verification.observedPresent = true := by simpa using hpresent
        split
        · next h =>
          exact .exact hanswered hpresent (by simpa [Exact] using h) ⟨rfl, rfl⟩ rfl rfl rfl
        · next hinexact =>
          have hinexact : ¬ Exact request.rateUps request.burstTokens verification := by
            simpa [Exact] using hinexact
          split
          · next h => exact .overDelivered hanswered hpresent h rfl rfl rfl
          · next hunder =>
            have hunder : verification.observedRateUps ≤ request.rateUps := UInt64.not_lt.1 hunder
            rw [← floorOf]
            by_cases hfloor : floorOf old ≤ verification.observedRateUps
            · rw [if_pos hfloor]
              exact .under hanswered hpresent hinexact hunder hfloor ⟨rfl, rfl⟩ rfl rfl rfl
            · rw [if_neg hfloor]
              exact .below hanswered hpresent hinexact hunder (UInt64.not_le.1 hfloor) ⟨rfl, rfl⟩
                rfl rfl rfl

end Apply

section Revalidation

/-- The four ways the readback of a revalidation is judged. -/
inductive JudgedRevalidation (probe : Probe) (verification : VerificationOutcome)
    (old new : RateEnvelope) : Prop
  | unknown (silent : ¬ Answered verification) (state : new.state = old.state)
      (doubted : new.requiresRevalidation = true) (unverified : new.effectVerified = false)
  | absent (answered : Answered verification) (absent : verification.observedPresent = false)
      (state : new.state = .authorized) (trusted : new.requiresRevalidation = false)
      (unverified : new.effectVerified = false)
  | exact (answered : Answered verification) (present : verification.observedPresent = true)
      (exact : Exact probe.expectedRate probe.expectedBurst verification)
      (claims : Claims new verification) (state : new.state = .applied)
      (trusted : new.requiresRevalidation = false) (verified : new.effectVerified = true)
  | deviating (answered : Answered verification) (present : verification.observedPresent = true)
      (inexact : ¬ Exact probe.expectedRate probe.expectedBurst verification)
      (state : new.state = .revokePending ∨ new.state = .degraded)
      (doubted : new.requiresRevalidation = true) (unverified : new.effectVerified = false)

theorem judgedRevalidation (sweep : Sweep) (probe : Probe) (old : RateEnvelope)
    (verification : VerificationOutcome) (now : U64) :
    JudgedRevalidation probe verification old
      (judgeRevalidation sweep probe old verification now).envelope := by
  unfold judgeRevalidation
  simp only
  split
  · next h =>
    refine .unknown (fun ha ↦ ?_) rfl rfl rfl
    simp only [Bool.or_eq_true, decide_eq_true_eq] at h
    exact h.elim ha.1 ha.2
  · next h =>
    have hanswered : Answered verification := by
      simpa only [Answered, Bool.or_eq_true, decide_eq_true_eq, not_or] using h
    split
    · next habsent => exact .absent hanswered (by simpa using habsent) rfl rfl rfl
    · next hpresent =>
      have hpresent : verification.observedPresent = true := by simpa using hpresent
      split
      · next h =>
        exact .exact hanswered hpresent (by simpa [Exact] using h) ⟨rfl, rfl⟩ rfl rfl rfl
      · next hinexact =>
        refine .deviating hanswered hpresent (by simpa [Exact] using hinexact) ?_ rfl rfl
        simp only
        split
        · exact .inl rfl
        · exact .inr rfl

end Revalidation

end RateGovernor.Dynamics.Readbacks
