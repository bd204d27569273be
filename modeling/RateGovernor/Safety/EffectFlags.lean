import RateGovernor.Dynamics.Flags

namespace RateGovernor.Safety.EffectFlags

open Model.CheckedMath Model.Reason Model.Envelope Model.EngineState Model.Calls Model.Authority
open Model.Lifecycle Model.Completion Model.Revocation Model.Maintenance Model.Execution
open Foundation.KeyedTable Foundation.GuardedRun Dynamics.Sections Dynamics.Turns Dynamics.Evolution
open Dynamics.States Dynamics.Readbacks Dynamics.Start Dynamics.Flags

variable {s : System} {event : Event} {action : Action}
  {envelope old : RateEnvelope} {now : U64}

section Applied

def Verified (envelope : RateEnvelope) : Prop :=
  envelope.state = .applied → envelope.effectVerified = true

/-- The commit of a revalidation that got no answer about an applied envelope. -/
inductive QuestionsApplied (s : System) : Event → Prop
  | mk {i : ℕ} {sweep : Sweep} {probe : Probe} {verification : VerificationOutcome}
      {now clock : U64} {envelope : RateEnvelope}
      (revalidating : Revalidating s i sweep probe verification now clock envelope)
      (applied : envelope.state = .applied) (silent : ¬ Answered verification) :
      QuestionsApplied s (.publish i clock)

theorem Verified.of_state (h : envelope.state ≠ .applied) : Verified envelope :=
  fun happlied ↦ absurd happlied h

theorem Verified.keep (h : Verified old) (hflag : envelope.effectVerified = old.effectVerified)
    (hstate : envelope.state = .applied → old.state = .applied) : Verified envelope :=
  fun happlied ↦ hflag.trans (h (hstate happlied))

theorem verified_of_stages {type} (h : Stages s event (.envelope type envelope))
    (hold : ∀ k old, s.engine.tables.envelopes.find k = some old → Verified old)
    (hok : ¬ QuestionsApplied s event) : Verified envelope := by
  cases h with
  | opened => exact .of_state nofun
  | epochDemoted _ hdemoted => exact .of_state (withdrawn_of_epochDemoted hdemoted).2
  | unauthorized hfound =>
    have hflags := flags_unauthorizedEnvelope
    exact (hold _ _ hfound).keep (hflags _ _ _).1.1 (hflags _ _ _).2
  | authorized hfound =>
    have hflags := flags_authorizedEnvelope
    exact (hold _ _ hfound).keep (hflags _ _ _).1.1 (hflags _ _ _).2
  | denied admitted => exact (hold _ _ admitted.found).keep rfl id
  | planned admitted =>
    refine (hold _ _ admitted.found).keep (flags_plannedEnvelope _ _).1 ?_
    rw [state_plannedEnvelope]
    exact id
  | dispatching => exact .of_state nofun
  | lateFinishEnvelope finishing =>
    obtain ⟨-, hstate⟩ | ⟨hflags, hstate⟩ := flags_lateEnvelope _ _ _ _
    · exact .of_state hstate
    · exact (hold _ _ finishing.storedEnvelope).keep hflags.1 (hstate.symm.trans ·)
  | refusedApplyEnvelope => exact .of_state nofun
  | latePublishEnvelope publishing =>
    obtain ⟨-, hstate⟩ | ⟨hflags, hstate⟩ := flags_lateEnvelope _ _ _ _
    · exact .of_state hstate
    · exact (hold _ _ publishing.storedEnvelope).keep hflags.1 (hstate.symm.trans ·)
  | judgedApplyEnvelope =>
    cases judgedApply _ _ _ _ _ _ with
    | unconfirmed _ hstate => exact .of_state (by rw [hstate]; exact nofun)
    | exact _ _ _ _ _ _ hverified => exact fun _ ↦ hverified
    | overDelivered _ _ _ hstate => exact .of_state (by rw [hstate]; exact nofun)
    | under _ _ _ _ _ _ _ _ hverified => exact fun _ ↦ hverified
    | below _ _ _ _ _ _ _ _ hverified => exact fun _ ↦ hverified
  | revoking => exact .of_state nofun
  | refusedRevokeEnvelope => exact .of_state nofun
  | judgedRevokeEnvelope => exact .of_state (flags_judgedRevokeEnvelope _ _ _ _).2
  | abandonedEnvelope => exact .of_state nofun
  | consumed hfound => exact (hold _ _ hfound).keep rfl id
  | sessionLost _ hlost => exact .of_state (withdrawn_of_sessionLost hlost).2
  | tickLost _ hlost => exact .of_state (withdrawn_of_sessionLost hlost).2
  | tickMaintained hfound =>
    obtain ⟨-, hstate⟩ | ⟨hflags, hstate⟩ := flags_maintained _ _ _
    · exact .of_state hstate
    · refine (hold _ _ hfound).keep hflags.1 fun happlied ↦ ?_
      obtain hstate | hstate := hstate
      · exact hstate.symm.trans happlied
      · rw [hstate] at happlied
        cases happlied
  | tickExpiredEnvelope => exact .of_state nofun
  | revalidated revalidating =>
    cases judgedRevalidation _ _ _ _ _ with
    | unknown hsilent hstate =>
      intro happlied
      rw [hstate] at happlied
      exact absurd (.mk revalidating happlied hsilent) hok
    | absent _ _ hstate => exact .of_state (by rw [hstate]; exact nofun)
    | exact _ _ _ _ _ _ hverified => exact fun _ ↦ hverified
    | deviating _ _ _ hstate =>
      exact .of_state (by obtain hstate | hstate := hstate <;> rw [hstate] <;> exact nofun)
  | shutdownEnvelope => exact .of_state nofun

/-- As long as no unanswered revalidation of an applied envelope is committed, applied means
verified. -/
theorem verified_of_applied {start : System} {k : U64} (hfresh : Fresh start)
    (hrun : Reaches step
      (fun s action ↦ commits s action = true → ¬ QuestionsApplied s action.event) start s)
    (hfind : s.engine.tables.envelopes.find k = some envelope) (h : envelope.state = .applied) :
    envelope.effectVerified = true :=
  envelopes_of_reaches verified_of_stages hfresh hrun k envelope hfind h

section Sample

def impatientStart : System :=
  { engine := (construct { durability := .none, revalidateIntervalNs := 10 }
      (some ⟨sampleBackend⟩) { epoch := ⟨1⟩, boot := ⟨1⟩ } none []).1 }

theorem fresh_impatientStart : Fresh impatientStart := ⟨_, _, _, _, _, rfl⟩

def unansweredSample : List Action :=
  applySample ++ [⟨.revalidateAll actor 20, []⟩, ⟨.revalidateNext 0 20 {}, []⟩,
    ⟨.readBack 0 { status := .failed } 20, []⟩, ⟨.publish 0 20, []⟩]

def noRecording (s : System) (_ : Action) : Prop := s.calls.all fun
  | .recording .. => false
  | _ => true

instance (s : System) (action : Action) : Decidable (noRecording s action) :=
  inferInstanceAs (Decidable (_ = true))

theorem not_questionsApplied_of_noRecording (s : System) (action : Action)
    (h : noRecording s action) : commits s action = true → ¬ QuestionsApplied s action.event := by
  intro _
  generalize action.event = event
  rintro ⟨revalidating, -, -⟩
  have hcall := List.all_eq_true.1 h _ (List.mem_of_getElem? revalidating.call)
  cases hcall

theorem verified_after_applySample : ∃ s envelope, run step sampleStart applySample = some s ∧
    s.engine.tables.envelopes.find 1 = some envelope ∧ envelope.state = .applied ∧
    envelope.effectVerified = true := by
  obtain ⟨s, envelope, hrun, hfind, happlied⟩ : ∃ s envelope,
      run step sampleStart applySample = some s ∧
      s.engine.tables.envelopes.find 1 = some envelope ∧
      decide (envelope.state = .applied) = true := of_observe (by decide +kernel)
  have hguarded : Guarded step noRecording sampleStart applySample := by decide +kernel
  have hreaches := (reaches_of_run hguarded hrun).mono not_questionsApplied_of_noRecording
  exact ⟨s, envelope, hrun, hfind, of_decide_eq_true happlied,
    verified_of_applied fresh_sampleStart hreaches hfind (of_decide_eq_true happlied)⟩

/-- The unanswered revalidation withdraws the effect and leaves the envelope applied. -/
theorem applied_unverified : ¬ ∀ s k envelope, Reachable s →
    s.engine.tables.envelopes.find k = some envelope → envelope.state = .applied →
    envelope.effectVerified = true := by
  intro h
  obtain ⟨s, envelope, hrun, hfind, hleft⟩ : ∃ s envelope,
      run step impatientStart unansweredSample = some s ∧
      s.engine.tables.envelopes.find 1 = some envelope ∧
      (decide (envelope.state = .applied) && !envelope.effectVerified) = true :=
    of_observe (by decide +kernel)
  simp only [Bool.and_eq_true, decide_eq_true_eq, Bool.not_eq_true'] at hleft
  have hverified := h s 1 envelope (reachable_of_run fresh_impatientStart hrun) hfind hleft.1
  rw [hleft.2] at hverified
  cases hverified

end Sample

end Applied

section Doubted

def Unpresented (envelope : RateEnvelope) : Prop :=
  envelope.requiresRevalidation = true → envelope.effectVerified = false

/-- The commit of an apply whose readback shows less than the plan's floor. -/
inductive DeliversBelowFloor (s : System) : Event → Prop
  | mk {i : ℕ} {task : ApplyTask} {now clock : U64} {backend : Option Backend}
      {verification : VerificationOutcome} {attempt : EnforcementAttempt} {envelope : RateEnvelope}
      (judged : ApplyJudged s i task now backend verification attempt envelope)
      (answered : Answered verification) (present : verification.observedPresent = true)
      (inexact : ¬ Exact task.request.rateUps task.request.burstTokens verification)
      (under : verification.observedRateUps ≤ task.request.rateUps)
      (floor : verification.observedRateUps < floorOf envelope) :
      DeliversBelowFloor s (.publish i clock)

theorem Unpresented.of_unverified (h : envelope.effectVerified = false) : Unpresented envelope :=
  fun _ ↦ h

theorem Unpresented.keep (h : Unpresented old) (hflags : SameFlags old envelope) :
    Unpresented envelope := by
  intro hdoubted
  rw [hflags.1]
  exact h (hflags.2.symm.trans hdoubted)

theorem unpresented_of_stages {type} (h : Stages s event (.envelope type envelope))
    (hold : ∀ k old, s.engine.tables.envelopes.find k = some old → Unpresented old)
    (hok : ¬ DeliversBelowFloor s event) : Unpresented envelope := by
  cases h with
  | opened => exact .of_unverified rfl
  | epochDemoted _ hdemoted => exact .of_unverified (withdrawn_of_epochDemoted hdemoted).1
  | unauthorized hfound => exact (hold _ _ hfound).keep (flags_unauthorizedEnvelope _ _ _).1
  | authorized hfound =>
    intro hdoubted
    obtain ⟨⟨hverified, hkept | hcleared⟩, -⟩ := flags_authorizedEnvelope _ _ _
    · rw [hverified]
      exact hold _ _ hfound (hkept.symm.trans hdoubted)
    · rw [hcleared] at hdoubted
      cases hdoubted
  | denied admitted => exact (hold _ _ admitted.found).keep ⟨rfl, rfl⟩
  | planned admitted => exact (hold _ _ admitted.found).keep (flags_plannedEnvelope _ _)
  | dispatching admitted =>
    have hflags := flags_plannedEnvelope
    exact (hold _ _ admitted.found).keep (hflags _ _)
  | lateFinishEnvelope finishing =>
    obtain ⟨hverified, -⟩ | ⟨hflags, -⟩ := flags_lateEnvelope _ _ _ _
    · exact .of_unverified hverified
    · exact (hold _ _ finishing.storedEnvelope).keep hflags
  | refusedApplyEnvelope => exact .of_unverified rfl
  | latePublishEnvelope publishing =>
    obtain ⟨hverified, -⟩ | ⟨hflags, -⟩ := flags_lateEnvelope _ _ _ _
    · exact .of_unverified hverified
    · exact (hold _ _ publishing.storedEnvelope).keep hflags
  | judgedApplyEnvelope judged =>
    cases judgedApply _ _ _ _ _ _ with
    | unconfirmed _ _ _ hverified => exact .of_unverified hverified
    | exact _ _ _ _ _ htrusted => exact fun hdoubted ↦ absurd (htrusted.symm.trans hdoubted) nofun
    | overDelivered _ _ _ _ _ hverified => exact .of_unverified hverified
    | under _ _ _ _ _ _ _ htrusted =>
      exact fun hdoubted ↦ absurd (htrusted.symm.trans hdoubted) nofun
    | below hanswered hpresent hinexact hunder hfloor =>
      exact absurd (.mk judged hanswered hpresent hinexact hunder hfloor) hok
  | revoking admitted => exact (hold _ _ admitted.found).keep ⟨rfl, rfl⟩
  | refusedRevokeEnvelope => exact .of_unverified rfl
  | judgedRevokeEnvelope => exact .of_unverified (flags_judgedRevokeEnvelope _ _ _ _).1
  | abandonedEnvelope => exact .of_unverified rfl
  | consumed hfound => exact (hold _ _ hfound).keep ⟨rfl, rfl⟩
  | sessionLost _ hlost => exact .of_unverified (withdrawn_of_sessionLost hlost).1
  | tickLost _ hlost => exact .of_unverified (withdrawn_of_sessionLost hlost).1
  | tickMaintained hfound =>
    obtain ⟨hverified, -⟩ | ⟨hflags, -⟩ := flags_maintained _ _ _
    · exact .of_unverified hverified
    · exact (hold _ _ hfound).keep hflags
  | tickExpiredEnvelope => exact .of_unverified rfl
  | revalidated =>
    cases judgedRevalidation _ _ _ _ _ with
    | unknown _ _ _ hverified => exact .of_unverified hverified
    | absent _ _ _ _ hverified => exact .of_unverified hverified
    | exact _ _ _ _ _ htrusted => exact fun hdoubted ↦ absurd (htrusted.symm.trans hdoubted) nofun
    | deviating _ _ _ _ _ hverified => exact .of_unverified hverified
  | shutdownEnvelope => exact .of_unverified rfl

/-- As long as no readback of an apply below its floor is committed, a questioned effect is never shown as
verified. -/
theorem unverified_of_doubted {start : System} {k : U64} (hfresh : Fresh start)
    (hrun : Reaches step
      (fun s action ↦ commits s action = true → ¬ DeliversBelowFloor s action.event) start s)
    (hfind : s.engine.tables.envelopes.find k = some envelope)
    (h : envelope.requiresRevalidation = true) : envelope.effectVerified = false :=
  envelopes_of_reaches unpresented_of_stages hfresh hrun k envelope hfind h

section Sample

def flooredPolicy : Model.Entities.Policy := { samplePolicy with floorUps := 40 }

def registerFloored : List Action :=
  [⟨.putFlow sampleFlow, []⟩, ⟨.putGrant sampleGrant, []⟩, ⟨.putResource sampleResource, []⟩,
    ⟨.putPolicy flooredPolicy, []⟩, ⟨.putBackend sampleBackend, []⟩]

def belowFloorSample : List Action :=
  registerFloored ++ [⟨.openEnvelope sampleRequest actor 5, []⟩, ⟨.apply ⟨1⟩ actor 5 {}, []⟩,
    ⟨.dispatched 0 { status := .completed }, []⟩, ⟨.readClock 0 6, []⟩, ⟨.finish 0, []⟩,
    ⟨.readBack 0 { samplePresent with observedRateUps := 10 } 6, []⟩, ⟨.publish 0 6, []⟩]

def noPublishing (s : System) (_ : Action) : Prop := s.calls.all fun
  | .applyPublishing .. => false
  | _ => true

instance (s : System) (action : Action) : Decidable (noPublishing s action) :=
  inferInstanceAs (Decidable (_ = true))

theorem not_deliversBelowFloor_of_noPublishing (s : System) (action : Action)
    (h : noPublishing s action) :
    commits s action = true → ¬ DeliversBelowFloor s action.event := by
  intro _
  generalize action.event = event
  rintro ⟨judged, -, -, -, -, -⟩
  have hcall := List.all_eq_true.1 h _ (List.mem_of_getElem? judged.call)
  cases hcall

/-- The session is lost while the sample apply is in flight. -/
def lostSample : List Action := dispatchSample ++ [⟨.markSessionLost actor, []⟩]

theorem unverified_after_lostSample : ∃ s envelope, run step sampleStart lostSample = some s ∧
    s.engine.tables.envelopes.find 1 = some envelope ∧ envelope.requiresRevalidation = true ∧
    envelope.effectVerified = false := by
  obtain ⟨s, envelope, hrun, hfind, hdoubted⟩ : ∃ s envelope,
      run step sampleStart lostSample = some s ∧
      s.engine.tables.envelopes.find 1 = some envelope ∧
      envelope.requiresRevalidation = true := of_observe (by decide +kernel)
  have hguarded : Guarded step noPublishing sampleStart lostSample := by decide +kernel
  have hreaches := (reaches_of_run hguarded hrun).mono not_deliversBelowFloor_of_noPublishing
  exact ⟨s, envelope, hrun, hfind, hdoubted,
    unverified_of_doubted fresh_sampleStart hreaches hfind hdoubted⟩

/-- A delivery below the floor is questioned and shown as verified at once. -/
theorem doubted_verified : ¬ ∀ s k envelope, Reachable s →
    s.engine.tables.envelopes.find k = some envelope → envelope.requiresRevalidation = true →
    envelope.effectVerified = false := by
  intro h
  obtain ⟨s, envelope, hrun, hfind, hleft⟩ : ∃ s envelope,
      run step sampleStart belowFloorSample = some s ∧
      s.engine.tables.envelopes.find 1 = some envelope ∧
      (envelope.requiresRevalidation && envelope.effectVerified) = true :=
    of_observe (by decide +kernel)
  simp only [Bool.and_eq_true] at hleft
  have hunverified := h s 1 envelope (reachable_of_run fresh_sampleStart hrun) hfind hleft.1
  rw [hleft.2] at hunverified
  cases hunverified

end Sample

end Doubted

end RateGovernor.Safety.EffectFlags
