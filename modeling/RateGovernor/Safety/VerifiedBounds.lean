import RateGovernor.Dynamics.Dispatching
import RateGovernor.Dynamics.Flags
import RateGovernor.Dynamics.Plans
import RateGovernor.Safety.Enforceable

namespace RateGovernor.Safety.VerifiedBounds

open Model.CheckedMath Model.Reason Model.Entities Model.Envelope Model.EngineState Model.Calls
open Model.Authority Model.Lifecycle Model.Completion Model.Revocation Model.Maintenance
open Model.Execution Foundation.KeyedTable Foundation.GuardedRun Dynamics.Sections Dynamics.Turns
open Dynamics.Evolution Dynamics.Bindings Dynamics.Readbacks Dynamics.Plans Dynamics.Issue
open Dynamics.Dispatching Dynamics.Start Dynamics.Flags Coverage Enforceable

variable {s t : System} {event : Event} {action : Action} {tables : Tables}
  {old new envelope : RateEnvelope} {k rate burst now : U64}

def Bounded (envelope : RateEnvelope) : Prop :=
  envelope.effectVerified = true → envelope.appliedRateUps ≤ envelope.plan.ceilingUps ∧
    envelope.appliedBurstTokens ≤ envelope.plan.burstTokens

/-- The commit of an apply whose readback shows no more rate than was asked for, but more burst. -/
inductive ExceedsBurst (s : System) : Event → Prop
  | mk {i : ℕ} {task : ApplyTask} {now clock : U64} {backend : Option Backend}
      {verification : VerificationOutcome} {attempt : EnforcementAttempt} {envelope : RateEnvelope}
      (judged : ApplyJudged s i task now backend verification attempt envelope)
      (answered : Answered verification) (present : verification.observedPresent = true)
      (under : verification.observedRateUps ≤ task.request.rateUps)
      (exceeds : task.request.burstTokens < verification.observedBurstTokens) :
      ExceedsBurst s (.publish i clock)

section Plans

def PlanGrows (old new : RateEnvelope) : Prop :=
  old.plan.ceilingUps ≤ new.plan.ceilingUps ∧ old.plan.burstTokens ≤ new.plan.burstTokens

theorem PlanGrows.of_plan (h : new.plan = old.plan) : PlanGrows old new := by
  unfold PlanGrows
  rw [h]
  exact ⟨UInt64.le_refl _, UInt64.le_refl _⟩

theorem planGrows_of_replans (hsound : Sound s.engine.tables old) (h : Replans s old new) :
    PlanGrows old new := by
  obtain ⟨hplan, -⟩ | ⟨hauthorized, hplan, -⟩ := h
  · exact .of_plan hplan
  · unfold PlanGrows
    rw [hplan]
    exact hsound.plan.le_planNow hauthorized

theorem planGrows_step (hinv : Inv s) (hstep : step s action = some t)
    (hfind : s.engine.tables.envelopes.find k = some old)
    (hfind' : t.engine.tables.envelopes.find k = some new) : PlanGrows old new := by
  obtain rfl | ⟨type, hstages, htype⟩ := replaced_step hinv.ids hstep hfind hfind'
  · exact .of_plan rfl
  · have hsound := hinv.envelopes k old hfind
    rw [← Registry.key_of_find hfind'] at hfind
    exact planGrows_of_replans hsound (replans_of_stages hstages htype hfind)

end Plans

section Calls

def AllowedAt (tables : Tables) (k rate burst : U64) : Prop :=
  ∃ envelope, tables.envelopes.find k = some envelope ∧ rate ≤ envelope.plan.ceilingUps ∧
    burst ≤ envelope.plan.burstTokens

def CallAllowed (tables : Tables) : Call → Prop
  | .applying task _ | .applyReported task _ | .applyFinishing task _ _
  | .applyVerifying task _ _ | .applyPublishing task _ _ _ =>
    AllowedAt tables task.envelope.value task.request.rateUps task.request.burstTokens
  | .probing _ probe | .recording _ probe _ _ =>
    AllowedAt tables probe.id.value probe.expectedRate probe.expectedBurst
  | _ => True

theorem AllowedAt.step (hinv : Inv s) (hstep : step s action = some t)
    (h : AllowedAt s.engine.tables k rate burst) : AllowedAt t.engine.tables k rate burst := by
  obtain ⟨envelope, hfind, hrate, hburst⟩ := h
  obtain ⟨envelope', hfind'⟩ := envelope_persists hstep hfind
  obtain ⟨hceiling, htokens⟩ := planGrows_step hinv hstep hfind hfind'
  exact ⟨envelope', hfind', UInt64.le_trans hrate hceiling, UInt64.le_trans hburst htokens⟩

theorem allowed_of_begins {status} {call : Call}
    (h : ∀ call ∈ s.calls, CallAllowed s.engine.tables call)
    (hbegins : Begins s event status call)
    (hmoved : ∀ task backend, call ≠ .applying task backend) : CallAllowed s.engine.tables call := by
  have stored {k : U64} {envelope : RateEnvelope}
      (hfind : s.engine.tables.envelopes.find k = some envelope) :
      AllowedAt s.engine.tables k envelope.plan.ceilingUps envelope.plan.burstTokens :=
    ⟨envelope, hfind, UInt64.le_refl _, UInt64.le_refl _⟩
  have moved {i : ℕ} {call : Call} (hfound : s.calls[i]? = some call) :
      CallAllowed s.engine.tables call :=
    h _ (List.mem_of_getElem? hfound)
  cases hbegins with
  | applying => exact absurd rfl (hmoved _ _)
  | applyAnswered hfound =>
    have hcall := moved hfound
    exact hcall
  | applyCompleted _ _ hnamed => exact stored hnamed
  | applyTimed hfound =>
    have hcall := moved hfound
    exact hcall
  | applyAcknowledged accepted =>
    have hcall := moved accepted.call
    exact hcall
  | applyVerified hfound =>
    have hcall := moved hfound
    exact hcall
  | probing _ _ hcandidate =>
    rw [← Registry.key_of_find hcandidate] at hcandidate
    exact stored hcandidate
  | probed hfound =>
    have hcall := moved hfound
    exact hcall
  | _ => trivial

theorem calls_allowed_step (hinv : Inv s) (h : ∀ call ∈ s.calls, CallAllowed s.engine.tables call)
    (hstep : step s action = some t) : ∀ call ∈ t.calls, CallAllowed t.engine.tables call := by
  intro call hmem
  have keep (hallowed : CallAllowed s.engine.tables call) : CallAllowed t.engine.tables call := by
    cases call with
    | applying | applyReported | applyFinishing | applyVerifying | applyPublishing =>
      exact AllowedAt.step hinv hstep hallowed
    | probing | recording => exact AllowedAt.step hinv hstep hallowed
    | _ => trivial
  by_cases hold : call ∈ s.calls
  · exact keep (h call hold)
  · by_cases happlying : ∃ task backend, call = .applying task backend
    · obtain ⟨task, backend, rfl⟩ := happlying
      obtain ⟨envelope, attempt, hfind, hdispatches⟩ := dispatches_of_begun hstep hmem hold
      refine ⟨envelope, hfind, ?_⟩
      rw [hdispatches.request]
      exact ⟨UInt64.le_refl _, UInt64.le_refl _⟩
    · obtain ⟨status, hbegins⟩ := (calls_step hstep hmem).resolve_left hold
      exact keep (allowed_of_begins h hbegins fun task backend heq ↦ happlying ⟨task, backend, heq⟩)

end Calls

section Envelopes

theorem Bounded.of_unverified (h : new.effectVerified = false) : Bounded new := by
  intro hverified
  rw [h] at hverified
  cases hverified

theorem Bounded.keep (h : Bounded old) (hgrows : PlanGrows old new)
    (hflag : new.effectVerified = old.effectVerified)
    (hrate : new.appliedRateUps = old.appliedRateUps)
    (hburst : new.appliedBurstTokens = old.appliedBurstTokens) : Bounded new := by
  intro hverified
  obtain ⟨hceiling, htokens⟩ := h (hflag.symm.trans hverified)
  rw [hrate, hburst]
  exact ⟨UInt64.le_trans hceiling hgrows.1, UInt64.le_trans htokens hgrows.2⟩

theorem applied_authorizedEnvelope (old : RateEnvelope) (plan) (now : U64) :
    (authorizedEnvelope old plan now).appliedRateUps = old.appliedRateUps ∧
      (authorizedEnvelope old plan now).appliedBurstTokens = old.appliedBurstTokens := by
  unfold authorizedEnvelope
  simp only
  repeat' split
  all_goals exact ⟨rfl, rfl⟩

theorem applied_plannedEnvelope (old : RateEnvelope) (plan) :
    (plannedEnvelope old plan).appliedRateUps = old.appliedRateUps ∧
      (plannedEnvelope old plan).appliedBurstTokens = old.appliedBurstTokens := by
  unfold plannedEnvelope
  split <;> exact ⟨rfl, rfl⟩

theorem bounded_lateEnvelope (h : Bounded old) (reason : ReasonCode) (effect : Bool) (now : U64) :
    Bounded (lateEnvelope old reason effect now) := by
  unfold lateEnvelope
  simp only
  split
  · exact h
  · split <;> exact .of_unverified rfl

theorem bounded_maintained (h : Bounded old) (tables : Tables) (now : U64) :
    Bounded (maintained tables old now) := by
  have hrefilled : Bounded (refillStage old now).1 := by
    unfold refillStage
    split <;> exact h
  have hcooled : Bounded (cooldownStage (refillStage old now).1 now) := by
    unfold cooldownStage
    split <;> exact hrefilled
  unfold maintained staleStage
  simp only
  split
  · exact hcooled
  · exact .of_unverified rfl

theorem bounded_of_stages {type} (hinv : Inv s)
    (hold : ∀ k old, s.engine.tables.envelopes.find k = some old → Bounded old)
    (hcalls : ∀ call ∈ s.calls, CallAllowed s.engine.tables call) (hok : ¬ ExceedsBurst s event)
    (h : Stages s event (.envelope type new)) : Bounded new := by
  cases h with
  | opened => exact .of_unverified rfl
  | epochDemoted _ hdemoted => exact .of_unverified (withdrawn_of_epochDemoted hdemoted).1
  | unauthorized hfound => exact (hold _ _ hfound).keep (.of_plan rfl) rfl rfl rfl
  | authorized hfound hplan =>
    exact (hold _ _ hfound).keep
      (planGrows_of_replans (hinv.envelopes _ _ hfound) (replans_authorizedEnvelope hplan))
      (flags_authorizedEnvelope _ _ _).1.1 (applied_authorizedEnvelope _ _ _).1
      (applied_authorizedEnvelope _ _ _).2
  | denied admitted => exact (hold _ _ admitted.found).keep (.of_plan rfl) rfl rfl rfl
  | planned admitted hplan =>
    exact (hold _ _ admitted.found).keep
      (planGrows_of_replans (hinv.envelopes _ _ admitted.found) (replans_plannedEnvelope hplan))
      (flags_plannedEnvelope _ _).1 (applied_plannedEnvelope _ _).1 (applied_plannedEnvelope _ _).2
  | dispatching admitted hplan =>
    have hgrows := planGrows_of_replans (hinv.envelopes _ _ admitted.found)
      (replans_plannedEnvelope hplan)
    exact (hold _ _ admitted.found).keep hgrows (flags_plannedEnvelope _ _).1
      (applied_plannedEnvelope _ _).1 (applied_plannedEnvelope _ _).2
  | lateFinishEnvelope finishing =>
    exact bounded_lateEnvelope (hold _ _ finishing.storedEnvelope) _ _ _
  | refusedApplyEnvelope => exact .of_unverified rfl
  | latePublishEnvelope publishing =>
    exact bounded_lateEnvelope (hold _ _ publishing.storedEnvelope) _ _ _
  | judgedApplyEnvelope judged =>
    obtain ⟨stored, hfind, hceiling, htokens⟩ := hcalls _ (List.mem_of_getElem? judged.call)
    rw [judged.storedEnvelope] at hfind
    cases hfind
    cases judgedApply _ _ _ _ _ _ with
    | unconfirmed _ _ _ hunverified => exact .of_unverified hunverified
    | exact _ _ hexact hclaims =>
      intro _
      rw [hclaims.1, hclaims.2, hexact.1, hexact.2, (samePlan_judgeApply _ _ _ _ _ _).1]
      exact ⟨hceiling, htokens⟩
    | overDelivered _ _ _ _ _ hunverified => exact .of_unverified hunverified
    | under hanswered hpresent _ hunder _ hclaims =>
      intro _
      have hburst := UInt64.not_lt.1 fun hover ↦ hok (.mk judged hanswered hpresent hunder hover)
      rw [hclaims.1, hclaims.2, (samePlan_judgeApply _ _ _ _ _ _).1]
      exact ⟨UInt64.le_trans hunder hceiling, UInt64.le_trans hburst htokens⟩
    | below hanswered hpresent _ hunder _ hclaims =>
      intro _
      have hburst := UInt64.not_lt.1 fun hover ↦ hok (.mk judged hanswered hpresent hunder hover)
      rw [hclaims.1, hclaims.2, (samePlan_judgeApply _ _ _ _ _ _).1]
      exact ⟨UInt64.le_trans hunder hceiling, UInt64.le_trans hburst htokens⟩
  | revoking admitted => exact (hold _ _ admitted.found).keep (.of_plan rfl) rfl rfl rfl
  | refusedRevokeEnvelope => exact .of_unverified rfl
  | judgedRevokeEnvelope => exact .of_unverified (flags_judgedRevokeEnvelope _ _ _ _).1
  | abandonedEnvelope => exact .of_unverified rfl
  | consumed hfound => exact (hold _ _ hfound).keep (.of_plan rfl) rfl rfl rfl
  | sessionLost _ hlost => exact .of_unverified (withdrawn_of_sessionLost hlost).1
  | tickLost _ hlost => exact .of_unverified (withdrawn_of_sessionLost hlost).1
  | tickMaintained hfound => exact bounded_maintained (hold _ _ hfound) _ _
  | tickExpiredEnvelope => exact .of_unverified rfl
  | revalidated revalidating =>
    obtain ⟨stored, hfind, hceiling, htokens⟩ := hcalls _ (List.mem_of_getElem? revalidating.call)
    rw [revalidating.storedEnvelope] at hfind
    cases hfind
    cases judgedRevalidation _ _ _ _ _ with
    | unknown _ _ _ hunverified => exact .of_unverified hunverified
    | absent _ _ _ _ hunverified => exact .of_unverified hunverified
    | exact _ _ hexact hclaims =>
      intro _
      rw [hclaims.1, hclaims.2, hexact.1, hexact.2, (samePlan_judgeRevalidation _ _ _ _ _).1]
      exact ⟨hceiling, htokens⟩
    | deviating _ _ _ _ _ hunverified => exact .of_unverified hunverified
  | shutdownEnvelope => exact .of_unverified rfl

end Envelopes

structure WithinPlans (s : System) : Prop where
  covered : Inv s
  envelopes : ∀ k envelope, s.engine.tables.envelopes.find k = some envelope → Bounded envelope
  calls : ∀ call ∈ s.calls, CallAllowed s.engine.tables call

theorem withinPlans_of_fresh (h : Fresh s) : WithinPlans s where
  covered := inv_of_fresh h
  envelopes k envelope hfind := by
    rw [no_envelope_of_fresh h] at hfind
    cases hfind
  calls call hmem := by
    rw [(empty_of_fresh h).2] at hmem
    cases hmem

theorem withinPlans_step (h : WithinPlans s) (hwraps : ¬ Wraps s action.event)
    (hok : ¬ ExceedsBurst s action.event) (hstep : step s action = some t) : WithinPlans t where
  covered := inv_step h.covered hwraps hstep
  envelopes k envelope hfind := by
    obtain hkept | ⟨type, hstages⟩ := envelope_step hstep hfind
    · exact h.envelopes k envelope hkept
    · exact bounded_of_stages h.covered h.envelopes h.calls hok hstages
  calls := calls_allowed_step h.covered h.calls hstep

/-- As long as no generation wraps and no apply is read back with more burst than it asked for, a
verified effect is within the plan. -/
theorem bounded_of_verified {start : System} (hfresh : Fresh start)
    (hrun : Reaches step (fun s action ↦ ¬ Wraps s action.event ∧ ¬ ExceedsBurst s action.event)
      start s)
    (hfind : s.engine.tables.envelopes.find k = some envelope)
    (h : envelope.effectVerified = true) :
    envelope.appliedRateUps ≤ envelope.plan.ceilingUps ∧
      envelope.appliedBurstTokens ≤ envelope.plan.burstTokens := by
  have hinv : WithinPlans s := hrun.invariant (withinPlans_of_fresh hfresh)
    fun _ _ _ hinv hok hstep ↦ withinPlans_step hinv hok.1 hok.2 hstep
  exact hinv.envelopes k envelope hfind h

section Sample

/-- No generation is at its end, and no readback waits to be judged that shows more burst than was
asked for. -/
def Modest (s : System) (_ : Action) : Prop :=
  Headroom s.engine.tables ∧ s.calls.all fun
    | .applyPublishing task _ _ verification =>
      verification.observedBurstTokens ≤ task.request.burstTokens
    | _ => true

instance (s : System) (action : Action) : Decidable (Modest s action) :=
  inferInstanceAs (Decidable (_ ∧ _ = true))

theorem Modest.ok (s : System) (action : Action) (h : Modest s action) :
    ¬ Wraps s action.event ∧ ¬ ExceedsBurst s action.event := by
  refine ⟨h.1.not_wraps, ?_⟩
  generalize action.event = event
  rintro ⟨judged, -, -, -, hover⟩
  have hcall := List.all_eq_true.1 h.2 _ (List.mem_of_getElem? judged.call)
  exact UInt64.not_le.2 hover (of_decide_eq_true hcall)

theorem bounded_after_applySample : ∃ s envelope, run step sampleStart applySample = some s ∧
    s.engine.tables.envelopes.find 1 = some envelope ∧ envelope.effectVerified = true ∧
    envelope.appliedRateUps ≤ envelope.plan.ceilingUps ∧
      envelope.appliedBurstTokens ≤ envelope.plan.burstTokens := by
  obtain ⟨s, envelope, hrun, hfind, hverified⟩ : ∃ s envelope,
      run step sampleStart applySample = some s ∧
      s.engine.tables.envelopes.find 1 = some envelope ∧
      envelope.effectVerified = true := of_observe (by decide +kernel)
  have hguarded : Guarded step Modest sampleStart applySample := by decide +kernel
  exact ⟨s, envelope, hrun, hfind, hverified, bounded_of_verified fresh_sampleStart
    ((reaches_of_run hguarded hrun).mono Modest.ok) hfind hverified⟩

def burstySample : List Action :=
  dispatchSample ++ [⟨.dispatched 0 { status := .completed }, []⟩, ⟨.readClock 0 6, []⟩,
    ⟨.finish 0, []⟩,
    ⟨.readBack 0 { samplePresent with observedRateUps := 50, observedBurstTokens := 100 } 6, []⟩,
    ⟨.publish 0 6, []⟩]

/-- The excess burst is recorded as a verified effect. -/
theorem verified_unbounded : ¬ ∀ s k envelope, Reachable s →
    s.engine.tables.envelopes.find k = some envelope → envelope.effectVerified = true →
    envelope.appliedRateUps ≤ envelope.plan.ceilingUps ∧
      envelope.appliedBurstTokens ≤ envelope.plan.burstTokens := by
  intro h
  obtain ⟨s, envelope, hrun, hfind, hover⟩ : ∃ s envelope,
      run step sampleStart burstySample = some s ∧
      s.engine.tables.envelopes.find 1 = some envelope ∧
      (envelope.effectVerified &&
        decide (envelope.plan.burstTokens < envelope.appliedBurstTokens)) = true :=
    of_observe (by decide +kernel)
  simp only [Bool.and_eq_true, decide_eq_true_eq] at hover
  have hbounded := h s 1 envelope (reachable_of_run fresh_sampleStart hrun) hfind hover.1
  exact UInt64.not_le.2 hover.2 hbounded.2

end Sample

end RateGovernor.Safety.VerifiedBounds
