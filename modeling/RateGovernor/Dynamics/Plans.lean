import RateGovernor.Dynamics.Bindings

namespace RateGovernor.Dynamics.Plans

open Model.CheckedMath Model.Reason Model.Envelope Model.EngineState Model.Calls Model.Authority
open Model.Lifecycle Model.Completion Model.Revocation Model.Maintenance Model.Execution
open Sections Bindings

variable {s : System} {event : Event} {old new : RateEnvelope} {now : U64}

def SamePlan (old new : RateEnvelope) : Prop := new.plan = old.plan ∧ new.hasPlan = old.hasPlan

theorem SamePlan.trans {middle : RateEnvelope} (h : SamePlan old middle)
    (h' : SamePlan middle new) : SamePlan old new :=
  ⟨h'.1.trans h.1, h'.2.trans h.2⟩

section Updates

theorem samePlan_lateEnvelope (old : RateEnvelope) (reason : ReasonCode) (effect : Bool)
    (now : U64) : SamePlan old (lateEnvelope old reason effect now) := by
  unfold lateEnvelope
  simp only
  repeat' split
  all_goals exact ⟨rfl, rfl⟩

theorem samePlan_judgeApply (engine : Engine) (old : RateEnvelope) (attempt : EnforcementAttempt)
    (request : ApplyRequest) (verification : VerificationOutcome) (now : U64) :
    SamePlan old (judgeApply engine old attempt request verification now).envelope := by
  unfold judgeApply
  simp only
  repeat' split
  all_goals exact ⟨rfl, rfl⟩

theorem samePlan_judgedRevokeEnvelope (old : RateEnvelope) (reason : ReasonCode)
    (verification : VerificationOutcome) (now : U64) :
    SamePlan old (judgedRevokeEnvelope old reason verification now) := by
  unfold judgedRevokeEnvelope
  simp only
  split <;> exact ⟨rfl, rfl⟩

theorem samePlan_judgeRevalidation (sweep : Sweep) (probe : Probe) (old : RateEnvelope)
    (verification : VerificationOutcome) (now : U64) :
    SamePlan old (judgeRevalidation sweep probe old verification now).envelope := by
  unfold judgeRevalidation
  simp only
  repeat' split
  all_goals exact ⟨rfl, rfl⟩

theorem samePlan_of_epochDemoted (h : epochDemoted now old = some new) : SamePlan old new := by
  unfold epochDemoted at h
  simp only at h
  split at h <;> cases h
  exact ⟨rfl, rfl⟩

theorem samePlan_of_sessionLost (h : sessionLostEnvelope old = some new) : SamePlan old new := by
  unfold sessionLostEnvelope at h
  simp only at h
  split at h <;> cases h
  exact ⟨rfl, rfl⟩

theorem samePlan_maintained (tables : Tables) (old : RateEnvelope) (now : U64) :
    SamePlan old (maintained tables old now) := by
  have hrefilled : SamePlan old (refillStage old now).1 := by
    unfold refillStage
    split <;> exact ⟨rfl, rfl⟩
  have hcooled : SamePlan old (cooldownStage (refillStage old now).1 now) := by
    refine hrefilled.trans ?_
    unfold cooldownStage
    split <;> exact ⟨rfl, rfl⟩
  refine hcooled.trans ?_
  unfold maintained staleStage
  simp only
  split <;> exact ⟨rfl, rfl⟩

end Updates

/-- The plan of an envelope changes only to the one its authorities support now. -/
inductive Replans (s : System) (old new : RateEnvelope) : Prop
  | kept (same : SamePlan old new)
  | derived {now : U64} (authorized : (derivePlanLocked s.engine old now).authorized = true)
      (plan : new.plan = planNow s old now) (recorded : new.hasPlan = true)

theorem replans_authorizedEnvelope
    (h : (derivePlanLocked s.engine old now).authorized = true) :
    Replans s old (authorizedEnvelope old (planNow s old now) now) := by
  refine .derived h ?_ ?_
  all_goals
    unfold authorizedEnvelope
    simp only
    repeat' split
    all_goals rfl

theorem replans_plannedEnvelope (h : (derivePlanLocked s.engine old now).authorized = true) :
    Replans s old (plannedEnvelope old (planNow s old now)) := by
  unfold plannedEnvelope
  split
  · exact .kept ⟨rfl, rfl⟩
  · exact .derived h rfl rfl

theorem replans_of_stages {type} (h : Stages s event (.envelope type new))
    (htype : type ≠ .envelopeOpened)
    (hfind : s.engine.tables.envelopes.find new.id.value = some old) : Replans s old new := by
  cases h with
  | opened => exact absurd rfl htype
  | epochDemoted hfound hdemoted =>
    cases stored_eq hfound (binding_of_epochDemoted hdemoted) hfind
    exact .kept (samePlan_of_epochDemoted hdemoted)
  | unauthorized hfound =>
    cases stored_eq hfound rfl hfind
    exact .kept ⟨rfl, rfl⟩
  | authorized hfound hplan =>
    cases stored_eq hfound (binding_authorizedEnvelope _ _ _) hfind
    exact replans_authorizedEnvelope hplan
  | denied admitted =>
    cases stored_eq admitted.found rfl hfind
    exact .kept ⟨rfl, rfl⟩
  | planned admitted hplan =>
    cases stored_eq admitted.found (binding_plannedEnvelope _ _) hfind
    exact replans_plannedEnvelope hplan
  | dispatching admitted hplan =>
    cases stored_eq admitted.found ((binding_dispatchingEnvelope _ _).trans
      (binding_plannedEnvelope _ _)) hfind
    obtain ⟨hsame⟩ | ⟨hplan, heq, hrecorded⟩ := replans_plannedEnvelope hplan
    · exact .kept hsame
    · exact .derived hplan heq hrecorded
  | lateFinishEnvelope finishing =>
    cases stored_eq finishing.storedEnvelope (binding_lateEnvelope _ _ _ _) hfind
    exact .kept (samePlan_lateEnvelope _ _ _ _)
  | refusedApplyEnvelope accepted =>
    cases stored_eq accepted.storedEnvelope rfl hfind
    exact .kept ⟨rfl, rfl⟩
  | latePublishEnvelope publishing =>
    cases stored_eq publishing.storedEnvelope (binding_lateEnvelope _ _ _ _) hfind
    exact .kept (samePlan_lateEnvelope _ _ _ _)
  | judgedApplyEnvelope judged =>
    cases stored_eq judged.storedEnvelope (binding_judgeApply _ _ _ _ _ _) hfind
    exact .kept (samePlan_judgeApply _ _ _ _ _ _)
  | revoking admitted =>
    cases stored_eq admitted.found rfl hfind
    exact .kept ⟨rfl, rfl⟩
  | refusedRevokeEnvelope finishing =>
    cases stored_eq finishing.storedEnvelope rfl hfind
    exact .kept ⟨rfl, rfl⟩
  | judgedRevokeEnvelope publishing =>
    cases stored_eq publishing.storedEnvelope (binding_judgedRevokeEnvelope _ _ _ _) hfind
    exact .kept (samePlan_judgedRevokeEnvelope _ _ _ _)
  | abandonedEnvelope _ hnamed =>
    cases stored_eq hnamed rfl hfind
    exact .kept ⟨rfl, rfl⟩
  | consumed hfound =>
    cases stored_eq hfound rfl hfind
    exact .kept ⟨rfl, rfl⟩
  | sessionLost hfound hlost =>
    cases stored_eq hfound (binding_of_sessionLost hlost) hfind
    exact .kept (samePlan_of_sessionLost hlost)
  | tickLost hfound hlost =>
    cases stored_eq hfound (binding_of_sessionLost hlost) hfind
    exact .kept (samePlan_of_sessionLost hlost)
  | tickMaintained hfound =>
    cases stored_eq hfound (binding_maintained _ _ _) hfind
    exact .kept (samePlan_maintained _ _ _)
  | tickExpiredEnvelope _ _ hnamed =>
    cases stored_eq hnamed rfl hfind
    exact .kept ⟨rfl, rfl⟩
  | revalidated revalidating =>
    cases stored_eq revalidating.storedEnvelope (binding_judgeRevalidation _ _ _ _ _) hfind
    exact .kept (samePlan_judgeRevalidation _ _ _ _ _)
  | shutdownEnvelope _ hnamed =>
    cases stored_eq hnamed rfl hfind
    exact .kept ⟨rfl, rfl⟩

end RateGovernor.Dynamics.Plans
