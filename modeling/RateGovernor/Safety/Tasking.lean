import RateGovernor.Safety.OneInFlight

namespace RateGovernor.Safety.Tasking

open Model.CheckedMath Model.Identity Model.Reason Model.Entities Model.Envelope Model.EngineState
open Model.JournalWriter Model.Calls Model.Lifecycle Model.Completion Model.Revocation
open Model.Execution Foundation.KeyedTable
open Foundation.GuardedRun Dynamics Dynamics.Turns Dynamics.Evolution Dynamics.Bindings
open Dynamics.Attempts OneInFlight
open Dynamics.Sections hiding InFlight

variable {s t : System} {event : Event} {action : Action} {call : Call} {task : ApplyTask}
  {envelope : RateEnvelope} {attempt old : EnforcementAttempt} {k k' : U64}

def applyTask : Call → Option ApplyTask
  | .applying task _ | .applyReported task _ | .applyFinishing task _ _ | .applyVerifying task _ _
  | .applyPublishing task _ _ _ => some task
  | _ => none

/-- The next attempt would get the number of a stored one, or of one that a completion is still out
for. -/
def attemptInUse (s : System) : Bool :=
  (s.engine.tables.attempts.find s.engine.control.nextAttemptId).isSome ||
    s.calls.any fun call ↦ (applyTask call).any fun task ↦
      task.attempt.value = s.engine.control.nextAttemptId

def reuses (s : System) : Event → Bool
  | .apply .. | .revoke .. => attemptInUse s
  | .openEnvelope .. => (s.engine.tables.envelopes.find s.engine.control.nextEnvelopeId).isSome
  | _ => false

section Flights

theorem epoch_of_stages {type} (h : Stages s event (.attempt type attempt))
    (hfind : s.engine.tables.attempts.find attempt.id.value = some old) :
    attempt.epoch = old.epoch := by
  have kept {k : U64} {stored : EnforcementAttempt}
      (hstored : s.engine.tables.attempts.find k = some stored) (hid : attempt.id = stored.id)
      (hepoch : attempt.epoch = stored.epoch) : attempt.epoch = old.epoch := by
    have hkey := Registry.key_of_find hstored
    rw [hid, hkey, hstored] at hfind
    cases hfind
    exact hepoch
  cases h with
  | lateFinishAttempt finishing => exact kept finishing.storedAttempt rfl rfl
  | dispatchedAttempt accepted => exact kept accepted.storedAttempt rfl rfl
  | refusedApplyAttempt accepted => exact kept accepted.storedAttempt rfl rfl
  | acknowledgedApply accepted => exact kept accepted.storedAttempt rfl rfl
  | latePublishAttempt publishing => exact kept publishing.storedAttempt rfl rfl
  | @judgedApplyAttempt i task now clock backend verification stored envelope judged =>
    have hjudged : (judgeApply s.engine envelope stored task.request verification now).attempt.epoch =
        stored.epoch := by
      unfold judgeApply
      simp only
      repeat' split
      all_goals rfl
    exact kept judged.storedAttempt (congrArg AttemptIdentity.id judgeApply_attempt.1) hjudged
  | lateFinishRevoke finishing => exact kept finishing.storedAttempt rfl rfl
  | refusedRevokeAttempt finishing => exact kept finishing.storedAttempt rfl rfl
  | acknowledgedRevoke finishing => exact kept finishing.storedAttempt rfl rfl
  | latePublishRevoke publishing => exact kept publishing.storedAttempt rfl rfl
  | @judgedRevokeAttempt i task now clock backend verification seen stored envelope publishing =>
    have hjudged : (judgedRevokeAttempt stored verification now).epoch = stored.epoch := by
      unfold judgedRevokeAttempt
      simp only
      split <;> rfl
    exact kept publishing.storedAttempt (congrArg AttemptIdentity.id judgedRevoke_attempt.1) hjudged
  | cancelled found => exact kept found.storedAttempt rfl rfl
  | abandonedAttempt found => exact kept found.storedAttempt rfl rfl
  | tickExpiredAttempt hfound => exact kept hfound rfl rfl
  | shutdownAttempt found => exact kept found.storedAttempt rfl rfl

theorem inflight_before (hstep : step s action = some t) (h : InFlight t k attempt) :
    Stages s action.event (.created attempt) ∨
      ∃ old, InFlight s k old ∧ identity attempt = identity old ∧ attempt.epoch = old.epoch := by
  obtain ⟨hfind, hlive⟩ := h
  obtain hold | hcreated | ⟨type, hstages⟩ := attempt_step hstep hfind
  · exact .inr ⟨attempt, ⟨hold, hlive⟩, rfl, rfl⟩
  · exact .inl hcreated
  · obtain ⟨old, hold, hmoves⟩ := moves_of_stages hstages
    have hepoch := epoch_of_stages hstages hold
    rw [Registry.key_of_find hfind] at hold
    exact .inr ⟨old, ⟨hold, hmoves.live hlive⟩, hmoves.same, hepoch⟩

end Flights

section Numbers

theorem unused_of_created (hfresh : reuses s event = false)
    (h : Stages s event (.created attempt)) :
    s.engine.tables.attempts.find attempt.id.value = none ∧
      ∀ call ∈ s.calls, ∀ task, applyTask call = some task →
        task.attempt.value ≠ attempt.id.value := by
  obtain ⟨envelope, hcreates⟩ := creates_of_stages h
  have hunused : attemptInUse s = false := by
    cases h with
    | createdApply => exact hfresh
    | createdRevoke => exact hfresh
  simp only [attemptInUse, Bool.or_eq_false_iff, Option.isSome_eq_false_iff,
    Option.isNone_iff_eq_none, List.any_eq_false, ← hcreates.issued] at hunused
  refine ⟨hunused.1, fun call hmem task htask hsame ↦ hunused.2 call hmem ?_⟩
  rw [htask]
  exact decide_eq_true hsame

theorem unused_of_opened (hfresh : reuses s event = false)
    (h : Stages s event (.envelope .envelopeOpened envelope)) :
    s.engine.tables.envelopes.find envelope.id.value = none := by
  cases h with
  | opened =>
    rw [reuses, Option.isSome_eq_false_iff, Option.isNone_iff_eq_none] at hfresh
    exact hfresh

theorem binding_kept (hfresh : reuses s action.event = false) (hstep : step s action = some t)
    (hfind : s.engine.tables.envelopes.find k = some envelope) :
    ∃ kept, t.engine.tables.envelopes.find k = some kept ∧
      (kept = envelope ∨ binding kept = binding envelope ∧
        ∃ type, Stages s action.event (.envelope type kept) ∧ type ≠ .envelopeOpened) := by
  obtain ⟨kept, hkept⟩ := envelope_persists hstep hfind
  refine ⟨kept, hkept, ?_⟩
  have hkey := Registry.key_of_find hkept
  obtain hold | ⟨type, hstages⟩ := envelope_step hstep hkept
  · exact .inl (Option.some.inj (hold.symm.trans hfind))
  · have hexisting : type ≠ .envelopeOpened := by
      rintro rfl
      have hunused := unused_of_opened hfresh hstages
      rw [hkey, hfind] at hunused
      cases hunused
    obtain ⟨hopened, -⟩ | ⟨stored, hstored, hbinding⟩ := binding_of_stages hstages
    · exact absurd hopened hexisting
    · rw [hkey, hfind] at hstored
      cases hstored
      exact .inr ⟨hbinding, type, hstages, hexisting⟩

end Numbers

section Tasks

def Suits (s : System) (task : ApplyTask) : Prop :=
  ∀ attempt, s.engine.tables.attempts.find task.attempt.value = some attempt →
    attempt.envelope = task.envelope ∧ attempt.kind = .apply

def Tied (s : System) : Prop := ∀ call ∈ s.calls, ∀ task, applyTask call = some task → Suits s task

theorem attempt_before (hstep : step s action = some t)
    (hfind : t.engine.tables.attempts.find k = some attempt) :
    (Stages s action.event (.created attempt) ∧ attempt.id.value = k) ∨
      ∃ old, s.engine.tables.attempts.find k = some old ∧ identity attempt = identity old := by
  have hkey := Registry.key_of_find hfind
  obtain hold | hcreated | ⟨type, hstages⟩ := attempt_step hstep hfind
  · exact .inr ⟨attempt, hold, rfl⟩
  · exact .inl ⟨hcreated, hkey⟩
  · obtain ⟨old, hold, hmoves⟩ := moves_of_stages hstages
    rw [hkey] at hold
    exact .inr ⟨old, hold, hmoves.same⟩

theorem suits_kept (h : Tied s) (hfresh : reuses s action.event = false)
    (hstep : step s action = some t) (hmem : call ∈ s.calls) (htask : applyTask call = some task) :
    Suits t task := by
  intro attempt hfind
  obtain ⟨hcreated, hkey⟩ | ⟨old, hold, hsame⟩ := attempt_before hstep hfind
  · exact absurd hkey.symm ((unused_of_created hfresh hcreated).2 call hmem task htask)
  · simp only [identity, AttemptIdentity.mk.injEq] at hsame
    obtain ⟨-, hnamed, -, hkind, -, -⟩ := hsame
    rw [hnamed, hkind]
    exact h call hmem task htask old hold

theorem suits_begun {status : Status} (h : Tied s) (hfresh : reuses s action.event = false)
    (hstep : step s action = some t) (hbegins : Begins s action.event status call)
    (htask : applyTask call = some task) : Suits t task := by
  have kept {i : ℕ} {found : Call} (hfound : s.calls[i]? = some found)
      (hsame : applyTask found = some task) : Suits t task :=
    suits_kept h hfresh hstep (List.mem_of_getElem? hfound) hsame
  have hbefore := fun attempt ↦ @attempt_before s t action attempt task.attempt.value hstep
  generalize action.event = event at hbegins hfresh hbefore
  cases hbegins with
  | @applying id actor now session envelope backend admitted hplan =>
    cases htask
    intro attempt hfind
    obtain ⟨hcreated, -⟩ | ⟨old, hold, -⟩ := hbefore attempt hfind
    · cases hcreated with
      | createdApply admitted' =>
        cases admitted.found.symm.trans admitted'.found
        exact ⟨congrArg Binding.id (binding_plannedEnvelope _ _), rfl⟩
    · have hcreated : Stages s (.apply id actor now session) (.created _) :=
        .createdApply admitted hplan
      have hunused := (unused_of_created hfresh hcreated).1
      cases hunused.symm.trans hold
  | applyAnswered hfound => exact kept hfound htask
  | @applyCompleted id report actor stored envelope status hfound hkind =>
    cases htask
    intro attempt hfind
    obtain ⟨hcreated, -⟩ | ⟨old, hold, hsame⟩ := hbefore attempt hfind
    · cases hcreated
    · cases hfound.symm.trans hold
      simp only [identity, AttemptIdentity.mk.injEq] at hsame
      exact ⟨hsame.2.1, hsame.2.2.2.1.trans hkind⟩
  | applyTimed hfound => exact kept hfound htask
  | applyAcknowledged accepted => exact kept accepted.call htask
  | applyVerified hfound => exact kept hfound htask
  | _ => cases htask

theorem tied_step (h : Tied s) (hfresh : reuses s action.event = false)
    (hstep : step s action = some t) : Tied t := by
  intro call hmem task htask
  obtain hold | ⟨status, hbegins⟩ := calls_step hstep hmem
  · exact suits_kept h hfresh hstep hold htask
  · exact suits_begun h hfresh hstep hbegins htask

end Tasks

/-- Attempts in flight are known by their keys and for stored envelopes, and completions are for
what their attempts are for. -/
structure Consistent (s : System) : Prop where
  keyed : Keyed s
  bound : Bound s
  tied : Tied s

theorem consistent_of_starts (h : Starts s) : Consistent s where
  keyed := keyed_of_none fun _ _ ↦ idle_of_starts h
  bound _ _ hlive := absurd hlive (idle_of_starts h)
  tied call hmem := by
    have hcalls : s.calls = [] := by
      cases h with
      | fresh hfresh => exact (Start.empty_of_fresh hfresh).2
      | recovered => rfl
    rw [hcalls] at hmem
    cases hmem

theorem consistent_step (h : Consistent s) (hfresh : reuses s action.event = false)
    (hstep : step s action = some t) : Consistent t where
  keyed := keyed_step h.keyed hstep
  bound k attempt hlive := by
    have kept {id : RateEnvelopeId} {generation : Generation} {e : RateEnvelope}
        (hfind : s.engine.tables.envelopes.find id.value = some e)
        (hgeneration : generation = e.generation) : ∃ e,
          t.engine.tables.envelopes.find id.value = some e ∧ generation = e.generation := by
      obtain ⟨e', hfind', rfl | ⟨hbinding, -⟩⟩ := binding_kept hfresh hstep hfind
      · exact ⟨_, hfind', hgeneration⟩
      · exact ⟨e', hfind', hgeneration.trans (congrArg Binding.generation hbinding).symm⟩
    obtain ⟨-, envelope, hcreates⟩ | ⟨old, hold, hsame⟩ := inflight_step hstep hlive
    · rw [hcreates.envelopeId]
      exact kept hcreates.found hcreates.generation
    · obtain ⟨e, hfind, hgeneration⟩ := h.bound k old hold
      simp only [identity, AttemptIdentity.mk.injEq] at hsame
      obtain ⟨-, hnamed, hsameGeneration, -⟩ := hsame
      rw [hnamed]
      exact kept hfind (hsameGeneration.trans hgeneration)
  tied := tied_step h.tied hfresh hstep

theorem Consistent.lone (h : Consistent s) (hlive : InFlight s k attempt)
    (hlive' : InFlight s k' old) (hnamed : attempt.envelope = old.envelope)
    (hkind : attempt.kind = old.kind) : k = k' := by
  obtain ⟨e, hfind, hgeneration⟩ := h.bound k attempt hlive
  obtain ⟨e', hfind', hgeneration'⟩ := h.bound k' old hlive'
  rw [hnamed] at hfind
  cases hfind.symm.trans hfind'
  refine h.keyed.apart k k' attempt old hlive hlive' ?_
  rw [h.keyed.key k attempt hlive, h.keyed.key k' old hlive', hnamed, hkind,
    hgeneration, hgeneration']

end RateGovernor.Safety.Tasking
