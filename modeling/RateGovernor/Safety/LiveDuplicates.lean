import RateGovernor.Dynamics.Balances
import RateGovernor.Dynamics.PlanLimits
import RateGovernor.Dynamics.Stopping
import RateGovernor.Safety.Shutdown
import RateGovernor.Safety.SoundAuthorities
import RateGovernor.Safety.Tasking

namespace RateGovernor.Safety.LiveDuplicates

open Model.CheckedMath Model.Identity Model.Reason Model.Entities Model.Envelope Model.Plan
open Model.EngineState Model.JournalWriter Model.Durability Model.Authority Model.Calls
open Model.Lifecycle Model.Completion Model.Revocation Model.Maintenance Model.Execution
open Foundation.KeyedTable Foundation.GuardedRun Dynamics Dynamics.Install Dynamics.Sections
open Dynamics.Turns Dynamics.Evolution Dynamics.Bindings Dynamics.Attempts Dynamics.PlanLimits
open Dynamics.Stopping Dynamics.Start SoundAuthorities OneInFlight Tasking

variable {s t start : System} {event : Event} {action : Action} {envelope stored : RateEnvelope}
  {attempt old : EnforcementAttempt} {kind : AttemptKind} {dispatch : Dispatch}
  {id : RateEnvelopeId} {caller : ActorContext} {now : U64} {session : Session}
  {reason : ReasonCode} {status : Status}

section Answers

/-- A request of the kind for the envelope finds the attempt in flight under its key. -/
structure Absorbs (s : System) (kind : AttemptKind) (envelope : RateEnvelope)
    (attempt : EnforcementAttempt) : Prop where
  stored : s.engine.tables.envelopes.find envelope.id.value = some envelope
  unrevoked : envelope.state ≠ .revoked
  inflight : InFlight s attempt.id.value attempt
  key : attempt.idempotencyKey = computeIdempotencyKey envelope.id envelope.generation kind

/-- A completion that reports what the attempt asked for, from its own incarnation and epoch. -/
def correctReport (s : System) (attempt : EnforcementAttempt) : CompletionReport where
  status := .completed
  acknowledged := true
  acknowledgedRateUps := attempt.requestedRateUps
  acknowledgedBurstTokens := attempt.requestedBurstTokens
  epoch := s.engine.tables.epoch
  boot := attempt.boot

/-- A correct completion of the attempt is taken up, as long as its authorities are current. -/
def TakenUp (s : System) (envelope : RateEnvelope) (attempt : EnforcementAttempt) : Prop :=
  (attempt.kind = .apply → ∀ request now, authorityStatus s.engine.tables envelope now = .none →
    finishApply s.engine ⟨envelope.id, attempt.id, request⟩ (correctReport s attempt) now =
      acceptApply s.engine ⟨envelope.id, attempt.id, request⟩ envelope attempt
        (correctReport s attempt) now) ∧
  (attempt.kind = .revoke → ∀ request now,
    finishRevoke s.engine ⟨envelope.id, attempt.id, request⟩ (correctReport s attempt) now =
      acceptRevoke s.engine ⟨envelope.id, attempt.id, request⟩ envelope attempt
        (correctReport s attempt) now)

/-- The attempt is in flight for the envelope, of the kind and of the current epoch, and can still
be completed. -/
structure Live (s : System) (kind : AttemptKind) (envelope : RateEnvelope)
    (attempt : EnforcementAttempt) : Prop where
  named : attempt.envelope = envelope.id
  sort : attempt.kind = kind
  inflight : attemptInflight attempt.state = true
  epoch : attempt.epoch = s.engine.tables.epoch
  takenUp : TakenUp s envelope attempt

def Unfenced (s : System) (attempt : EnforcementAttempt) : Prop :=
  attempt.fingerprint.epoch = s.engine.tables.epoch ∨
    attempt.kind = .revoke ∧ attempt.fingerprint.epoch.valid = false

structure Fits (s : System) (kind : AttemptKind) (envelope : RateEnvelope)
    (attempt : EnforcementAttempt) : Prop where
  named : attempt.envelope = envelope.id
  sort : attempt.kind = kind
  epoch : attempt.epoch = s.engine.tables.epoch
  unfenced : Unfenced s attempt

theorem fencingBoot_correctReport : fencingBoot attempt (correctReport s attempt) = false := by
  simp only [fencingBoot, correctReport, ne_eq, not_true_eq_false, decide_false, Bool.and_false]

theorem takenUp_of_unfenced (habsorbs : Absorbs s kind envelope attempt)
    (h : Unfenced s attempt) : TakenUp s envelope attempt := by
  obtain ⟨hfind, hlive⟩ := habsorbs.inflight
  obtain ⟨hverified, hignored⟩ := not_ended_of_inflight hlive
  refine ⟨fun hkind request now hcurrent ↦ ?_, fun hkind request now ↦ ?_⟩
  · have hepoch : attempt.fingerprint.epoch = s.engine.tables.epoch := by
      obtain hepoch | ⟨hrevoke, -⟩ := h
      · exact hepoch
      · rw [hkind] at hrevoke
        cases hrevoke
    have hfenced : fencingEpoch s.engine.tables.epoch attempt (correctReport s attempt) = false := by
      simp only [fencingEpoch, hepoch, correctReport, ne_eq, not_true_eq_false, decide_false,
        Bool.and_false, Bool.or_self]
    exact finishApply_accepted hfind habsorbs.stored hkind hlive fencingBoot_correctReport hfenced
      hcurrent
  · have hfenced : (attempt.fingerprint.epoch.valid &&
        decide (attempt.fingerprint.epoch ≠ s.engine.tables.epoch)) = false := by
      obtain hepoch | ⟨-, hinvalid⟩ := h
      · rw [hepoch]
        simp only [ne_eq, not_true_eq_false, decide_false, Bool.and_false]
      · rw [hinvalid]
        rfl
    unfold finishRevoke
    simp only [hfind, habsorbs.stored, hkind, hverified, hignored, hlive, hfenced,
      fencingBoot_correctReport, ne_eq, not_true_eq_false, if_false, decide_false, Bool.not_true,
      Bool.or_self, Bool.false_eq_true]

theorem Fits.live (h : Fits s kind envelope attempt) (habsorbs : Absorbs s kind envelope attempt) :
    Live s kind envelope attempt :=
  ⟨h.named, h.sort, habsorbs.inflight.2, h.epoch, takenUp_of_unfenced habsorbs h.unfenced⟩

end Answers

section Requests

theorem absorbs_of_inflightWithKey
    (hfound : s.engine.tables.envelopes.find id.value = some envelope)
    (hunrevoked : envelope.state ≠ .revoked)
    (h : inflightWithKey s.engine.tables
      (computeIdempotencyKey envelope.id envelope.generation kind) = some attempt) :
    Absorbs s kind envelope attempt := by
  have hkey := Registry.key_of_find hfound
  have hmatches := List.find?_some h
  simp only [Bool.and_eq_true, decide_eq_true_eq] at hmatches
  refine ⟨?_, hunrevoked, ⟨Registry.mem_entries.1 (List.mem_of_find?_eq_some h), hmatches.2⟩,
    hmatches.1⟩
  rw [hkey]
  exact hfound

theorem absorbs_of_apply
    (h : ((apply s.engine id caller now session).reply status).1 = .ok dispatch)
    (hduplicate : dispatch.duplicate = true) :
    s.engine.control.shuttingDown = false ∧ ∃ envelope attempt,
      s.engine.tables.envelopes.find id.value = some envelope ∧ dispatch.attempt = attempt.id ∧
      Absorbs s .apply envelope attempt := by
  unfold Model.Lifecycle.apply at h
  simp only at h
  split at h
  · cases h
  · next hrunning =>
    refine ⟨by simpa using hrunning, ?_⟩
    split at h
    · cases h
    · split at h
      · cases h
      · next envelope hfound =>
        split at h
        · cases h
        · next hunrevoked =>
          split at h
          · cases h
          · split at h
            · next attempt hinflight =>
              cases h
              exact ⟨envelope, attempt, hfound, rfl,
                absorbs_of_inflightWithKey hfound hunrevoked hinflight⟩
            · split at h
              · cases h
              · repeat' split at h
                all_goals try cases h
                unfold dispatchApply at h
                simp only at h
                split at h
                · cases status <;> cases h
                · unfold publish at h
                  cases status with
                  | some error => cases h
                  | none =>
                    cases h
                    cases hduplicate

theorem absorbs_of_revoke
    (h : ((revoke s.engine id reason caller now session).reply status).1 = .ok dispatch)
    (hduplicate : dispatch.duplicate = true) (hvalid : dispatch.attempt.valid = true) :
    s.engine.control.shuttingDown = false ∧ ∃ envelope attempt,
      s.engine.tables.envelopes.find id.value = some envelope ∧ dispatch.attempt = attempt.id ∧
      Absorbs s .revoke envelope attempt := by
  unfold revoke at h
  simp only at h
  split at h
  · cases h
  · next hrunning =>
    refine ⟨by simpa using hrunning, ?_⟩
    split at h
    · cases h
    · split at h
      · cases h
      · next envelope hfound =>
        split at h
        · cases h
          cases hvalid
        · next hunrevoked =>
          split at h
          · next attempt hinflight =>
            cases h
            exact ⟨envelope, attempt, hfound, rfl,
              absorbs_of_inflightWithKey hfound hunrevoked hinflight⟩
          · repeat' split at h
            all_goals try cases h
            unfold dispatchRevoke publish at h
            cases status with
            | some error => cases h
            | none =>
              cases h
              cases hduplicate

end Requests

section Steps

theorem epoch_plannedEnvelope
    (h : (derivePlanLocked s.engine envelope now).authorized = true) :
    (plannedEnvelope envelope (planNow s envelope now)).plan.fingerprint.epoch =
      s.engine.tables.epoch := by
  obtain ⟨_, _, _, _, _, -, hplan⟩ := plan_of_authorized h
  have hnow : (planNow s envelope now).fingerprint.epoch = s.engine.tables.epoch := by
    rw [planNow, derivePlanLocked, hplan]
    rfl
  unfold plannedEnvelope
  split
  · next hunchanged =>
    simp only [bindingUnchanged, PlanFingerprint.sameBinding, Bool.and_eq_true,
      decide_eq_true_eq] at hunchanged
    rw [← hnow]
    exact hunchanged.1.1.2.1.2
  · exact hnow

/-- How a section can leave a request to be absorbed by an attempt that is not its own, or that is
fenced. -/
inductive Estranges (s : System) (kind : AttemptKind) (envelope : RateEnvelope)
    (attempt : EnforcementAttempt) : Event → Prop
  | advanced {epoch : FabricEpoch} {actor : ActorContext} {now : U64} :
      Estranges s kind envelope attempt (.advanceEpoch epoch actor now)
  | borrowed {event : Event} (created : Stages s event (.created attempt))
      (other : attempt.envelope ≠ envelope.id ∨ attempt.kind ≠ kind) :
      Estranges s kind envelope attempt event
  | outdated {id : RateEnvelopeId} {reason : ReasonCode} {actor : ActorContext} {now : U64}
      {session : Session} {old : RateEnvelope}
      (found : s.engine.tables.envelopes.find id.value = some old) (recorded : old.hasPlan = true)
      (stamped : old.plan.fingerprint.epoch.valid = true)
      (stale : old.plan.fingerprint.epoch ≠ s.engine.tables.epoch) :
      Estranges s kind envelope attempt (.revoke id reason actor now session)
  | opened {request : EnvelopeRequest} {actor : ActorContext} {now : U64}
      (next : envelope.id.value = s.engine.control.nextEnvelopeId) :
      Estranges s kind envelope attempt (.openEnvelope request actor now)
  | readmitted {event : Event} {old : RateEnvelope}
      (found : s.engine.tables.envelopes.find envelope.id.value = some old)
      (revoked : old.state = .revoked) (unfit : ¬Fits s kind old attempt) :
      Estranges s kind envelope attempt event

/-- Whatever the section commits, it estranges no request from the attempt that then absorbs it. -/
def Steady (s : System) (action : Action) : Prop :=
  s.engine.control.shuttingDown = false → commits s action = true →
    ∀ t kind envelope attempt, step s action = some t →
      (kind = .apply ∨ kind = .revoke) → Absorbs t kind envelope attempt →
        ¬Estranges s kind envelope attempt action.event

def Fitting (s : System) : Prop :=
  ∀ kind envelope attempt, (kind = .apply ∨ kind = .revoke) → Absorbs s kind envelope attempt →
    Fits s kind envelope attempt

theorem Fits.keep (h : Fits s kind stored old) (hid : envelope.id = stored.id)
    (hsame : identity attempt = identity old) (hattempt : attempt.epoch = old.epoch)
    (hepoch : t.engine.tables.epoch = s.engine.tables.epoch) : Fits t kind envelope attempt := by
  simp only [identity, AttemptIdentity.mk.injEq] at hsame
  obtain ⟨-, hnamed, -, hsort, hfingerprint, -⟩ := hsame
  refine ⟨?_, hsort.trans h.sort, ?_, ?_⟩
  · rw [hnamed, hid]
    exact h.named
  · rw [hattempt, hepoch]
    exact h.epoch
  · unfold Unfenced
    rw [hfingerprint, hsort, hepoch]
    exact h.unfenced

theorem fits_of_created (hcreated : Stages s event (.created attempt))
    (hnamed : attempt.envelope = envelope.id) (hsort : attempt.kind = kind)
    (hepoch : t.engine.tables.epoch = s.engine.tables.epoch) :
    Fits t kind envelope attempt ∨ Estranges s kind envelope attempt event := by
  cases hcreated with
  | createdApply admitted hplan =>
    refine .inl ⟨hnamed, hsort, hepoch.symm, .inl ?_⟩
    rw [hepoch]
    exact epoch_plannedEnvelope hplan
  | @createdRevoke id reason actor now session stored backend admitted =>
    by_cases houtdated : stored.hasPlan = true ∧ stored.plan.fingerprint.epoch.valid = true ∧
        stored.plan.fingerprint.epoch ≠ s.engine.tables.epoch
    · exact .inr (.outdated admitted.found houtdated.1 houtdated.2.1 houtdated.2.2)
    · refine .inl ⟨hnamed, hsort, hepoch.symm, ?_⟩
      have hfingerprint : (revokeAttempt s.engine stored reason session.boot now).fingerprint =
          if stored.hasPlan then stored.plan.fingerprint else {} := rfl
      unfold Unfenced
      rw [hfingerprint, hepoch]
      split
      · next hrecorded =>
        by_cases hstamped : stored.plan.fingerprint.epoch.valid = true
        · exact .inl (not_not.1 fun hstale ↦ houtdated ⟨hrecorded, hstamped, hstale⟩)
        · exact .inr ⟨rfl, Bool.not_eq_true _ ▸ hstamped⟩
      · exact .inr ⟨rfl, rfl⟩

theorem envelope_before (hstep : step s action = some t)
    (hfind : t.engine.tables.envelopes.find envelope.id.value = some envelope) :
    (∃ request actor now, action.event = .openEnvelope request actor now ∧
        envelope.id.value = s.engine.control.nextEnvelopeId) ∨
      ∃ stored, s.engine.tables.envelopes.find envelope.id.value = some stored ∧
        envelope.id = stored.id ∧ envelope.generation = stored.generation := by
  obtain hold | ⟨type, hstages⟩ := envelope_step hstep hfind
  · exact .inr ⟨envelope, hold, rfl, rfl⟩
  · obtain ⟨htype, -⟩ | ⟨stored, hstored, hbinding⟩ := binding_of_stages hstages
    · subst htype
      generalize action.event = event at hstages
      cases hstages with
      | opened => exact .inl ⟨_, _, _, rfl, rfl⟩
    · exact .inr ⟨stored, hstored, congrArg Binding.id hbinding,
        congrArg Binding.generation hbinding⟩

/-- A request that is absorbed after a step is absorbed by a fitting attempt, or has been estranged
from it. -/
theorem fits_or_estranged (hfitting : Fitting s) (hstep : step s action = some t)
    (hkind : kind = .apply ∨ kind = .revoke) (habsorbs : Absorbs t kind envelope attempt) :
    Fits t kind envelope attempt ∨ Estranges s kind envelope attempt action.event := by
  obtain hepoch | ⟨actor, now, hevent, -⟩ := epoch_step hstep
  · obtain hcreated | ⟨old, hold, hsame, hattempt⟩ := inflight_before hstep habsorbs.inflight
    · by_cases hother : attempt.envelope ≠ envelope.id ∨ attempt.kind ≠ kind
      · exact .inr (.borrowed hcreated hother)
      · obtain ⟨hnamed, hsort⟩ := not_or.1 hother
        exact fits_of_created hcreated (not_not.1 hnamed) (not_not.1 hsort) hepoch
    · obtain ⟨request, actor, now, hevent, hnext⟩ | ⟨stored, hstored, hid, hgeneration⟩ :=
        envelope_before hstep habsorbs.stored
      · rw [hevent]
        exact .inr (.opened hnext)
      · have hfits (h : Fits s kind stored old) : Fits t kind envelope attempt :=
          h.keep hid hsame hattempt hepoch
        by_cases hrevoked : stored.state = .revoked
        · by_cases hfit : Fits s kind stored attempt
          · exact .inl (hfit.keep hid rfl rfl hepoch)
          · exact .inr (.readmitted hstored hrevoked hfit)
        · refine .inl (hfits (hfitting kind stored old hkind ⟨?_, hrevoked, ?_, ?_⟩))
          · rw [← hid]
            exact hstored
          · rw [Registry.key_of_find hold.1]
            exact hold
          · have hkey : attempt.idempotencyKey = old.idempotencyKey :=
              congrArg AttemptIdentity.idempotencyKey hsame
            rw [← hkey, habsorbs.key, hid, hgeneration]
  · rw [hevent]
    exact .inr .advanced

theorem fitting_step (h : Stopped s ∨ Fitting s) (hok : Steady s action)
    (hstep : step s action = some t) : Stopped t ∨ Fitting t := by
  obtain hstopped | hfitting := h
  · exact .inl (stopped_step hstopped hstep)
  · cases hrunning : s.engine.control.shuttingDown with
    | true => exact .inl (stopped_step hrunning hstep)
    | false =>
      obtain hsame | hcommits := same_or_commits hstep
      · refine .inr fun kind envelope attempt hkind habsorbs ↦ ?_
        have hbefore : Absorbs s kind envelope attempt :=
          ⟨hsame ▸ habsorbs.stored, habsorbs.unrevoked, ⟨hsame ▸ habsorbs.inflight.1,
            habsorbs.inflight.2⟩, habsorbs.key⟩
        exact (hfitting kind envelope attempt hkind hbefore).keep rfl rfl rfl
          (congrArg Tables.epoch hsame)
      · refine .inr fun kind envelope attempt hkind habsorbs ↦ ?_
        have hsteady := hok hrunning hcommits t kind envelope attempt hstep hkind habsorbs
        exact (fits_or_estranged hfitting hstep hkind habsorbs).resolve_right hsteady

end Steps

section Runs

theorem fitting_of_starts (h : Starts s) : Fitting s := by
  intro kind envelope attempt _ habsorbs
  exact absurd habsorbs.inflight (idle_of_starts h)

theorem fitting_of_reaches (hstart : Starts start) (hrun : Reaches step Steady start s)
    (hrunning : s.engine.control.shuttingDown = false) : Fitting s := by
  have hfitting : Stopped s ∨ Fitting s := hrun.invariant (.inr (fitting_of_starts hstart))
    fun _ _ _ h hok hstep ↦ fitting_step h hok hstep
  obtain hstopped | hfitting := hfitting
  · rw [Stopped, hrunning] at hstopped
    cases hstopped
  · exact hfitting

/-- In a life none of whose sections estranges a request from the attempt that absorbs it, an
`apply` or a `revoke` that answers that it is a duplicate names a live attempt of its own. -/
theorem duplicate_names_live (hstart : Starts start) (hrun : Reaches step Steady start s) :
    (∀ id caller now session io dispatch,
      ((apply s.engine id caller now session).perform s.engine io).2.1.1 = .ok dispatch →
      dispatch.duplicate = true → ∃ envelope attempt,
        s.engine.tables.envelopes.find id.value = some envelope ∧
        s.engine.tables.attempts.find dispatch.attempt.value = some attempt ∧
        Live s .apply envelope attempt) ∧
    (∀ id reason caller now session io dispatch,
      ((revoke s.engine id reason caller now session).perform s.engine io).2.1.1 = .ok dispatch →
      dispatch.duplicate = true → dispatch.attempt.valid = true → ∃ envelope attempt,
        s.engine.tables.envelopes.find id.value = some envelope ∧
        s.engine.tables.attempts.find dispatch.attempt.value = some attempt ∧
        Live s .revoke envelope attempt) := by
  refine ⟨fun id caller now session io dispatch h hduplicate ↦ ?_,
    fun id reason caller now session io dispatch h hduplicate hvalid ↦ ?_⟩
  · obtain ⟨status, hanswer, -⟩ :=
      Balances.perform_answer (apply s.engine id caller now session) s.engine io
    rw [hanswer] at h
    obtain ⟨hrunning, envelope, attempt, hfound, hattempt, habsorbs⟩ :=
      absorbs_of_apply h hduplicate
    have hfits := fitting_of_reaches hstart hrun hrunning .apply envelope attempt (.inl rfl) habsorbs
    refine ⟨envelope, attempt, hfound, ?_, hfits.live habsorbs⟩
    rw [hattempt]
    exact habsorbs.inflight.1
  · obtain ⟨status, hanswer, -⟩ :=
      Balances.perform_answer (revoke s.engine id reason caller now session) s.engine io
    rw [hanswer] at h
    obtain ⟨hrunning, envelope, attempt, hfound, hattempt, habsorbs⟩ :=
      absorbs_of_revoke h hduplicate hvalid
    have hfits := fitting_of_reaches hstart hrun hrunning .revoke envelope attempt (.inr rfl) habsorbs
    refine ⟨envelope, attempt, hfound, ?_, hfits.live habsorbs⟩
    rw [hattempt]
    exact habsorbs.inflight.1

section Sample

/-- The reply of an apply of the sample envelope is that it is a duplicate of the first attempt. -/
def repliesDuplicate (s : System) (epoch : FabricEpoch) : Bool :=
  match ((apply s.engine ⟨1⟩ { actor with epoch := epoch } 8 {}).perform s.engine []).2.1.1 with
  | .ok dispatch => dispatch.duplicate && dispatch.attempt = ⟨1⟩
  | .error _ => false

theorem dispatch_of_repliesDuplicate {epoch : FabricEpoch} (h : repliesDuplicate s epoch = true) :
    ∃ dispatch, ((apply s.engine ⟨1⟩ { actor with epoch := epoch } 8 {}).perform s.engine
      []).2.1.1 = .ok dispatch ∧ dispatch.duplicate = true ∧ dispatch.attempt = ⟨1⟩ := by
  unfold repliesDuplicate at h
  split at h
  · next dispatch hdispatch =>
    simp only [Bool.and_eq_true, decide_eq_true_eq] at h
    exact ⟨dispatch, hdispatch, h.1, h.2⟩
  · cases h

def routine : Event → Bool
  | .advanceEpoch .. | .openEnvelope .. | .revoke .. => false
  | _ => true

/-- The step leaves nothing in flight, or a single apply under a key that no other request has. -/
def undisputed (s : System) (action : Action) : Bool :=
  (step s action).all fun t ↦
    (t.engine.tables.attempts.entries.all fun attempt ↦ !attemptInflight attempt.state) ||
    routine action.event &&
    (s.engine.tables.envelopes.entries.all fun envelope ↦ envelope.state ≠ .revoked) &&
    t.engine.tables.envelopes.entries.all fun envelope ↦
      t.engine.tables.attempts.entries.all fun attempt ↦
        attempt.envelope = envelope.id && attempt.kind = .apply &&
        attempt.idempotencyKey ≠ computeIdempotencyKey envelope.id envelope.generation .revoke

theorem steady_of_undisputed (h : undisputed s action = true) : Steady s action := by
  intro _ _ t kind envelope attempt hstep hkind habsorbs hestranges
  obtain ⟨hfind, hlive⟩ := habsorbs.inflight
  have hmem := Registry.mem_entries.2 hfind
  have henvelope := Registry.mem_entries.2 habsorbs.stored
  simp only [undisputed, hstep, Option.all_some, Bool.or_eq_true, Bool.and_eq_true] at h
  obtain hidle | ⟨⟨hroutine, hunrevoked⟩, hsole⟩ := h
  · have hended := List.all_eq_true.1 hidle _ hmem
    rw [hlive] at hended
    cases hended
  · have hown := List.all_eq_true.1 (List.all_eq_true.1 hsole _ henvelope) _ hmem
    simp only [Bool.and_eq_true, decide_eq_true_eq] at hown
    obtain ⟨⟨hnamed, hsort⟩, hdistinct⟩ := hown
    generalize action.event = event at hroutine hestranges
    cases hestranges with
    | advanced => cases hroutine
    | borrowed _ other =>
      obtain hother | hother := other
      · exact hother hnamed
      · obtain rfl | rfl := hkind
        · exact hother hsort
        · exact hdistinct habsorbs.key
    | outdated => cases hroutine
    | opened => cases hroutine
    | readmitted found revoked =>
      rw [← Registry.key_of_find found] at found
      have hstored := List.all_eq_true.1 hunrevoked _ (Registry.mem_entries.2 found)
      rw [revoked] at hstored
      cases hstored

theorem dispatched_while_steady : ∃ s dispatch envelope attempt,
    run step sampleStart dispatchSample = some s ∧
    ((apply s.engine ⟨1⟩ actor 8 {}).perform s.engine []).2.1.1 = .ok dispatch ∧
    dispatch.duplicate = true ∧ s.engine.tables.envelopes.find 1 = some envelope ∧
    s.engine.tables.attempts.find dispatch.attempt.value = some attempt ∧
    Live s .apply envelope attempt := by
  have hguarded : Guarded step (fun s action ↦ undisputed s action = true) sampleStart
      dispatchSample := by decide +kernel
  obtain ⟨s, envelope, hrun, -, hreplies⟩ : ∃ s envelope,
      run step sampleStart dispatchSample = some s ∧
      s.engine.tables.envelopes.find 1 = some envelope ∧ repliesDuplicate s ⟨1⟩ = true :=
    of_observe (by decide +kernel)
  obtain ⟨dispatch, hanswer, hduplicate, -⟩ := dispatch_of_repliesDuplicate hreplies
  obtain ⟨envelope, attempt, hfound, hattempt, hlive⟩ :=
    (duplicate_names_live (.fresh fresh_sampleStart)
      ((reaches_of_run hguarded hrun).mono fun _ _ ↦ steady_of_undisputed)).1 _ _ _ _ _ _
      hanswer hduplicate
  exact ⟨s, dispatch, envelope, attempt, hrun, hanswer, hduplicate, hfound, hattempt, hlive⟩

def fencedSample : List Action :=
  dispatchSample ++ [⟨.advanceEpoch ⟨2⟩ actor 7, []⟩]

/-- An apply at the advanced epoch is absorbed by the attempt that the advance has fenced. -/
theorem absorbed_by_fenced : ¬∀ s id caller now session io dispatch, Reachable s →
    ((apply s.engine id caller now session).perform s.engine io).2.1.1 = .ok dispatch →
    dispatch.duplicate = true → dispatch.attempt.valid = true → ∃ envelope attempt,
      s.engine.tables.envelopes.find id.value = some envelope ∧
      s.engine.tables.attempts.find dispatch.attempt.value = some attempt ∧
      attempt.envelope = envelope.id ∧ attempt.kind = .apply ∧
      attemptInflight attempt.state = true ∧ attempt.epoch = s.engine.tables.epoch := by
  intro h
  obtain ⟨s, _, hrun, -, hfenced⟩ : ∃ s envelope, run step sampleStart fencedSample = some s ∧
      s.engine.tables.envelopes.find 1 = some envelope ∧
      (repliesDuplicate s ⟨2⟩ && (s.engine.tables.attempts.find 1).any fun attempt ↦
        attempt.epoch ≠ s.engine.tables.epoch) = true := of_observe (by decide +kernel)
  rw [Bool.and_eq_true, Option.any_eq_true] at hfenced
  obtain ⟨hreplies, attempt, hfind, hstale⟩ := hfenced
  obtain ⟨dispatch, hanswer, hduplicate, hnamed⟩ := dispatch_of_repliesDuplicate hreplies
  obtain ⟨envelope, named, -, hfound, -, -, -, hcurrent⟩ := h s _ _ _ _ _ dispatch
    (reachable_of_run fresh_sampleStart hrun) hanswer hduplicate (by rw [hnamed]; rfl)
  rw [hnamed] at hfound
  cases hfind.symm.trans hfound
  exact of_decide_eq_true hstale hcurrent

end Sample

end Runs

end RateGovernor.Safety.LiveDuplicates
