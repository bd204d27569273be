import RateGovernor.Dynamics.Attempts
import RateGovernor.Dynamics.Clocks
import RateGovernor.Dynamics.Plans
import RateGovernor.Dynamics.Readbacks
import RateGovernor.Safety.Enforceable
import RateGovernor.Safety.Shutdown

namespace RateGovernor.Safety.TimelySuccess

open Model.CheckedMath Model.Identity Model.Reason Model.Entities Model.Envelope Model.EngineState
open Model.JournalWriter Model.Calls Model.Lifecycle Model.Completion Model.Execution
open Foundation.KeyedTable Foundation.GuardedRun Dynamics.Install Dynamics.Sections Dynamics.Turns
open Dynamics.Evolution Dynamics.Bindings Dynamics.Plans Dynamics.Attempts Dynamics.Clocks
open Dynamics.Start Enforceable Shutdown

variable {s t start : System} {c d : Clocked} {timed : Timed} {tables tables' : Tables}
  {envelope old new : RateEnvelope} {attempt : EnforcementAttempt} {task : ApplyTask} {call : Call}
  {window : ValidityWindow} {i : ℕ} {now clock instant : U64}

section Windows

def closedBy (window : ValidityWindow) (instant : U64) : Prop :=
  isNever window.invalidAfterNs = false ∧ window.invalidAfterNs ≤ instant

theorem not_closedBy (h : window.contains instant = true) : ¬closedBy window instant := by
  rintro ⟨hends, hle⟩
  unfold ValidityWindow.contains at h
  rw [hends] at h
  split at h
  · cases h
  · exact absurd (of_decide_eq_true h) (UInt64.not_lt.2 hle)

theorem contains_later (h : window.contains now = true) (hle : now ≤ instant)
    (hopen : ¬closedBy window instant) : window.contains instant = true := by
  have hentered : ¬instant < window.notBeforeNs := by
    intro hbefore
    unfold ValidityWindow.contains at h
    rw [if_pos (UInt64.lt_of_le_of_lt hle hbefore)] at h
    cases h
  unfold ValidityWindow.contains
  rw [if_neg hentered]
  cases hends : isNever window.invalidAfterNs with
  | true => rfl
  | false => exact decide_eq_true (UInt64.not_le.1 fun hpast ↦ hopen ⟨hends, hpast⟩)

/-- The windows of the stored authorities that the envelope is bound to. -/
inductive BoundWindow (tables : Tables) (envelope : RateEnvelope) : ValidityWindow → Prop
  | grant {grant : Grant} (found : tables.grants.find envelope.grant.value = some grant) :
      BoundWindow tables envelope grant.window
  | policy {policy : Policy} (found : tables.policies.find envelope.policy.value = some policy) :
      BoundWindow tables envelope policy.window
  | reservation {reservation : Reservation} (bound : envelope.hasReservation = true)
      (found : tables.reservations.find envelope.reservation.value = some reservation) :
      BoundWindow tables envelope reservation.window

def Lapsed (tables : Tables) (envelope : RateEnvelope) (instant : U64) : Prop :=
  ∃ window, BoundWindow tables envelope window ∧ closedBy window instant

theorem not_lapsed_of_current (h : authorityStatus tables envelope instant = .none) :
    ¬Lapsed tables envelope instant := by
  have hcurrent := current_of_authorityStatus h
  obtain ⟨grant, hgrant, -, -, hgrantWindow⟩ := hcurrent.grant
  obtain ⟨policy, hpolicy, -, -, hpolicyWindow⟩ := hcurrent.policy
  rintro ⟨window, hbound, hclosed⟩
  cases hbound with
  | grant hfound =>
    cases hgrant.symm.trans hfound
    exact not_closedBy hgrantWindow hclosed
  | policy hfound =>
    cases hpolicy.symm.trans hfound
    exact not_closedBy hpolicyWindow hclosed
  | reservation hreserved hfound =>
    obtain ⟨reservation, hreservation, -, -, hwindow⟩ := hcurrent.reservation hreserved
    cases hreservation.symm.trans hfound
    exact not_closedBy hwindow hclosed

/-- Authorities that are current stay so until a window of theirs closes. -/
theorem current_later (h : authorityStatus tables envelope now = .none) (hle : now ≤ instant)
    (hopen : ¬Lapsed tables envelope instant) :
    authorityStatus tables envelope instant = .none := by
  have hcurrent := current_of_authorityStatus h
  have later {window : ValidityWindow} (hbound : BoundWindow tables envelope window)
      (hcontains : window.contains now = true) : window.contains instant = true :=
    contains_later hcontains hle fun hclosed ↦ hopen ⟨window, hbound, hclosed⟩
  obtain ⟨grant, hgrant, -, -, hgrantWindow⟩ := hcurrent.grant
  obtain ⟨policy, hpolicy, -, -, hpolicyWindow⟩ := hcurrent.policy
  have hgrantLater := later (.grant hgrant) hgrantWindow
  have hpolicyLater := later (.policy hpolicy) hpolicyWindow
  have hreservation (resource : Resource) : reservationStatus tables envelope resource instant =
      reservationStatus tables envelope resource now := by
    unfold reservationStatus
    cases hreserved : envelope.hasReservation with
    | false => rfl
    | true =>
      obtain ⟨reservation, hfound, -, -, hwindow⟩ := hcurrent.reservation hreserved
      have hreservationLater := later (.reservation hreserved hfound) hwindow
      simp only [hfound, hwindow, hreservationLater]
  rw [← h]
  simp only [authorityStatus, grantStatus, policyStatus, hgrant, hpolicy, hgrantWindow,
    hgrantLater, hpolicyWindow, hpolicyLater, hreservation]

theorem authorityStatus_congr (hsame : SameAuthorities tables tables')
    (hbinding : binding new = binding old) (hplan : SamePlan old new) (now : U64) :
    authorityStatus tables' new now = authorityStatus tables old now := by
  simp only [binding, Binding.mk.injEq] at hbinding
  simp only [authorityStatus, grantStatus, policyStatus, reservationStatus, backendStatus, hbinding,
    hplan.1, hplan.2, hsame.flows, hsame.grants, hsame.reservations, hsame.policies,
    hsame.resources, hsame.backends]

end Windows

section Calls

def judgedAt : Call → Option U64
  | .applyFinishing _ _ now | .applyVerifying _ now _ | .applyPublishing _ now _ _ => some now
  | _ => none

/-- Every outstanding call was last moved on in the past, and an apply completion since its
reading. -/
structure Marked (c : Clocked) : Prop where
  aligned : Aligned c
  past : ∀ (i : ℕ) call mark, c.system.calls[i]? = some call → c.marks[i]? = some mark → mark ≤ c.clock
  read : ∀ (i : ℕ) call mark now, c.system.calls[i]? = some call → c.marks[i]? = some mark →
    judgedAt call = some now → now ≤ mark

theorem marked_of_idle (h : start.calls = []) : Marked { system := start } where
  aligned := by
    rw [Aligned, h]
    rfl
  past i call mark hcall := by cases (h ▸ hcall :)
  read i call mark now hcall := by cases (h ▸ hcall :)

theorem Marked.mark (h : Marked c) (hcall : c.system.calls[i]? = some call) :
    ∃ mark, c.marks[i]? = some mark := by
  have hlt : i < c.marks.length := h.aligned ▸ lt_of_call hcall
  exact ⟨_, List.getElem?_eq_getElem hlt⟩

theorem Marked.judged_le (h : Marked c) (hcall : c.system.calls[i]? = some call)
    (hjudged : judgedAt call = some now) : now ≤ c.clock := by
  obtain ⟨mark, hmark⟩ := h.mark hcall
  exact UInt64.le_trans (h.read i call mark now hcall hmark hjudged) (h.past i call mark hcall hmark)

theorem judged_of_begins {status : Status} (h : Marked c) (htimely : Timely c timed)
    (hbegins : Begins c.system timed.event status call) (hjudged : judgedAt call = some now) :
    now ≤ timed.instant := by
  obtain ⟨⟨event, io⟩, instant⟩ := timed
  have kept {i : ℕ} {found : Call} (hfound : c.system.calls[i]? = some found)
      (hsame : judgedAt found = some now) : now ≤ instant :=
    UInt64.le_trans (h.judged_le hfound hsame) htimely.forward
  cases hbegins with
  | applyTimed hfound => exact htimely.read now hjudged
  | applyAcknowledged accepted => exact kept accepted.call hjudged
  | applyVerified hfound => exact kept hfound hjudged
  | _ => cases hjudged

theorem marked_step (h : Marked c) (htimely : Timely c timed) (hstep : clockedStep c timed = some d) :
    Marked d where
  aligned := aligned_step h.aligned hstep
  past i call mark hcall hmark := by
    rw [clock_step hstep]
    obtain ⟨j, hold, hmark⟩ | ⟨rfl, -⟩ := mark_step h.aligned hstep hcall hmark
    · exact UInt64.le_trans (h.past j call mark hold hmark) htimely.forward
    · exact UInt64.le_refl _
  read i call mark now hcall hmark hjudged := by
    obtain ⟨j, hold, hmark⟩ | ⟨rfl, _, hbegins⟩ := mark_step h.aligned hstep hcall hmark
    · exact h.read j call mark now hold hmark hjudged
    · exact judged_of_begins h htimely hbegins hjudged

end Calls

section Successes

/-- The call's publication commits its attempt as verified and leaves its envelope applied. -/
structure Succeeds (s : System) (i : ℕ) (t : System) (task : ApplyTask) (envelope : RateEnvelope) :
    Prop where
  call : ∃ now backend verification,
    s.calls[i]? = some (.applyPublishing task now backend verification)
  unverified : ∀ old, s.engine.tables.attempts.find task.attempt.value = some old →
    old.state ≠ .verified
  verified : ∃ attempt, t.engine.tables.attempts.find task.attempt.value = some attempt ∧
    attempt.state = .verified
  stored : t.engine.tables.envelopes.find task.envelope.value = some envelope
  applied : envelope.state = .applied

theorem sameAuthorities_of_publish {action : Action} (hevent : action.event = .publish i clock)
    (hstep : step s action = some t) : SameAuthorities s.engine.tables t.engine.tables := by
  obtain ⟨records, hstages, htables⟩ := tables_step hstep
  rw [htables]
  refine sameAuthorities_installed fun record hmem ↦ ?_
  cases hrecord : storesAuthority record with
  | false => rfl
  | true =>
    have hwork := takesWork_of_stages (hstages record hmem) hrecord
    rw [hevent] at hwork
    cases hwork

theorem judged_of_succeeds {action : Action} (hevent : action.event = .publish i clock)
    (hstep : step s action = some t) (h : Succeeds s i t task envelope) :
    ∃ now backend verification attempt old,
      ApplyJudged s i task now backend verification attempt old := by
  obtain ⟨now, backend, verification, hcall⟩ := h.call
  obtain ⟨attempt, hfind, hverified⟩ := h.verified
  obtain hold | hcreated | ⟨type, hstages⟩ := attempt_step hstep hfind
  · exact absurd hverified (h.unverified attempt hold)
  · rw [hevent] at hcreated
    cases hcreated
  · rw [hevent] at hstages
    cases hstages with
    | @latePublishAttempt _ task' now' _ backend' verification' stored _ reason detail publishing =>
      simp only [lateAttempt] at hverified
      split at hverified
      · cases hverified
      · next hambiguous =>
        rw [hverified] at hambiguous
        exact absurd nofun hambiguous
    | judgedApplyAttempt judged =>
      cases hcall.symm.trans judged.call
      exact ⟨_, _, _, _, _, judged⟩
    | latePublishRevoke publishing => cases hcall.symm.trans publishing.call
    | judgedRevokeAttempt publishing => cases hcall.symm.trans publishing.call

theorem kept_by_publish {action : Action} {k : U64} (hevent : action.event = .publish i clock)
    (hstep : step s action = some t) (hstored : s.engine.tables.envelopes.find k = some old)
    (hfind : t.engine.tables.envelopes.find k = some new) :
    binding new = binding old ∧ SamePlan old new := by
  obtain hold | ⟨type, hstages⟩ := envelope_step hstep hfind
  · cases hstored.symm.trans hold
    exact ⟨rfl, rfl, rfl⟩
  · rw [← Registry.key_of_find hfind] at hstored
    rw [hevent] at hstages
    cases hstages with
    | latePublishEnvelope publishing =>
      cases stored_eq publishing.storedEnvelope (binding_lateEnvelope _ _ _ _) hstored
      exact ⟨binding_lateEnvelope _ _ _ _, samePlan_lateEnvelope _ _ _ _⟩
    | judgedApplyEnvelope judged =>
      cases stored_eq judged.storedEnvelope (binding_judgeApply _ _ _ _ _ _) hstored
      exact ⟨binding_judgeApply _ _ _ _ _ _, samePlan_judgeApply _ _ _ _ _ _⟩
    | judgedRevokeEnvelope publishing =>
      cases stored_eq publishing.storedEnvelope (binding_judgedRevokeEnvelope _ _ _ _) hstored
      exact ⟨binding_judgedRevokeEnvelope _ _ _ _, samePlan_judgedRevokeEnvelope _ _ _ _⟩
    | revalidated revalidating =>
      cases stored_eq revalidating.storedEnvelope (binding_judgeRevalidation _ _ _ _ _) hstored
      exact ⟨binding_judgeRevalidation _ _ _ _ _, samePlan_judgeRevalidation _ _ _ _ _⟩

/-- In a run on a clock that does not run backwards, a success is published under authorities that
are current at some reading since its readback returned, exactly when none of their windows has
closed by that return. -/
theorem success_current_iff (hidle : start.calls = [])
    (hrun : Reaches clockedStep Timely { system := start } c) (htimely : Timely c timed)
    (hevent : timed.event = .publish i clock) (hstep : clockedStep c timed = some d)
    (hsucceeds : Succeeds c.system i d.system task envelope) :
    ∃ returned, c.marks[i]? = some returned ∧
      ((∃ reading, returned ≤ reading ∧ reading ≤ d.clock ∧
          authorityStatus d.system.engine.tables envelope reading = .none) ↔
        ∀ old, c.system.engine.tables.envelopes.find task.envelope.value = some old →
          ¬Lapsed c.system.engine.tables old returned) := by
  have hmarked : Marked c :=
    hrun.invariant (marked_of_idle hidle) fun _ _ _ h hok hstep ↦ marked_step h hok hstep
  have hsystem := system_step hstep
  obtain ⟨now, backend, verification, attempt, old, judged⟩ :=
    judged_of_succeeds hevent hsystem hsucceeds
  obtain ⟨returned, hreturned⟩ := hmarked.mark judged.call
  have hread : now ≤ returned := hmarked.read i _ returned now judged.call hreturned rfl
  have hpast : returned ≤ d.clock := by
    rw [clock_step hstep]
    exact UInt64.le_trans (hmarked.past i _ returned judged.call hreturned) htimely.forward
  obtain ⟨hbinding, hplan⟩ :=
    kept_by_publish hevent hsystem judged.storedEnvelope hsucceeds.stored
  have hstatus (reading : U64) : authorityStatus d.system.engine.tables envelope reading =
      authorityStatus c.system.engine.tables old reading :=
    authorityStatus_congr (sameAuthorities_of_publish hevent hsystem) hbinding hplan reading
  refine ⟨returned, hreturned, ?_, fun hopen ↦ ?_⟩
  · rintro ⟨reading, hsince, -, hcurrent⟩ stored hstored ⟨window, hbound, hends, hclosed⟩
    cases judged.storedEnvelope.symm.trans hstored
    rw [hstatus] at hcurrent
    exact not_lapsed_of_current hcurrent
      ⟨window, hbound, hends, UInt64.le_trans hclosed hsince⟩
  · refine ⟨returned, UInt64.le_refl _, hpast, ?_⟩
    rw [hstatus]
    exact current_later judged.current hread (hopen old judged.storedEnvelope)

end Successes

section Sample

def publishedTask (c : Clocked) : Option ApplyTask :=
  match c.system.calls[0]? with
  | some (Call.applyPublishing task _ _ _) => some task
  | _ => none

/-- The first call applies the sample envelope; its readback returned at 20, and the grant of the
envelope has the given end. -/
def confirms (ends : U64) (c d : Clocked) : Bool :=
  (publishedTask c).any fun task ↦ task.envelope = ⟨1⟩ && c.marks[0]? = some 20 && d.clock = 21 &&
    (c.system.engine.tables.attempts.find task.attempt.value).all (·.state ≠ .verified) &&
    (d.system.engine.tables.attempts.find task.attempt.value).any (·.state = .verified) &&
    (d.system.engine.tables.envelopes.find 1).any fun envelope ↦ envelope.state = .applied &&
      (d.system.engine.tables.grants.find envelope.grant.value).any
        (·.window.invalidAfterNs = ends) &&
      (ends ≤ 20 || authorityStatus d.system.engine.tables envelope 20 = .none)

theorem succeeds_of_confirms {ends : U64} (h : confirms ends c d = true) : ∃ task envelope grant,
    Succeeds c.system 0 d.system task envelope ∧ task.envelope = ⟨1⟩ ∧ c.marks[0]? = some 20 ∧
    d.clock = 21 ∧ d.system.engine.tables.grants.find envelope.grant.value = some grant ∧
    grant.window.invalidAfterNs = ends ∧
    (ends ≤ 20 ∨ authorityStatus d.system.engine.tables envelope 20 = .none) := by
  simp only [confirms, Option.any_eq_true, Option.all_eq_true, Bool.and_eq_true, Bool.or_eq_true,
    decide_eq_true_eq] at h
  obtain ⟨task, htask, ⟨⟨⟨⟨henvelope, hmark⟩, hclock⟩, hunverified⟩, attempt, hattempt, hverified⟩,
    envelope, hfind, ⟨happlied, grant, hgrant, hends⟩, hstatus⟩ := h
  refine ⟨task, envelope, grant, ⟨?_, hunverified, ⟨attempt, hattempt, hverified⟩, ?_, happlied⟩,
    henvelope, hmark, hclock, hgrant, hends, hstatus⟩
  · unfold publishedTask at htask
    split at htask
    · next call now backend verification hcall =>
      cases htask
      exact ⟨_, _, _, hcall⟩
    · cases htask
  · rw [henvelope]
    exact hfind

/-- An apply of the sample envelope under the grant, whose readback is asked for at 6 and returns at
20. -/
def slowSample (grant : Grant) : List Timed :=
  let acknowledged : List Action := register.set 1 ⟨.putGrant grant, []⟩ ++
    [⟨.openEnvelope sampleRequest actor 5, []⟩, ⟨.apply ⟨1⟩ actor 5 {}, []⟩,
      ⟨.dispatched 0 { status := .completed }, []⟩, ⟨.readClock 0 6, []⟩, ⟨.finish 0, []⟩]
  acknowledged.map (fun action ↦ { toAction := action, instant := 6 }) ++
    [{ event := .readBack 0 samplePresent 20, instant := 20 }]

def published : Timed := { event := .publish 0 21, instant := 21 }

theorem of_slowSample {grant : Grant} {ends : U64}
    (h : ((run clockedStep { system := sampleStart } (slowSample grant)).bind fun c ↦
      (clockedStep c published).map fun d ↦ confirms ends c d && Timely c published) = some true) :
    ∃ c d, run clockedStep { system := sampleStart } (slowSample grant) = some c ∧
      clockedStep c published = some d ∧ confirms ends c d = true ∧ Timely c published := by
  obtain ⟨c, hrun, h⟩ := Option.bind_eq_some_iff.1 h
  obtain ⟨d, hstep, h⟩ := Option.map_eq_some_iff.1 h
  simp only [Bool.and_eq_true, decide_eq_true_eq] at h
  exact ⟨c, d, hrun, hstep, h⟩

theorem success_under_lasting_grant : ∃ c d task envelope,
    Reaches clockedStep Timely { system := sampleStart } c ∧ clockedStep c published = some d ∧
    Succeeds c.system 0 d.system task envelope ∧
    ∀ old, c.system.engine.tables.envelopes.find task.envelope.value = some old →
      ¬Lapsed c.system.engine.tables old 20 := by
  have hguarded : Guarded clockedStep Timely { system := sampleStart } (slowSample sampleGrant) := by
    decide +kernel
  obtain ⟨c, d, hrun, hstep, hconfirms, htimely⟩ :=
    @of_slowSample sampleGrant kNeverExpiresNs (by decide +kernel)
  obtain ⟨task, envelope, grant, hsucceeds, -, hmark, hclock, -, -, hstatus⟩ :=
    succeeds_of_confirms hconfirms
  obtain ⟨returned, hreturned, hiff⟩ := success_current_iff rfl (reaches_of_run hguarded hrun)
    htimely rfl hstep hsucceeds
  cases hmark.symm.trans hreturned
  refine ⟨c, d, task, envelope, reaches_of_run hguarded hrun, hstep, hsucceeds,
    hiff.1 ⟨20, UInt64.le_refl _, ?_, ?_⟩⟩
  · rw [hclock]
    decide
  · exact hstatus.resolve_left (by decide)

/-- A grant that closes while the readback is outstanding does not keep the apply from being
published as applied. -/
theorem success_under_closed_grant : ¬∀ start c d timed i clock task envelope returned,
    start.calls = [] → Reaches clockedStep Timely { system := start } c → Timely c timed →
    timed.event = .publish i clock → clockedStep c timed = some d →
    Succeeds c.system i d.system task envelope → c.marks[i]? = some returned →
    ∃ reading, returned ≤ reading ∧ reading ≤ d.clock ∧
      authorityStatus d.system.engine.tables envelope reading = .none := by
  intro h
  have hguarded : Guarded clockedStep Timely { system := sampleStart }
      (slowSample { sampleGrant with window := ⟨0, 10⟩ }) := by decide +kernel
  obtain ⟨c, d, hrun, hstep, hconfirms, htimely⟩ :=
    @of_slowSample { sampleGrant with window := ⟨0, 10⟩ } 10 (by decide +kernel)
  obtain ⟨task, envelope, grant, hsucceeds, -, hmark, -, hgrant, hends, -⟩ :=
    succeeds_of_confirms hconfirms
  obtain ⟨reading, hsince, -, hcurrent⟩ := h sampleStart c d published 0 21 task envelope 20 rfl
    (reaches_of_run hguarded hrun) htimely rfl hstep hsucceeds hmark
  refine not_lapsed_of_current hcurrent ⟨grant.window, .grant hgrant, ?_, ?_⟩
  · rw [hends]
    rfl
  · rw [hends]
    exact UInt64.le_trans (by decide) hsince

end Sample

end RateGovernor.Safety.TimelySuccess
