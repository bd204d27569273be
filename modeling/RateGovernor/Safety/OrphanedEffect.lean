import RateGovernor.Dynamics.Dispatching
import RateGovernor.Model.Device
import RateGovernor.Safety.RevocationIntent

namespace RateGovernor.Safety.OrphanedEffect

open Model.CheckedMath Model.Identity Model.Reason Model.Entities Model.Envelope Model.EngineState
open Model.JournalWriter Model.Durability Model.Calls Model.Lifecycle Model.Completion
open Model.Revocation Model.Maintenance Model.Authority Model.Execution Model.Device
open Foundation.KeyedTable Foundation.GuardedRun Dynamics.Install Dynamics.Sections
open Dynamics.Staging Dynamics.Turns Dynamics.Evolution Dynamics.Bindings Dynamics.States
open Dynamics.Issue Dynamics.Dispatching Dynamics.Start RevocationIntent

variable {s t : System} {p q : Plant} {event : Event} {envelope old : RateEnvelope} {k : U64}

def mayBeInPlace (state : EnvelopeState) : Bool :=
  state = .applied || state = .degraded || state = .dispatching || state = .revokePending

/-- The engine knows that the device may hold an entry for the envelope. -/
def Knows (tables : Tables) (k : U64) : Prop :=
  ∃ envelope, tables.envelopes.find k = some envelope ∧
    (mayBeInPlace envelope.state = true ∨ envelope.requiresRevalidation = true ∨
      ∃ id attempt, tables.attempts.find id = some attempt ∧ attempt.envelope.value = k ∧
        attemptInflight attempt.state = true)

def Awaits (p : Plant) (k : U64) : Prop :=
  ∃ attempt envelope, Work.apply attempt envelope ∈ p.outstanding ∧
    Work.apply attempt envelope ∉ p.executed ∧ envelope.value = k

def MayHold (p : Plant) (k : U64) : Prop := k ∈ p.table ∨ Awaits p k

/-- The sections that declare an envelope free of effect with no confirmed readback to go by:
`authorize` of a dispatched one, the requeueing of a degraded one whose cooldown has expired, and
a revalidation that takes an unconfirmed answer for an absence. -/
inductive Forgets (s : System) : Event → U64 → Prop
  | authorized {id : RateEnvelopeId} {actor : ActorContext} {now : U64} {envelope : RateEnvelope}
      (found : s.engine.tables.envelopes.find id.value = some envelope)
      (dispatching : envelope.state = .dispatching)
      (plan : (derivePlanLocked s.engine envelope now).authorized = true) :
      Forgets s (.authorize id actor now) id.value
  | requeued {now : U64} {session : Session} {envelope : RateEnvelope}
      (found : s.engine.tables.envelopes.find envelope.id.value = some envelope)
      (degraded : envelope.state = .degraded) (undoubted : envelope.requiresRevalidation = false)
      (cooled : cooldownExpired envelope now = true) :
      Forgets s (.tick now session) envelope.id.value
  | revalidated {i : ℕ} {sweep : Sweep} {probe : Probe} {verification : VerificationOutcome}
      {now clock : U64} {envelope : RateEnvelope}
      (revalidating : Revalidating s i sweep probe verification now clock envelope)
      (answered : informative verification = true)
      (absent : verification.observedPresent = false)
      (unconfirmed : verification.status ≠ .confirmed) :
      Forgets s (.publish i clock) probe.id.value

/-- The call has read back that the envelope's entry is gone, and has yet to commit that. -/
def reportsAbsent (k : U64) : Call → Prop
  | .revokePublishing task _ _ verification _ =>
    task.envelope.value = k ∧ verification.status = .confirmed ∧
      verification.observedPresent = false
  | .recording _ probe verification _ =>
    probe.id.value = k ∧ verification.status = .confirmed ∧ verification.observedPresent = false
  | _ => False

/-- No section that commits forgets an envelope the device holds or may come to hold, and no apply
is on its way to the device or executed there between a readback that finds the entry gone and the
section that commits it. -/
def Remembers (p : Plant) : Move → Prop
  | .engine action => commits p.system action = true →
    (∀ k, Forgets p.system action.event k → ¬ MayHold p k) ∧
      ∀ k, ConfirmsAbsent p.system action.event k → ¬ Awaits p k
  | .perform (.apply _ envelope) =>
    ∀ call ∈ p.system.calls, ¬ reportsAbsent envelope.value call
  | _ => True

section States

theorem mayBeInPlace_iff {state : EnvelopeState} : mayBeInPlace state = true ↔
    state = .applied ∨ state = .degraded ∨ state = .dispatching ∨ state = .revokePending := by
  simp only [mayBeInPlace, Bool.or_eq_true, decide_eq_true_eq, or_assoc]

theorem inPlace_of_epochDemoted {now : U64} (h : epochDemoted now old = some envelope)
    (hold : mayBeInPlace old.state = true) : mayBeInPlace envelope.state = true := by
  unfold epochDemoted at h
  simp only at h
  split at h
  · cases h
  · cases h
    simp only
    split
    · rfl
    · exact hold

theorem inPlace_of_sessionLost (h : sessionLostEnvelope old = some envelope)
    (hold : mayBeInPlace old.state = true) : mayBeInPlace envelope.state = true := by
  unfold sessionLostEnvelope at h
  simp only at h
  split at h
  · cases h
  · cases h
    simp only
    split
    · rfl
    · exact hold

theorem inPlace_unauthorizedEnvelope (reason : ReasonCode) (now : U64)
    (hold : mayBeInPlace old.state = true) :
    mayBeInPlace (unauthorizedEnvelope old reason now).state = true := by
  unfold unauthorizedEnvelope
  obtain h | h | h | h := mayBeInPlace_iff.1 hold <;> rw [h] <;> rfl

theorem inPlace_authorizedEnvelope (plan : EffectivePlan) (now : U64)
    (hold : mayBeInPlace old.state = true) (hdispatching : old.state ≠ .dispatching) :
    mayBeInPlace (authorizedEnvelope old plan now).state = true := by
  unfold authorizedEnvelope
  simp only
  split
  · split
    · exact hold
    · rfl
  · next hactive =>
    simp only [Bool.or_eq_true, decide_eq_true_eq, not_or] at hactive
    split
    · next hother =>
      simp only [ne_eq, Bool.and_eq_true, decide_eq_true_eq] at hother
      obtain h | h | h | h := mayBeInPlace_iff.1 hold
      · exact absurd h hactive.1
      · exact absurd h hactive.2
      · exact absurd h hdispatching
      · exact absurd h hother.1
    · exact hold

theorem inPlace_lateEnvelope (reason : ReasonCode) (effect : Bool) (now : U64)
    (hold : mayBeInPlace old.state = true) :
    mayBeInPlace (lateEnvelope old reason effect now).state = true := by
  rw [state_lateEnvelope]
  split
  · rfl
  · exact hold

theorem inPlace_judgeApply {engine : Engine} {attempt : EnforcementAttempt}
    {request : ApplyRequest} {verification : VerificationOutcome} {now : U64} :
    mayBeInPlace (judgeApply engine old attempt request verification now).envelope.state = true := by
  unfold judgeApply
  simp only
  repeat' split
  all_goals rfl

theorem inPlace_judgeRevalidation {sweep : Sweep} {probe : Probe}
    {verification : VerificationOutcome} {now : U64} (hold : mayBeInPlace old.state = true)
    (h : informative verification = true → verification.observedPresent = true) :
    mayBeInPlace (judgeRevalidation sweep probe old verification now).envelope.state = true := by
  unfold judgeRevalidation
  simp only
  split
  · exact hold
  · next hanswered =>
    simp only [Bool.or_eq_true, decide_eq_true_eq, not_or] at hanswered
    rw [h (by simp only [informative, ne_eq, hanswered, not_false_eq_true, decide_true,
      Bool.and_self])]
    simp only [Bool.not_true, Bool.false_eq_true, if_false]
    split
    · rfl
    · simp only
      split <;> rfl

theorem inPlace_maintained (tables : Tables) (now : U64) (hold : mayBeInPlace old.state = true)
    (hkept : old.state = .degraded → cooldownExpired old now = true →
      old.requiresRevalidation = true) :
    mayBeInPlace (maintained tables old now).state = true := by
  have hrefill : (refillStage old now).1.state = old.state ∧
      (refillStage old now).1.cooldownUntilNs = old.cooldownUntilNs ∧
      (refillStage old now).1.requiresRevalidation = old.requiresRevalidation := by
    unfold refillStage
    split <;> exact ⟨rfl, rfl, rfl⟩
  have hcooled : (cooldownStage (refillStage old now).1 now).state = old.state := by
    unfold cooldownStage
    split
    · exact hrefill.1
    · next hexpired =>
      rw [Bool.not_eq_true, Bool.not_eq_false', cooldownExpired, hrefill.2.1] at hexpired
      simp only [hrefill.1, hrefill.2.2]
      split
      · next hrequeued =>
        simp only [Bool.and_eq_true, decide_eq_true_eq, Bool.not_eq_true'] at hrequeued
        rw [hkept hrequeued.1 hexpired] at hrequeued
        cases hrequeued.2
      · rfl
  refine (congrArg mayBeInPlace (state_staleStage _ _)).trans ?_
  rw [hcooled]
  split
  · have hholds : holdsEffect (cooldownStage (refillStage old now).1 now) = true := by
      simp only [holdsEffect, hcooled, Bool.or_eq_true, decide_eq_true_eq]
      obtain h | h | h | h := mayBeInPlace_iff.1 hold <;> simp only [h, true_or, or_true]
    rw [if_pos hholds]
    rfl
  · exact hold

end States

section Step

/-- A section that neither forgets the envelope nor commits its absence leaves it in a state that
says an entry may be in place. -/
theorem inPlace_of_stages {type} (h : Stages s event (.envelope type envelope))
    (htype : type ≠ .envelopeOpened)
    (hfind : s.engine.tables.envelopes.find envelope.id.value = some old)
    (hold : mayBeInPlace old.state = true) (hforgets : ¬ Forgets s event envelope.id.value)
    (habsent : ¬ ConfirmsAbsent s event envelope.id.value) :
    mayBeInPlace envelope.state = true := by
  have same {k : U64} {stored staged : RateEnvelope}
      (hstored : s.engine.tables.envelopes.find k = some stored)
      (hbinding : binding staged = binding stored)
      (hfind : s.engine.tables.envelopes.find staged.id.value = some old) :
      mayBeInPlace stored.state = true := by
    rw [stored_eq hstored hbinding hfind]
    exact hold
  cases h with
  | opened => exact absurd rfl htype
  | epochDemoted hfound hdemoted =>
    exact inPlace_of_epochDemoted hdemoted (same hfound (binding_of_epochDemoted hdemoted) hfind)
  | unauthorized hfound => exact inPlace_unauthorizedEnvelope _ _ (same hfound rfl hfind)
  | authorized hfound hplan =>
    refine inPlace_authorizedEnvelope _ _ (same hfound (binding_authorizedEnvelope _ _ _) hfind)
      fun hdispatching ↦ hforgets ?_
    rw [staged_id hfound (binding_authorizedEnvelope _ _ _)]
    exact .authorized hfound hdispatching hplan
  | denied admitted =>
    have hsame := same admitted.found rfl hfind
    exact hsame
  | planned admitted =>
    rw [state_plannedEnvelope]
    exact same admitted.found (binding_plannedEnvelope _ _) hfind
  | dispatching => rfl
  | lateFinishEnvelope finishing =>
    exact inPlace_lateEnvelope _ _ _
      (same finishing.storedEnvelope (binding_lateEnvelope _ _ _ _) hfind)
  | refusedApplyEnvelope => rfl
  | latePublishEnvelope publishing =>
    exact inPlace_lateEnvelope _ _ _
      (same publishing.storedEnvelope (binding_lateEnvelope _ _ _ _) hfind)
  | judgedApplyEnvelope => exact inPlace_judgeApply
  | revoking => rfl
  | refusedRevokeEnvelope => rfl
  | @judgedRevokeEnvelope i task now clock backend verification seen attempt stored publishing
      hacknowledged =>
    cases hconfirmed : revokeConfirmed verification with
    | false =>
      simp only [judgedRevokeEnvelope, hconfirmed, Bool.false_eq_true, if_false]
      rfl
    | true =>
      simp only [revokeConfirmed, Bool.and_eq_true, decide_eq_true_eq, Bool.not_eq_true'] at hconfirmed
      rw [staged_id publishing.storedEnvelope (binding_judgedRevokeEnvelope _ _ _ _)] at habsent
      exact absurd (.revoke publishing hacknowledged hconfirmed.1 hconfirmed.2) habsent
  | abandonedEnvelope => rfl
  | consumed hfound =>
    have hsame := same hfound rfl hfind
    exact hsame
  | sessionLost hfound hlost =>
    exact inPlace_of_sessionLost hlost (same hfound (binding_of_sessionLost hlost) hfind)
  | tickLost hfound hlost =>
    exact inPlace_of_sessionLost hlost (same hfound (binding_of_sessionLost hlost) hfind)
  | tickMaintained hfound =>
    refine inPlace_maintained _ _ (same hfound (binding_maintained _ _ _) hfind)
      fun hdegraded hcooled ↦ ?_
    rw [staged_id hfound (binding_maintained _ _ _)] at hforgets
    by_contra hundoubted
    exact hforgets (.requeued hfound hdegraded (by simpa using hundoubted) hcooled)
  | tickExpiredEnvelope => rfl
  | @revalidated i sweep probe verification now clock stored revalidating =>
    have hid := staged_id revalidating.storedEnvelope
      (binding_judgeRevalidation sweep probe stored verification now)
    rw [hid] at hforgets habsent
    refine inPlace_judgeRevalidation
      (same revalidating.storedEnvelope (binding_judgeRevalidation _ _ _ _ _) hfind)
      fun hanswered ↦ ?_
    by_contra hpresent
    rw [Bool.not_eq_true] at hpresent
    by_cases hconfirmed : verification.status = .confirmed
    · exact habsent (.revalidation revalidating hconfirmed hpresent)
    · exact hforgets (.revalidated revalidating hanswered hpresent hconfirmed)
  | shutdownEnvelope => rfl

end Step

section Plant

def AsksOwn : Call → Prop
  | .revokeVerifying task _ probe _ _ => probe.envelope.value = task.envelope.value
  | .probing _ probe => probe.request.envelope.value = probe.id.value
  | _ => True

/-- Every envelope the device holds or may come to hold is in a state that says so, and a readback
that found no entry is still right when it is committed. -/
structure Informed (p : Plant) : Prop where
  ids : IdsAhead p.system
  inPlace : ∀ k, MayHold p k → ∃ envelope, p.system.engine.tables.envelopes.find k = some envelope ∧
    mayBeInPlace envelope.state = true
  asked : ∀ call ∈ p.system.calls, AsksOwn call
  absent : ∀ call ∈ p.system.calls, ∀ k, reportsAbsent k call → k ∉ p.table

theorem asksOwn_of_begins {status : Status} {call : Call} (h : Begins s event status call) :
    AsksOwn call := by
  cases h with
  | revokeAcknowledged finishing =>
    have hkey := Registry.key_of_find finishing.storedEnvelope
    exact hkey
  | probing => rfl
  | _ => trivial

theorem asked_step {action : Action} (h : ∀ call ∈ s.calls, AsksOwn call)
    (hstep : step s action = some t) : ∀ call ∈ t.calls, AsksOwn call := by
  intro call hmem
  obtain hold | ⟨status, hbegins⟩ := calls_step hstep hmem
  · exact h call hold
  · exact asksOwn_of_begins hbegins

theorem absent_of_begins {status : Status} {call : Call} (h : Informed p)
    (htruthful : p.truthful event = true) (hbegins : Begins p.system event status call)
    (habsent : reportsAbsent k call) : k ∉ p.table := by
  cases hbegins with
  | @revokeVerified i verification now clock task probe backend seen status hfound =>
    obtain ⟨rfl, hconfirmed, habsent⟩ := habsent
    have hown : probe.envelope.value = task.envelope.value :=
      h.asked _ (List.mem_of_getElem? hfound)
    cases backend with
    | none => cases hconfirmed
    | some backend =>
      simp only [Plant.truthful, hfound, Option.bind_eq_bind, Option.bind_some, probedEnvelope,
        truthfulReadBack, verificationBy, Option.isSome_some, if_true] at htruthful hconfirmed habsent
      simpa [hconfirmed, habsent, hown] using htruthful
  | @probed i verification clock sweep probe status hfound =>
    obtain ⟨rfl, hconfirmed, habsent⟩ := habsent
    have hown : probe.request.envelope.value = probe.id.value :=
      h.asked _ (List.mem_of_getElem? hfound)
    simp only [Plant.truthful, hfound, Option.bind_eq_bind, Option.bind_some, probedEnvelope,
      truthfulReadBack] at htruthful
    simpa [hconfirmed, habsent, hown] using htruthful
  | _ => cases habsent

theorem awaits_engine {action : Action} {system : System}
    (h : Awaits { p with system, accepted := p.accepted ++ p.left action.event } k) :
    Awaits p k ∨ ∃ task backend, .applying task backend ∈ system.calls ∧
      .applying task backend ∉ p.system.calls ∧ task.request.envelope.value = k := by
  obtain ⟨attempt, envelope, hwork, hunexecuted, hk⟩ := h
  have before (hmem : Work.apply attempt envelope ∈ p.outstanding) : Awaits p k :=
    ⟨attempt, envelope, hmem, hunexecuted, hk⟩
  have waiting {call : Call} (hmem : call ∈ p.system.calls)
      (hcall : dispatchedWork call = some (.apply attempt envelope)) : Awaits p k :=
    before (List.mem_append_left _ (List.mem_filterMap.2 ⟨call, hmem, hcall⟩))
  obtain hcalls | haccepted := List.mem_append.1 hwork
  · obtain ⟨call, hmem, hcall⟩ := List.mem_filterMap.1 hcalls
    cases call with
    | applying task backend =>
      by_cases hold : .applying task backend ∈ p.system.calls
      · exact .inl (waiting hold hcall)
      · cases hcall
        exact .inr ⟨task, backend, hmem, hold, hk⟩
    | _ => cases hcall
  · obtain hold | hleft := List.mem_append.1 haccepted
    · exact .inl (before (List.mem_append_right _ hold))
    · unfold Plant.left at hleft
      split at hleft
      · split at hleft
        · obtain ⟨call, hfound, hcall⟩ := Option.bind_eq_some_iff.1 (Option.mem_toList.1 hleft)
          exact .inl (waiting (List.mem_of_getElem? hfound) hcall)
        · cases hleft
      · cases hleft

/-- The section commits the absence of an entry that the device does not hold and will not come to
hold. -/
theorem not_mayHold_of_confirmsAbsent (h : Informed p) (hawaits : ¬ Awaits p k)
    (hconfirms : ConfirmsAbsent p.system event k) : ¬ MayHold p k := by
  refine not_or.2 ⟨?_, hawaits⟩
  cases hconfirms with
  | revoke publishing _ hconfirmed habsent =>
    exact h.absent _ (List.mem_of_getElem? publishing.call) _ ⟨rfl, hconfirmed, habsent⟩
  | revalidation revalidating hconfirmed habsent =>
    exact h.absent _ (List.mem_of_getElem? revalidating.call) _ ⟨rfl, hconfirmed, habsent⟩

theorem informed_engine {action : Action} {system : System} (h : Informed p)
    (hok : Remembers p (.engine action)) (htruthful : p.truthful action.event = true)
    (hstep : step p.system action = some system) :
    Informed { p with system, accepted := p.accepted ++ p.left action.event } where
  ids := idsAhead_step h.ids hstep
  inPlace := by
    intro k hhold
    have kept (hhold : MayHold p k) : ∃ envelope,
        system.engine.tables.envelopes.find k = some envelope ∧
          mayBeInPlace envelope.state = true := by
      obtain ⟨old, hfind, hold⟩ := h.inPlace k hhold
      obtain ⟨envelope, hfind', -⟩ := binding_step h.ids hstep hfind
      refine ⟨envelope, hfind', ?_⟩
      obtain hsame | hcommits := same_or_commits hstep
      · rw [hsame, hfind] at hfind'
        cases hfind'
        exact hold
      obtain rfl | ⟨type, hstages, htype⟩ := replaced_step h.ids hstep hfind hfind'
      · exact hold
      · obtain ⟨hforgets, hconfirms⟩ := hok hcommits
        have hk := Registry.key_of_find hfind'
        rw [← hk] at hfind hhold
        exact inPlace_of_stages hstages htype hfind hold (fun h ↦ hforgets _ h hhold)
          fun habsent ↦
            not_mayHold_of_confirmsAbsent h (hconfirms _ habsent) habsent hhold
    obtain htable | hawaits := hhold
    · exact kept (.inl htable)
    · obtain hawaits | ⟨task, backend, hmem, hnew, rfl⟩ := awaits_engine hawaits
      · exact kept (.inr hawaits)
      · obtain ⟨envelope, attempt, hfind, hdispatches⟩ := dispatches_of_begun hstep hmem hnew
        rw [hdispatches.requested]
        exact ⟨envelope, hfind, mayBeInPlace_iff.2 (.inr (.inr (.inl hdispatches.state)))⟩
  asked := asked_step h.asked hstep
  absent := by
    intro call hmem k habsent
    obtain hold | ⟨status, hbegins⟩ := calls_step hstep hmem
    · exact h.absent call hold k habsent
    · exact absent_of_begins (p := p) h htruthful hbegins habsent

theorem informed_perform {work : Work} (h : Informed p) (hok : Remembers p (.perform work))
    (hwork : work ∈ p.outstanding) (hunexecuted : work ∉ p.executed) :
    Informed { p with table := work.execute p.table, executed := work :: p.executed } where
  ids := h.ids
  inPlace := by
    intro k hhold
    refine h.inPlace k ?_
    obtain htable | ⟨attempt, envelope, hmem, hunexecuted', hk⟩ := hhold
    · cases work with
      | apply attempt envelope =>
        obtain heq | htable := List.mem_insert_iff.1 htable
        · exact .inr ⟨attempt, envelope, hwork, hunexecuted, heq.symm⟩
        · exact .inl htable
      | revoke attempt envelope => exact .inl (List.mem_filter.1 htable).1
    · exact .inr ⟨attempt, envelope, hmem, fun h ↦ hunexecuted' (List.mem_cons_of_mem _ h), hk⟩
  asked := h.asked
  absent := by
    intro call hmem k habsent htable
    cases work with
    | apply attempt envelope =>
      obtain rfl | htable := List.mem_insert_iff.1 htable
      · exact hok call hmem habsent
      · exact h.absent call hmem k habsent htable
    | revoke attempt envelope => exact h.absent call hmem k habsent (List.mem_filter.1 htable).1

theorem informed_step {move : Move} (h : Informed p) (hok : Remembers p move)
    (hstep : p.step move = some q) : Informed q := by
  cases move with
  | engine action =>
    unfold Plant.step at hstep
    simp only at hstep
    split at hstep
    · next htruthful =>
      obtain ⟨system, hsystem, rfl⟩ := Option.map_eq_some_iff.1 hstep
      exact informed_engine h hok htruthful hsystem
    · cases hstep
  | perform work =>
    unfold Plant.step at hstep
    simp only at hstep
    split at hstep
    · next hwork =>
      cases hstep
      exact informed_perform h hok hwork.1 hwork.2
    · cases hstep
  | withdraw work =>
    unfold Plant.step at hstep
    simp only at hstep
    split at hstep
    · cases hstep
      refine ⟨h.ids, fun k hhold ↦ h.inPlace k (hhold.imp_right ?_), h.asked, h.absent⟩
      rintro ⟨attempt, envelope, hmem, hunexecuted, hk⟩
      refine ⟨attempt, envelope, ?_, hunexecuted, hk⟩
      exact List.mem_append.2 ((List.mem_append.1 hmem).imp_right List.mem_of_mem_erase)
    · cases hstep

theorem informed_of_initial (h : p.Initial) : Informed p := by
  obtain ⟨system, hfresh, rfl⟩ := h
  have hcalls : system.calls = [] := by
    obtain ⟨config, backend, session, journal, io, rfl⟩ := hfresh
    rfl
  refine ⟨idsAhead_of_fresh hfresh, ?_, ?_, ?_⟩
  · rintro k (htable | ⟨attempt, envelope, hmem, -⟩)
    · cases htable
    · rw [Plant.outstanding, hcalls] at hmem
      cases hmem
  · rw [hcalls]
    exact fun _ hmem ↦ absurd hmem List.not_mem_nil
  · rw [hcalls]
    exact fun _ hmem ↦ absurd hmem List.not_mem_nil

end Plant

/-- In every run that forgets no envelope the device may hold, the engine knows of every entry the
device has. -/
theorem known_of_held {start : Plant} (hinitial : start.Initial)
    (hrun : Reaches Plant.step Remembers start p) (hheld : k ∈ p.table) :
    Knows p.system.engine.tables k := by
  have hinformed : Informed p := hrun.invariant (informed_of_initial hinitial)
    fun _ _ _ h hok hstep ↦ informed_step h hok hstep
  obtain ⟨envelope, hfind, hstate⟩ := hinformed.inPlace k (.inl hheld)
  exact ⟨envelope, hfind, .inl hstate⟩

section Sample

def plain (p : Plant) : Move → Bool
  | .engine ⟨.authorize .., _⟩ | .engine ⟨.tick .., _⟩ | .engine ⟨.publish .., _⟩ => false
  | .perform (.apply ..) => p.system.calls.all fun
    | .revokePublishing .. | .recording .. => false
    | _ => true
  | _ => true

theorem remembers_of_plain {move : Move} (h : plain p move = true) : Remembers p move := by
  cases move with
  | engine action =>
    obtain ⟨event, io⟩ := action
    refine fun _ ↦ ⟨fun k hforgets ↦ ?_, fun k hconfirms ↦ ?_⟩
    · dsimp only at hforgets
      cases hforgets <;> cases h
    · dsimp only at hconfirms
      cases hconfirms <;> cases h
  | perform work =>
    cases work with
    | apply attempt envelope =>
      intro call hmem habsent
      have hcall := List.all_eq_true.1 h call hmem
      cases call with
      | revokePublishing => cases hcall
      | recording => cases hcall
      | _ => cases habsent
    | revoke attempt envelope => trivial
  | withdraw work => trivial

def knows (tables : Tables) (k : U64) : Bool :=
  match tables.envelopes.find k with
  | none => false
  | some envelope => mayBeInPlace envelope.state || envelope.requiresRevalidation ||
    tables.attempts.entries.any fun attempt ↦
      attempt.envelope.value = k && attemptInflight attempt.state

theorem knows_of_Knows {tables : Tables} (h : Knows tables k) : knows tables k = true := by
  obtain ⟨envelope, hfind, h⟩ := h
  simp only [knows, hfind, Bool.or_eq_true]
  obtain h | h | ⟨id, attempt, hattempt, hnamed, hinflight⟩ := h
  · exact .inl (.inl h)
  · exact .inl (.inr h)
  · refine .inr (List.any_eq_true.2 ⟨attempt, Registry.mem_entries_of_find hattempt, ?_⟩)
    simp only [hnamed, hinflight, decide_true, Bool.and_self]

def observePlant (moves : List Move) (P : Plant → Bool) : Bool :=
  match run Plant.step { system := sampleStart } moves with
  | none => false
  | some p => P p

theorem of_observePlant {moves : List Move} {P : Plant → Bool} (h : observePlant moves P = true) :
    ∃ p, run Plant.step { system := sampleStart } moves = some p ∧ P p = true := by
  unfold observePlant at h
  split at h
  · cases h
  · next p hrun => exact ⟨p, hrun, h⟩

theorem initial_sample : Plant.Initial { system := sampleStart } := ⟨_, fresh_sampleStart, rfl⟩

/-- An apply is dispatched and the device executes it. -/
def heldSample : List Move :=
  dispatchSample.map .engine ++ [.perform (.apply ⟨1⟩ ⟨1⟩)]

theorem known_after_dispatch : ∃ p, run Plant.step { system := sampleStart } heldSample = some p ∧
    1 ∈ p.table ∧ Knows p.system.engine.tables 1 := by
  have hguarded : Guarded Plant.step (fun p move ↦ plain p move = true) { system := sampleStart }
      heldSample := by
    decide +kernel
  obtain ⟨p, hrun, hheld⟩ : ∃ p, run Plant.step { system := sampleStart } heldSample = some p ∧
      decide (1 ∈ p.table) = true := of_observePlant (by decide +kernel)
  have hheld := of_decide_eq_true hheld
  have hreaches : Reaches Plant.step Remembers { system := sampleStart } p :=
    (reaches_of_run hguarded hrun).mono fun _ _ ↦ remembers_of_plain
  exact ⟨p, hrun, hheld, known_of_held initial_sample hreaches hheld⟩

/-- The reply to an executed apply is lost, a second apply is refused, and its cooldown expires. -/
def refusedSample : List Move :=
  ([.putFlow sampleFlow, .putGrant sampleGrant, .putResource sampleResource,
    .putPolicy { samplePolicy with hysteresis := { cooldownNs := 10 } }, .putBackend sampleBackend,
    .openEnvelope sampleRequest actor 5, .apply ⟨1⟩ actor 5 {}].map fun event ↦
      Move.engine ⟨event, []⟩) ++
  [.perform (.apply ⟨1⟩ ⟨1⟩)] ++
  ([.dispatched 0 { status := .failed }, .readClock 0 6, .finish 0,
    .apply ⟨1⟩ actor 20 {}, .dispatched 0 { status := .rejected }, .readClock 0 21, .finish 0,
    .tick 40 {}].map fun event ↦ Move.engine ⟨event, []⟩)

/-- The device still holds the entry, and the engine has no trace of it. -/
theorem orphaned_after_refusal : ¬ ∀ start p k, Plant.Initial start →
    Reaches Plant.step anyStep start p → p.system.calls = [] → k ∈ p.table →
    Knows p.system.engine.tables k := by
  intro h
  obtain ⟨p, hrun, horphan⟩ : ∃ p, run Plant.step { system := sampleStart } refusedSample = some p ∧
      (p.system.calls.isEmpty && decide (1 ∈ p.table) && !knows p.system.engine.tables 1) = true :=
    of_observePlant (by decide +kernel)
  simp only [Bool.and_eq_true, List.isEmpty_iff, decide_eq_true_eq, Bool.not_eq_true'] at horphan
  obtain ⟨⟨hcalls, hheld⟩, hunknown⟩ := horphan
  have hknows := knows_of_Knows (h _ p 1 initial_sample
    (reaches_of_run (guarded_anyStep _ _) hrun) hcalls hheld)
  rw [hunknown] at hknows
  cases hknows

end Sample

end RateGovernor.Safety.OrphanedEffect
