import RateGovernor.Dynamics.Start
import RateGovernor.Dynamics.Stopping
import RateGovernor.Dynamics.Waiting

namespace RateGovernor.Safety.Shutdown

open Model.CheckedMath Model.Identity Model.Reason Model.Entities Model.Envelope Model.EngineState
open Model.JournalWriter Model.Durability Model.Authority Model.Calls Model.Lifecycle
open Model.Completion Model.Revocation Model.Maintenance Model.Execution Foundation.KeyedTable
open Foundation.GuardedRun Dynamics.Install Dynamics.Sections Dynamics.Staging Dynamics.Turns
open Dynamics.Evolution Dynamics.Bindings Dynamics.Attempts Dynamics.Start Dynamics.Stopping

variable {s t u v : System} {action : Action} {now : U64} {io : Io}

section Closing

/-- The shutdown has nothing to commit, or its commit is done. -/
def Closes (s : System) (now : U64) (io : Io) : Prop :=
  ((shutdown s.engine now).perform s.engine io).2.1.failure = none

theorem status_of_closes (h : Closes s now io) (hrecords : (shutdown s.engine now).records ≠ []) :
    ((shutdown s.engine now).commit s.engine io).status = none := by
  unfold Closes Decision.perform at h
  rw [if_neg (by simpa using hrecords)] at h
  cases hstatus : ((shutdown s.engine now).commit s.engine io).status with
  | none => rfl
  | some error =>
    simp only [hstatus] at h
    cases h

theorem tables_of_closes (h : Closes s now io) (hstep : step s ⟨.shutdown now, io⟩ = some t) :
    t.engine.tables = installed s.engine.config s.engine.tables
      (shutdown s.engine now).records := by
  obtain ⟨decision, hsection, hturn⟩ := turn_of_step hstep
  cases hsection
  cases hturn with
  | quiet hempty =>
    have hempty : (shutdown s.engine now).records = [] := hempty
    rw [hempty]
    rfl
  | failed hrecords hfailed =>
    have hfailed : ((shutdown s.engine now).commit s.engine io).status = some _ := hfailed
    rw [status_of_closes h hrecords] at hfailed
    cases hfailed
  | committed => rfl

theorem stopped_of_shutdown (hstep : step s ⟨.shutdown now, io⟩ = some t) : Stopped t := by
  obtain ⟨decision, hsection, hturn⟩ := turn_of_step hstep
  cases hsection
  cases hturn <;> rfl

end Closing

section Authorities

/-- The authority tables hold the same entries. -/
structure SameAuthorities (tables tables' : Tables) : Prop where
  flows : tables'.flows = tables.flows
  grants : tables'.grants = tables.grants
  reservations : tables'.reservations = tables.reservations
  policies : tables'.policies = tables.policies
  resources : tables'.resources = tables.resources
  backends : tables'.backends = tables.backends

theorem SameAuthorities.trans {tables tables' tables'' : Tables} (h : SameAuthorities tables tables')
    (h' : SameAuthorities tables' tables'') : SameAuthorities tables tables'' :=
  ⟨h'.flows.trans h.flows, h'.grants.trans h.grants, h'.reservations.trans h.reservations,
    h'.policies.trans h.policies, h'.resources.trans h.resources, h'.backends.trans h.backends⟩

def storesAuthority : Staged → Bool
  | .flow .. | .grant .. | .reservation .. | .policy .. | .resource .. | .backend .. => true
  | _ => false

theorem sameAuthorities_installed {config : EngineConfig} {tables : Tables} {records : List Staged}
    (h : ∀ record ∈ records, storesAuthority record = false) :
    SameAuthorities tables (installed config tables records) := by
  obtain ⟨hflows, hgrants, hreservations, hpolicies, hresources, hbackends, -⟩ :=
    @installed_registries config tables records
  have none {β : Type} {f : Staged → Option β}
      (hf : ∀ record, storesAuthority record = false → f record = none) :
      ∀ record ∈ records, f record = none := fun record hmem ↦ hf record (h record hmem)
  constructor
  · rw [hflows]
    exact Registry.putAll_of_none (none fun record hrecord ↦ by cases record <;> trivial)
  · rw [hgrants]
    exact Registry.putAll_of_none (none fun record hrecord ↦ by cases record <;> trivial)
  · rw [hreservations]
    exact Registry.putAll_of_none (none fun record hrecord ↦ by cases record <;> trivial)
  · rw [hpolicies]
    exact Registry.putAll_of_none (none fun record hrecord ↦ by cases record <;> trivial)
  · rw [hresources]
    exact Registry.putAll_of_none (none fun record hrecord ↦ by cases record <;> trivial)
  · rw [hbackends]
    exact Registry.putAll_of_none (none fun record hrecord ↦ by cases record <;> trivial)

theorem takesWork_of_stages {event : Event} {record : Staged} (h : Stages s event record)
    (hrecord : storesAuthority record = true) : takesWork event = true := by
  cases h with
  | flow | grant | reservation | policy | resource | backend => rfl
  | grantState | reservationState | policyState | resourceState => rfl
  | _ => cases hrecord

theorem sameAuthorities_step (h : Stopped s) (hstep : step s action = some t) :
    SameAuthorities s.engine.tables t.engine.tables := by
  cases hwork : takesWork action.event with
  | true =>
    rw [unchanged_of_refused h hwork hstep]
    exact ⟨rfl, rfl, rfl, rfl, rfl, rfl⟩
  | false =>
    obtain ⟨records, hstages, htables⟩ := tables_step hstep
    rw [htables]
    refine sameAuthorities_installed fun record hmem ↦ ?_
    cases hrecord : storesAuthority record with
    | false => rfl
    | true =>
      have hworks := takesWork_of_stages (hstages record hmem) hrecord
      rw [hwork] at hworks
      cases hworks

end Authorities

section Attempts

/-- Every stored attempt was stored before, for the same purpose. -/
def NoneCreated (s t : System) : Prop :=
  ∀ k attempt, t.engine.tables.attempts.find k = some attempt →
    ∃ old, s.engine.tables.attempts.find k = some old ∧ identity attempt = identity old

theorem NoneCreated.trans (h : NoneCreated s t) (h' : NoneCreated t u) : NoneCreated s u := by
  intro k attempt hfind
  obtain ⟨old, hold, hsame⟩ := h' k attempt hfind
  obtain ⟨older, holder, hsame'⟩ := h k old hold
  exact ⟨older, holder, hsame.trans hsame'⟩

theorem attempt_of_not_created (hstep : step s action = some t)
    (hnone : ∀ attempt, ¬ Stages s action.event (.created attempt)) {k : U64}
    {attempt : EnforcementAttempt} (hfind : t.engine.tables.attempts.find k = some attempt) :
    ∃ old, s.engine.tables.attempts.find k = some old ∧ (attempt = old ∨ Moves old attempt) := by
  obtain hold | hcreated | ⟨type, hstages⟩ := attempt_step hstep hfind
  · exact ⟨attempt, hold, .inl rfl⟩
  · exact absurd hcreated (hnone attempt)
  · obtain ⟨old, hold, hmoves⟩ := moves_of_stages hstages
    have hkey := Registry.key_of_find hfind
    rw [hkey] at hold
    exact ⟨old, hold, .inr hmoves⟩

theorem not_created_of_stopped (h : Stopped s) {event : Event} (attempt : EnforcementAttempt) :
    ¬ Stages s event (.created attempt) := by
  intro hcreated
  have hrunning : s.engine.control.shuttingDown = false := by
    cases hcreated with
    | createdApply admitted => exact admitted.running
    | createdRevoke admitted => exact admitted.running
  exact absurd h (by unfold Stopped; rw [hrunning]; exact nofun)

theorem noneCreated_of_moved (h : ∀ k attempt, t.engine.tables.attempts.find k = some attempt →
    ∃ old, s.engine.tables.attempts.find k = some old ∧ (attempt = old ∨ Moves old attempt)) :
    NoneCreated s t := by
  intro k attempt hfind
  obtain ⟨old, hold, rfl | hmoves⟩ := h k attempt hfind
  · exact ⟨attempt, hold, rfl⟩
  · exact ⟨old, hold, hmoves.same⟩

end Attempts

section Applies

/-- The step runs a section of `finish_apply`. -/
def finishesApply (s : System) : Event → Bool
  | .finish i => match s.calls[i]? with
    | some (.applyFinishing ..) => true
    | _ => false
  | .publish i _ => match s.calls[i]? with
    | some (.applyPublishing ..) => true
    | _ => false
  | _ => false

/-- The step makes no envelope Applied that was not. -/
def NoneApplied (s t : System) : Prop :=
  ∀ k new, t.engine.tables.envelopes.find k = some new → new.state = .applied →
    ∃ old, s.engine.tables.envelopes.find k = some old ∧ old.state = .applied

theorem applied_of_lateEnvelope {old : RateEnvelope} {reason : ReasonCode} {effect : Bool}
    (h : (lateEnvelope old reason effect now).state = .applied) : old.state = .applied := by
  rw [Dynamics.States.state_lateEnvelope] at h
  split at h
  · cases h
  · exact h

theorem noneApplied_of_grounded (h : Grounded s) (hstep : step s action = some t)
    (hfinishes : finishesApply s action.event = true) : NoneApplied s t := by
  intro k new hfind happlied
  have kept {j : U64} {old : RateEnvelope}
      (hold : s.engine.tables.envelopes.find j = some old) (hid : new.id = old.id)
      (hstate : old.state = .applied) :
      ∃ old, s.engine.tables.envelopes.find k = some old ∧ old.state = .applied := by
    have hkey := Registry.key_of_find hfind
    have hkey' := Registry.key_of_find hold
    rw [hid] at hkey
    rw [hkey'] at hkey
    exact ⟨old, hkey ▸ hold, hstate⟩
  obtain hold | ⟨type, hstages⟩ := envelope_step hstep hfind
  · exact ⟨new, hold, happlied⟩
  · generalize action.event = event at hstages hfinishes
    cases hstages with
    | lateFinishEnvelope finishing =>
      exact kept finishing.storedEnvelope
        (congrArg Binding.id (binding_lateEnvelope _ _ _ _)) (applied_of_lateEnvelope happlied)
    | refusedApplyEnvelope accepted => cases happlied
    | latePublishEnvelope publishing =>
      exact kept publishing.storedEnvelope
        (congrArg Binding.id (binding_lateEnvelope _ _ _ _)) (applied_of_lateEnvelope happlied)
    | judgedApplyEnvelope judged =>
      have hgrounded := h _ _ judged.storedAttempt
      rw [judged.acknowledged] at hgrounded
      cases hgrounded
    | refusedRevokeEnvelope finishing => cases happlied
    | judgedRevokeEnvelope publishing hacknowledged =>
      have hgrounded := h _ _ publishing.storedAttempt
      rw [hacknowledged] at hgrounded
      cases hgrounded
    | revalidated revalidating =>
      simp only [finishesApply, revalidating.call] at hfinishes
      cases hfinishes
    | _ => cases hfinishes

end Applies

section Finality

/-- What holds in every state after a shutdown of `s` that is done. -/
structure Final (s u : System) : Prop where
  stopped : Stopped u
  grounded : Grounded u
  unverified : ∀ k attempt later, s.engine.tables.attempts.find k = some attempt →
    attemptInflight attempt.state = true → u.engine.tables.attempts.find k = some later →
      later.state ≠ .verified
  created : NoneCreated s u
  authorities : SameAuthorities s.engine.tables u.engine.tables

theorem final_of_shutdown (hcloses : Closes s now io) (hstep : step s ⟨.shutdown now, io⟩ = some t) :
    Final s t := by
  have htables := tables_of_closes hcloses hstep
  have hgrounded : Grounded t := by
    intro k attempt hfind
    rw [htables] at hfind
    exact grounded_installed hfind
  refine ⟨stopped_of_shutdown hstep, hgrounded, ?_, ?_, ?_⟩
  · intro k attempt later hfind hinflight hlater
    have hended := hgrounded k later hlater
    rw [htables] at hlater
    obtain ⟨record, hmem, hrecord⟩ | hold := installed_attempts _ _ hlater
    · rw [terminal_of_shutdown hmem hrecord]
      exact nofun
    · rw [hfind] at hold
      cases hold
      rw [hinflight] at hended
      cases hended
  · refine noneCreated_of_moved fun k attempt hfind ↦ attempt_of_not_created hstep ?_ hfind
    exact fun _ hcreated ↦ nomatch hcreated
  · rw [htables]
    refine sameAuthorities_installed fun record hmem ↦ ?_
    obtain hmem | hmem := List.mem_append.1 hmem
    · obtain ⟨_, -, rfl⟩ := List.mem_map.1 hmem
      rfl
    · obtain ⟨_, -, rfl⟩ := List.mem_map.1 hmem
      rfl

theorem final_step (h : Final s t) (hstep : step t action = some u) : Final s u := by
  have hnone := fun attempt ↦ @not_created_of_stopped t h.stopped action.event attempt
  refine ⟨stopped_step h.stopped hstep, grounded_step h.grounded h.stopped hstep, ?_, ?_,
    h.authorities.trans (sameAuthorities_step h.stopped hstep)⟩
  · intro k attempt later hfind hinflight hlater hverified
    obtain ⟨old, hold, rfl | hmoves⟩ := attempt_of_not_created hstep hnone hlater
    · exact h.unverified k attempt later hfind hinflight hold hverified
    · have hended := h.grounded k old hold
      rw [hmoves.verified hverified] at hended
      cases hended
  · exact h.created.trans
      (noneCreated_of_moved fun k attempt hfind ↦ attempt_of_not_created hstep hnone hfind)

/-- Whatever was under way when the shutdown was committed: afterwards no attempt that was in
flight is ever Verified, no attempt is created, no authority changes, and `finish_apply` makes no
envelope Applied. -/
theorem shutdown_final (hcloses : Closes s now io) (hstop : step s ⟨.shutdown now, io⟩ = some t)
    (hrun : Reaches step anyStep t u) :
    (∀ k attempt later, s.engine.tables.attempts.find k = some attempt →
      attemptInflight attempt.state = true → u.engine.tables.attempts.find k = some later →
        later.state ≠ .verified) ∧
      NoneCreated s u ∧ SameAuthorities s.engine.tables u.engine.tables ∧
      ∀ action v, step u action = some v → finishesApply u action.event = true →
        NoneApplied u v := by
  have hfinal : Final s u := hrun.invariant (final_of_shutdown hcloses hstop)
    fun _ _ _ h _ hstep ↦ final_step h hstep
  exact ⟨hfinal.unverified, hfinal.created, hfinal.authorities,
    fun _ _ hstep hfinishes ↦ noneApplied_of_grounded hfinal.grounded hstep hfinishes⟩

/-- The sample apply is dispatched and its answer on its way when the engine is shut down. -/
def stopSample : List Action := dispatchSample ++ [⟨.dispatched 0 { status := .completed }, []⟩]

def lateSample : List Action := [⟨.readClock 0 8, []⟩, ⟨.finish 0, []⟩]

theorem shutdown_final_of_dispatched : ∃ s u, (∃ attempt,
      s.engine.tables.attempts.find 1 = some attempt ∧ attempt.state = .created) ∧
    (∃ later, u.engine.tables.attempts.find 1 = some later) ∧
    (∀ k attempt later, s.engine.tables.attempts.find k = some attempt →
      attemptInflight attempt.state = true → u.engine.tables.attempts.find k = some later →
        later.state ≠ .verified) ∧
      NoneCreated s u ∧ SameAuthorities s.engine.tables u.engine.tables ∧
      ∀ action v, step u action = some v → finishesApply u action.event = true →
        NoneApplied u v := by
  obtain ⟨s, hs⟩ := Option.isSome_iff_exists.1 (by decide +kernel :
    (run step sampleStart stopSample).isSome = true)
  obtain ⟨t, ht⟩ := Option.isSome_iff_exists.1 (by decide +kernel :
    ((run step sampleStart stopSample).bind (step · ⟨.shutdown 7, []⟩)).isSome = true)
  obtain ⟨u, hu⟩ := Option.isSome_iff_exists.1 (by decide +kernel :
    (((run step sampleStart stopSample).bind (step · ⟨.shutdown 7, []⟩)).bind
      (run step · lateSample)).isSome = true)
  have hcreated : ((run step sampleStart stopSample).bind
      (·.engine.tables.attempts.find 1)).map (·.state) = some .created := by decide +kernel
  have hlater : ((((run step sampleStart stopSample).bind (step · ⟨.shutdown 7, []⟩)).bind
      (run step · lateSample)).bind (·.engine.tables.attempts.find 1)).isSome = true := by
    decide +kernel
  have hcloses : (run step sampleStart stopSample).all
      (fun s ↦ ((shutdown s.engine 7).perform s.engine []).2.1.failure.isNone) = true := by
    decide +kernel
  rw [hu] at hlater
  rw [ht] at hu
  rw [hs] at ht hcreated hcloses
  refine ⟨s, u, Option.map_eq_some_iff.1 hcreated, Option.isSome_iff_exists.1 hlater, ?_⟩
  exact shutdown_final (Option.isNone_iff_eq_none.1 hcloses) ht
    (reaches_of_run (guarded_anyStep t lateSample) hu)

end Finality

end RateGovernor.Safety.Shutdown
