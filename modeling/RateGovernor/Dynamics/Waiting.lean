import Mathlib.Data.List.Nodup
import RateGovernor.Dynamics.States
import RateGovernor.Dynamics.Demotion

namespace RateGovernor.Dynamics.Waiting

open Model.CheckedMath Model.Identity Model.Reason Model.Entities Model.Envelope Model.EngineState
open Model.Durability Model.Authority Model.Calls Model.Lifecycle Model.Completion Model.Revocation
open Model.Maintenance Model.Execution Foundation.KeyedTable
open Install Sections Staging Evolution Bindings States Demotion

variable {s : System} {event : Event} {old new : RateEnvelope} {now : U64} {tables : Tables}

section States

theorem not_dispatching_of_epochDemoted (h : epochDemoted now old = some new) :
    new.state ≠ .dispatching := by
  unfold epochDemoted at h
  simp only at h
  split at h
  · cases h
  · cases h
    simp only
    split
    · exact nofun
    · next hinactive =>
      simp only [Bool.or_eq_true, decide_eq_true_eq, not_or] at hinactive
      exact hinactive.2

theorem not_dispatching_of_sessionLost (h : sessionLostEnvelope old = some new) :
    new.state ≠ .dispatching := by
  unfold sessionLostEnvelope at h
  simp only at h
  split at h
  · cases h
  · cases h
    simp only
    split
    · exact nofun
    · next hinactive =>
      simp only [Bool.or_eq_true, decide_eq_true_eq, not_or] at hinactive
      exact hinactive.2

theorem not_dispatching_authorizedEnvelope (old : RateEnvelope) (plan : EffectivePlan) (now : U64) :
    (authorizedEnvelope old plan now).state ≠ .dispatching := by
  unfold authorizedEnvelope
  simp only
  split
  · next hactive =>
    simp only [Bool.or_eq_true, decide_eq_true_eq] at hactive
    split
    · show old.state ≠ .dispatching
      obtain h | h := hactive <;> rw [h] <;> exact nofun
    · exact nofun
  · split
    · exact nofun
    · next hrevoking =>
      show old.state ≠ .dispatching
      intro hstate
      simp only [hstate, ne_eq, reduceCtorEq, not_false_eq_true, decide_true, Bool.and_self,
        not_true_eq_false] at hrevoking

theorem dispatching_of_maintained (tables : Tables) (now : U64)
    (h : (maintained tables old now).state = .dispatching) : old.state = .dispatching := by
  have hstale : (staleStage (cooldownStage (refillStage old now).1 now)
      (authorityStatus tables (cooldownStage (refillStage old now).1 now) now)).state =
        .dispatching := h
  rw [state_staleStage] at hstale
  split at hstale
  · split at hstale <;> cases hstale
  · by_cases hdegraded : (refillStage old now).1.state = .degraded
    · unfold cooldownStage at hstale
      split at hstale
      · rw [hdegraded] at hstale
        cases hstale
      · simp only at hstale
        split at hstale
        · cases hstale
        · rw [hdegraded] at hstale
          cases hstale
    · rw [state_cooldownStage hdegraded, state_refillStage] at hstale
      exact hstale

theorem not_dispatching_judgeApply (engine : Engine) (old : RateEnvelope)
    (attempt : EnforcementAttempt) (request : ApplyRequest) (verification : VerificationOutcome)
    (now : U64) :
    (judgeApply engine old attempt request verification now).envelope.state ≠ .dispatching := by
  unfold judgeApply
  simp only
  repeat' split
  all_goals exact nofun

theorem not_dispatching_judgedRevokeEnvelope (old : RateEnvelope) (reason : ReasonCode)
    (verification : VerificationOutcome) (now : U64) :
    (judgedRevokeEnvelope old reason verification now).state ≠ .dispatching := by
  unfold judgedRevokeEnvelope
  simp only
  split <;> exact nofun

theorem dispatching_of_judgeRevalidation (sweep : Sweep) (probe : Probe)
    (verification : VerificationOutcome) (now : U64)
    (h : (judgeRevalidation sweep probe old verification now).envelope.state = .dispatching) :
    old.state = .dispatching := by
  unfold judgeRevalidation at h
  simp only at h
  repeat' split at h
  all_goals first
    | exact h
    | cases h

theorem dispatching_of_lateEnvelope {reason : ReasonCode} {effect : Bool}
    (h : (lateEnvelope old reason effect now).state = .dispatching) :
    effect = false ∧ old.state = .dispatching := by
  rw [state_lateEnvelope] at h
  split at h
  · cases h
  · next hquiet =>
    rw [h] at hquiet
    cases effect with
    | false => exact ⟨rfl, h⟩
    | true => exact absurd rfl hquiet

/-- An envelope is left dispatching only by a section that found it so, or that dispatches it. -/
theorem dispatching_of_stages {type} (h : Stages s event (.envelope type new))
    (hstate : new.state = .dispatching) :
    (∃ old, s.engine.tables.envelopes.find new.id.value = some old ∧ old.state = .dispatching) ∨
      ∃ id actor now session envelope backend, event = .apply id actor now session ∧
        ApplyAdmitted s id now session envelope backend ∧ new.id = envelope.id ∧
        (derivePlanLocked s.engine envelope now).authorized = true := by
  have kept {k : U64} {old : RateEnvelope} (hfound : s.engine.tables.envelopes.find k = some old)
      (hbinding : binding new = binding old) (hold : old.state = .dispatching) :
      ∃ old, s.engine.tables.envelopes.find new.id.value = some old ∧ old.state = .dispatching := by
    refine ⟨old, ?_, hold⟩
    rw [staged_id hfound hbinding]
    exact hfound
  cases h with
  | opened => cases hstate
  | epochDemoted _ hdemoted => exact absurd hstate (not_dispatching_of_epochDemoted hdemoted)
  | unauthorized hfound =>
    refine .inl (kept hfound rfl ?_)
    simp only [unauthorizedEnvelope] at hstate
    split at hstate
    · cases hstate
    · exact hstate
  | authorized => exact absurd hstate (not_dispatching_authorizedEnvelope _ _ _)
  | denied admitted => exact .inl (kept admitted.found rfl hstate)
  | planned admitted =>
    refine .inl (kept admitted.found (binding_plannedEnvelope _ _) ?_)
    rw [state_plannedEnvelope] at hstate
    exact hstate
  | dispatching admitted hplan =>
    exact .inr ⟨_, _, _, _, _, _, rfl, admitted,
      congrArg Binding.id (binding_plannedEnvelope _ _), hplan⟩
  | lateFinishEnvelope finishing =>
    exact .inl (kept finishing.storedEnvelope (binding_lateEnvelope _ _ _ _)
      (dispatching_of_lateEnvelope hstate).2)
  | refusedApplyEnvelope => cases hstate
  | latePublishEnvelope publishing =>
    exact .inl (kept publishing.storedEnvelope (binding_lateEnvelope _ _ _ _)
      (dispatching_of_lateEnvelope hstate).2)
  | judgedApplyEnvelope => exact absurd hstate (not_dispatching_judgeApply _ _ _ _ _ _)
  | revoking => cases hstate
  | refusedRevokeEnvelope => cases hstate
  | judgedRevokeEnvelope => exact absurd hstate (not_dispatching_judgedRevokeEnvelope _ _ _ _)
  | abandonedEnvelope => cases hstate
  | consumed hfound => exact .inl (kept hfound rfl hstate)
  | sessionLost _ hlost => exact absurd hstate (not_dispatching_of_sessionLost hlost)
  | tickLost _ hlost => exact absurd hstate (not_dispatching_of_sessionLost hlost)
  | tickMaintained hfound =>
    exact .inl (kept hfound (binding_maintained _ _ _) (dispatching_of_maintained _ _ hstate))
  | tickExpiredEnvelope => cases hstate
  | revalidated revalidating =>
    exact .inl (kept revalidating.storedEnvelope (binding_judgeRevalidation _ _ _ _ _)
      (dispatching_of_judgeRevalidation _ _ _ _ hstate))
  | shutdownEnvelope => cases hstate

end States

section Merging

variable {α : Type} {key : α → U64} {candidate x : α} {list : List α}

theorem mem_mergeBy_self (candidate : α) (list : List α) :
    candidate ∈ mergeBy key candidate list := by
  induction list with
  | nil => exact List.mem_singleton.2 rfl
  | cons existing list ih =>
    unfold mergeBy
    split
    · exact List.mem_cons_self
    · exact List.mem_cons_of_mem _ ih

theorem mem_mergeBy_of_ne (h : x ∈ list) (hkey : key x ≠ key candidate) :
    x ∈ mergeBy key candidate list := by
  induction list with
  | nil => cases h
  | cons existing list ih =>
    unfold mergeBy
    split
    · next hsame =>
      obtain rfl | h := List.mem_cons.1 h
      · exact absurd hsame hkey
      · exact List.mem_cons_of_mem _ h
    · obtain rfl | h := List.mem_cons.1 h
      · exact List.mem_cons_self
      · exact List.mem_cons_of_mem _ (ih h)

theorem nodup_mergeBy (candidate : α) (h : (list.map key).Nodup) :
    ((mergeBy key candidate list).map key).Nodup := by
  induction list with
  | nil => exact List.nodup_singleton _
  | cons existing list ih =>
    rw [List.map_cons, List.nodup_cons] at h
    unfold mergeBy
    split
    · next hsame =>
      rw [List.map_cons, List.nodup_cons, ← hsame]
      exact h
    · next hother =>
      rw [List.map_cons, List.nodup_cons]
      refine ⟨fun hmem ↦ ?_, ih h.2⟩
      obtain ⟨y, hy, hkey⟩ := List.mem_map.1 hmem
      obtain rfl | hold := mem_mergeBy hy
      · exact hother hkey.symm
      · exact h.1 (List.mem_map.2 ⟨y, hold, hkey⟩)

theorem nodup_foldl_mergeBy (list : List α) {merged : List α} (h : (merged.map key).Nodup) :
    ((list.foldl (fun merged candidate ↦ mergeBy key candidate merged) merged).map key).Nodup := by
  induction list generalizing merged with
  | nil => exact h
  | cons candidate list ih => exact ih (nodup_mergeBy candidate h)

end Merging

section Ticks

/-- The envelope of every attempt whose deadline a tick has found passed is degraded by it. -/
structure Degrades (tables : Tables) (state : TickState) : Prop where
  distinct : (state.envelopeUpdates.map (·.id.value)).Nodup
  degraded : ∀ a ∈ state.attemptUpdates, ∀ envelope,
    tables.envelopes.find a.envelope.value = some envelope →
      ∃ v ∈ state.envelopeUpdates, v.id = envelope.id ∧ v.state = .degraded

theorem degrades_tickStart (engine : Engine) (now : U64) (sessionLost : Bool) :
    Degrades engine.tables (tickStart engine now sessionLost) := by
  refine ⟨?_, fun _ h ↦ absurd h List.not_mem_nil⟩
  unfold tickStart
  simp only
  split
  · exact nodup_foldl_mergeBy _ List.nodup_nil
  · exact List.nodup_nil

theorem degrades_tickEnvelope {state : TickState} (envelope : RateEnvelope)
    (hnone : state.attemptUpdates = []) (h : Degrades tables state) :
    (tickEnvelope tables now state envelope).attemptUpdates = [] ∧
      Degrades tables (tickEnvelope tables now state envelope) := by
  have hkept : (tickEnvelope tables now state envelope).attemptUpdates = [] := hnone
  refine ⟨hkept, ?_, ?_⟩
  · unfold tickEnvelope
    simp only
    split
    · exact nodup_mergeBy _ h.distinct
    · exact h.distinct
  · intro a hmem
    rw [hkept] at hmem
    cases hmem

theorem degrades_tickAttempt {state : TickState} (attempt : EnforcementAttempt)
    (h : Degrades tables state) : Degrades tables (tickAttempt tables now state attempt) := by
  unfold tickAttempt
  split
  · exact h
  · split
    · exact ⟨h.distinct, h.degraded⟩
    · simp only
      split
      · next hnone =>
        refine ⟨h.distinct, fun a hmem envelope hfind ↦ ?_⟩
        obtain rfl | hold := mem_mergeBy hmem
        · cases hnone.symm.trans hfind
        · exact h.degraded a hold envelope hfind
      · next stored hstored =>
        refine ⟨nodup_mergeBy _ h.distinct, fun a hmem envelope hfind ↦ ?_⟩
        obtain rfl | hold := mem_mergeBy hmem
        · cases hstored.symm.trans hfind
          exact ⟨_, mem_mergeBy_self _ _, rfl, rfl⟩
        · obtain ⟨v, hv, hid, hstate⟩ := h.degraded a hold envelope hfind
          by_cases hsame : v.id.value = stored.id.value
          · refine ⟨_, mem_mergeBy_self _ _, ?_, rfl⟩
            exact (StrongId.eq_of_value hsame).symm.trans hid
          · exact ⟨v, mem_mergeBy_of_ne hv hsame, hid, hstate⟩

theorem degrades_tickPasses (engine : Engine) (now : U64) (sessionLost : Bool) :
    Degrades engine.tables (tickPasses engine now sessionLost) := by
  have envelopes (list : List RateEnvelope) (state : TickState)
      (h : state.attemptUpdates = [] ∧ Degrades engine.tables state) :
      Degrades engine.tables (list.foldl (tickEnvelope engine.tables now) state) := by
    induction list generalizing state with
    | nil => exact h.2
    | cons envelope list ih => exact ih _ (degrades_tickEnvelope envelope h.1 h.2)
  have attempts (list : List EnforcementAttempt) (state : TickState)
      (h : Degrades engine.tables state) :
      Degrades engine.tables (list.foldl (tickAttempt engine.tables now) state) := by
    induction list generalizing state with
    | nil => exact h
    | cons attempt list ih => exact ih _ (degrades_tickAttempt attempt h)
  exact attempts _ _ (envelopes _ _ ⟨rfl, degrades_tickStart engine now sessionLost⟩)

end Ticks

section Ends

variable {config : EngineConfig} {records : List Staged} {attempt : EnforcementAttempt}

/-- The section leaves the envelope of the attempt in another state than dispatching. -/
def Released (config : EngineConfig) (tables : Tables) (records : List Staged)
    (attempt : EnforcementAttempt) : Prop :=
  ∀ v, (installed config tables records).envelopes.find attempt.envelope.value = some v →
    v.state ≠ .dispatching

theorem released_of_last {type type' : _} {envelope : RateEnvelope}
    (hid : envelope.id = attempt.envelope) (hstate : envelope.state ≠ .dispatching) :
    Released config tables [.attempt type attempt, .envelope type' envelope] attempt := by
  intro v hfind
  have hput : (tables.envelopes.put envelope).find attempt.envelope.value = some v := hfind
  rw [← hid, Registry.find_put_self] at hput
  cases hput
  exact hstate

theorem released_tick {engine : Engine} {session : Session} {type}
    (hmem : .attempt type attempt ∈ (tick engine now session).records)
    (hstored : ∃ envelope, engine.tables.envelopes.find attempt.envelope.value = some envelope) :
    Released config engine.tables (tick engine now session).records attempt := by
  intro v hfind
  obtain ⟨envelope, hstored⟩ := hstored
  have hdegrades := degrades_tickPasses engine now
    (engine.control.backend.isSome && engine.control.backendBound && !session.live)
  obtain hmem | hmem := List.mem_append.1 hmem
  · obtain ⟨_, -, hfalse⟩ := List.mem_map.1 hmem
    cases hfalse
  · obtain ⟨a, ha, heq⟩ := List.mem_map.1 hmem
    cases heq
    obtain ⟨w, hw, hid, hstate⟩ := hdegrades.degraded attempt ha envelope hstored
    have hkey : w.id.value = attempt.envelope.value := by
      have hk := Registry.key_of_find hstored
      rw [hid]
      exact hk
    rw [(installed_registries _ _).2.2.2.2.2.2] at hfind
    have hrecord : .envelope .envelopeStateChange w ∈ (tick engine now session).records :=
      List.mem_append_left _ (List.mem_map.2 ⟨w, hw, rfl⟩)
    obtain ⟨u, hu, record, hmem', hrecord'⟩ :=
      Registry.find_putAll_of_mem (r := engine.tables.envelopes) (f := envelope?) hrecord rfl
    rw [hkey, hfind] at hu
    cases hu
    obtain hmem' | hmem' := List.mem_append.1 hmem'
    · obtain ⟨x, hx, rfl⟩ := List.mem_map.1 hmem'
      cases hrecord'
      have hv := Registry.key_of_find hfind
      have hsame : v = w := List.inj_on_of_nodup_map hdegrades.distinct hx hw (hv.trans hkey.symm)
      rw [hsame, hstate]
      exact nofun
    · obtain ⟨x, -, rfl⟩ := List.mem_map.1 hmem'
      cases hrecord'

theorem released_shutdown {engine : Engine} {type}
    (hmem : .attempt type attempt ∈ (shutdown engine now).records)
    (hstored : ∃ envelope, engine.tables.envelopes.find attempt.envelope.value = some envelope) :
    Released config engine.tables (shutdown engine now).records attempt := by
  intro v hfind
  obtain ⟨envelope, hstored⟩ := hstored
  obtain hmem | hmem := List.mem_append.1 hmem
  · obtain ⟨a, ha, heq⟩ := List.mem_map.1 hmem
    cases heq
    obtain ha | ha := mem_foldl_mergeBy ha
    · obtain ⟨found, hfound, rfl⟩ := List.mem_map.1 ha
      have hcandidate : doubtedEnvelope envelope .engineShutdown now ∈
          (inflightAttempts engine.tables).filterMap fun attempt ↦
            (engine.tables.envelopes.find attempt.envelope.value).map
              (doubtedEnvelope · .engineShutdown now) := by
        refine List.mem_filterMap.2 ⟨found, hfound, ?_⟩
        rw [show engine.tables.envelopes.find found.envelope.value = some envelope from hstored]
        rfl
      obtain ⟨u, hu, hukey⟩ := exists_foldl_mergeBy (fun e : RateEnvelope ↦ e.id.value) []
        (.inl hcandidate)
      have hrecord : .envelope .envelopeStateChange u ∈ (shutdown engine now).records :=
        List.mem_append_right _ (List.mem_map.2 ⟨u, hu, rfl⟩)
      rw [(installed_registries _ _).2.2.2.2.2.2] at hfind
      obtain ⟨w, hw, record, hmem', hrecord'⟩ :=
        Registry.find_putAll_of_mem (r := engine.tables.envelopes) (f := envelope?) hrecord rfl
      have hkey := Registry.key_of_find hstored
      have hsame : u.id.value = found.envelope.value := hukey.trans hkey
      rw [hsame] at hw
      cases hw.symm.trans hfind
      obtain hmem' | hmem' := List.mem_append.1 hmem'
      · obtain ⟨x, -, rfl⟩ := List.mem_map.1 hmem'
        cases hrecord'
      · obtain ⟨x, hx, rfl⟩ := List.mem_map.1 hmem'
        cases hrecord'
        obtain hx | hx := mem_foldl_mergeBy hx
        · obtain ⟨other, -, hdoubted⟩ := List.mem_filterMap.1 hx
          obtain ⟨stored, -, rfl⟩ := Option.map_eq_some_iff.1 hdoubted
          exact nofun
        · cases hx
    · cases ha
  · obtain ⟨_, -, hfalse⟩ := List.mem_map.1 hmem
    cases hfalse

end Ends

end RateGovernor.Dynamics.Waiting
