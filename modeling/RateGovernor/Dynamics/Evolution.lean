import RateGovernor.Dynamics.Turns

namespace RateGovernor.Dynamics.Evolution

open Model.CheckedMath Model.Identity Model.Reason Model.Entities Model.Envelope Model.EngineState
open Model.JournalWriter Model.Durability Model.Authority Model.Calls Model.Lifecycle
open Model.Completion Model.Revocation Model.Maintenance Model.Execution
open Foundation.KeyedTable Install Sections Staging Turns

variable {s t : System} {event : Event} {action : Action}

section Step

/-- A step writes staged objects, or none at all. -/
theorem tables_step (h : step s action = some t) : ∃ records,
    (∀ record ∈ records, Stages s action.event record) ∧
      t.engine.tables = installed s.engine.config s.engine.tables records := by
  obtain ⟨decision, hsection, hturn⟩ := turn_of_step h
  cases hturn with
  | quiet => exact ⟨[], fun _ h ↦ absurd h List.not_mem_nil, rfl⟩
  | failed => exact ⟨[], fun _ h ↦ absurd h List.not_mem_nil, rfl⟩
  | committed => exact ⟨decision.records, fun _ ↦ stages_of_sectionOf hsection, rfl⟩

theorem config_step (h : step s action = some t) : t.engine.config = s.engine.config := by
  obtain ⟨decision, hsection, hturn⟩ := turn_of_step h
  cases hturn <;> rfl

theorem calls_step (h : step s action = some t) {call : Call} (hmem : call ∈ t.calls) :
    call ∈ s.calls ∨ ∃ status, Begins s action.event status call := by
  obtain ⟨decision, hsection, hturn⟩ := turn_of_step h
  cases hturn with
  | quiet => exact (begins_of_sectionOf hsection hmem).imp_right fun h ↦ ⟨_, h⟩
  | failed => exact (begins_of_sectionOf hsection hmem).imp_right fun h ↦ ⟨_, h⟩
  | committed => exact (begins_of_sectionOf hsection hmem).imp_right fun h ↦ ⟨_, h⟩

theorem envelope_step (h : step s action = some t) {k : U64} {envelope : RateEnvelope}
    (hfind : t.engine.tables.envelopes.find k = some envelope) :
    s.engine.tables.envelopes.find k = some envelope ∨
      ∃ type, Stages s action.event (.envelope type envelope) := by
  obtain ⟨records, hstages, htables⟩ := tables_step h
  rw [htables, (installed_registries _ _).2.2.2.2.2.2] at hfind
  obtain ⟨record, hmem, henvelope⟩ | hold := Registry.find_putAll hfind
  · cases record with
    | envelope type value =>
      cases henvelope
      exact .inr ⟨type, hstages _ hmem⟩
    | _ => cases henvelope
  · exact .inl hold

theorem envelope_persists (h : step s action = some t) {k : U64} {envelope : RateEnvelope}
    (hfind : s.engine.tables.envelopes.find k = some envelope) :
    ∃ envelope', t.engine.tables.envelopes.find k = some envelope' := by
  obtain ⟨records, -, htables⟩ := tables_step h
  rw [htables, (installed_registries _ _).2.2.2.2.2.2]
  obtain ⟨envelope', hfind', -⟩ := Registry.find_putAll_of_find hfind records
  exact ⟨envelope', hfind'⟩

theorem attempt_step (h : step s action = some t) {k : U64} {attempt : EnforcementAttempt}
    (hfind : t.engine.tables.attempts.find k = some attempt) :
    s.engine.tables.attempts.find k = some attempt ∨ Stages s action.event (.created attempt) ∨
      ∃ type, Stages s action.event (.attempt type attempt) := by
  obtain ⟨records, hstages, htables⟩ := tables_step h
  rw [htables] at hfind
  obtain ⟨record, hmem, hattempt⟩ | hold := installed_attempts _ _ hfind
  · cases record with
    | created value =>
      cases hattempt
      exact .inr (.inl (hstages _ hmem))
    | attempt type value =>
      cases hattempt
      exact .inr (.inr ⟨type, hstages _ hmem⟩)
    | _ => cases hattempt
  · exact .inl hold

theorem epoch_step (h : step s action = some t) :
    t.engine.tables.epoch = s.engine.tables.epoch ∨
      ∃ actor now, action.event = .advanceEpoch t.engine.tables.epoch actor now ∧
        t.engine.tables.epoch.valid = true ∧
        s.engine.tables.epoch.value < t.engine.tables.epoch.value := by
  obtain ⟨records, hstages, htables⟩ := tables_step h
  rw [htables]
  obtain hkept | ⟨reason, hmem⟩ := @installed_epoch s.engine.config s.engine.tables records
  · exact .inl hkept
  · have hstaged := hstages _ hmem
    generalize action.event = event at hstaged
    cases hstaged with
    | epoch hvalid hnewer => exact .inr ⟨_, _, rfl, hvalid, hnewer⟩

end Step

section Authorities

/-- Stored entries are replaced only by strictly newer ones, and never removed. -/
def Advances {α : Type} {key : α → U64} (generation : α → Generation) (r r' : Registry α key) :
    Prop :=
  ∀ k v, r.find k = some v → ∃ v', r'.find k = some v' ∧
    (v' = v ∨ (generation v).value < (generation v').value)

theorem Advances.refl {α : Type} {key : α → U64} (generation : α → Generation)
    (r : Registry α key) : Advances generation r r := fun _ v hfind ↦ ⟨v, hfind, .inl rfl⟩

theorem Advances.of_putAll {α ρ : Type} {key : α → U64} {generation : α → Generation}
    {r : Registry α key} {f : ρ → Option α} {records : List ρ}
    (h : ∀ record ∈ records, ∀ v, f record = some v →
      ∀ old, r.find (key v) = some old → (generation old).value < (generation v).value) :
    Advances generation r (r.putAll f records) := by
  intro k v hfind
  obtain ⟨v', hfind', rfl | ⟨record, hmem, hrecord⟩⟩ :=
    Registry.find_putAll_of_find (f := f) hfind records
  · exact ⟨v', hfind', .inl rfl⟩
  · refine ⟨v', hfind', .inr (h record hmem v' hrecord v ?_)⟩
    rw [Registry.key_of_find hfind']
    exact hfind

/-- No stored generation is the largest one, past which a state change would wrap. -/
structure Headroom (tables : Tables) : Prop where
  grants : ∀ k v, tables.grants.find k = some v → v.generation.value ≠ 0xFFFFFFFFFFFFFFFF
  reservations : ∀ k v, tables.reservations.find k = some v →
    v.generation.value ≠ 0xFFFFFFFFFFFFFFFF
  policies : ∀ k v, tables.policies.find k = some v → v.generation.value ≠ 0xFFFFFFFFFFFFFFFF
  resources : ∀ k v, tables.resources.find k = some v → v.generation.value ≠ 0xFFFFFFFFFFFFFFFF

instance (tables : Tables) : Decidable (Headroom tables) :=
  decidable_of_iff
    ((∀ v ∈ tables.grants.entries, v.generation.value ≠ 0xFFFFFFFFFFFFFFFF) ∧
      (∀ v ∈ tables.reservations.entries, v.generation.value ≠ 0xFFFFFFFFFFFFFFFF) ∧
      (∀ v ∈ tables.policies.entries, v.generation.value ≠ 0xFFFFFFFFFFFFFFFF) ∧
      ∀ v ∈ tables.resources.entries, v.generation.value ≠ 0xFFFFFFFFFFFFFFFF)
    ⟨fun h ↦ ⟨Registry.forall_find_iff.2 h.1, Registry.forall_find_iff.2 h.2.1,
        Registry.forall_find_iff.2 h.2.2.1, Registry.forall_find_iff.2 h.2.2.2⟩,
      fun h ↦ ⟨Registry.forall_find_iff.1 h.grants, Registry.forall_find_iff.1 h.reservations,
        Registry.forall_find_iff.1 h.policies, Registry.forall_find_iff.1 h.resources⟩⟩

theorem lt_succ {n : U64} (h : n ≠ 0xFFFFFFFFFFFFFFFF) : n < n + 1 := by
  have hn : n.toNat ≠ 0xFFFFFFFFFFFFFFFF := fun heq ↦ h (UInt64.toNat_inj.1 heq)
  have hlt := n.toNat_lt
  rw [UInt64.lt_iff_toNat_lt, UInt64.toNat_add]
  simp only [UInt64.reduceToNat]
  omega

/-- A state change of an entry at the largest generation, which wraps. -/
inductive Wraps (s : System) : Event → Prop
  | grant {id : GrantId} {state : GrantState} {actor : ActorContext} {old : Grant}
      (found : s.engine.tables.grants.find id.value = some old)
      (largest : old.generation.value = 0xFFFFFFFFFFFFFFFF) :
      Wraps s (.changeGrantState id old.generation state actor)
  | reservation {id : ReservationId} {state : ReservationState} {actor : ActorContext}
      {old : Reservation} (found : s.engine.tables.reservations.find id.value = some old)
      (largest : old.generation.value = 0xFFFFFFFFFFFFFFFF) :
      Wraps s (.changeReservationState id old.generation state actor)
  | policy {id : PolicyId} {state : PolicyState} {actor : ActorContext} {old : Policy}
      (found : s.engine.tables.policies.find id.value = some old)
      (largest : old.generation.value = 0xFFFFFFFFFFFFFFFF) :
      Wraps s (.changePolicyState id old.generation state actor)
  | resource {id : ResourceId} {state : ResourceState} {actor : ActorContext} {old : Resource}
      (found : s.engine.tables.resources.find id.value = some old)
      (largest : old.generation.value = 0xFFFFFFFFFFFFFFFF) :
      Wraps s (.changeResourceState id old.generation state actor)

theorem Headroom.not_wraps (h : Headroom s.engine.tables) : ¬ Wraps s event := by
  intro hwraps
  cases hwraps with
  | grant hfound hlargest => exact h.grants _ _ hfound hlargest
  | reservation hfound hlargest => exact h.reservations _ _ hfound hlargest
  | policy hfound hlargest => exact h.policies _ _ hfound hlargest
  | resource hfound hlargest => exact h.resources _ _ hfound hlargest

theorem newer_of_bumped {α : Type} {key : α → U64} {generation : α → Generation}
    {r : Registry α key} {k : U64} {old v stored : α} (hfound : r.find k = some old)
    (hkey : key v = key old) (hgen : (generation v).value = (generation old).value + 1)
    (hroom : (generation old).value ≠ 0xFFFFFFFFFFFFFFFF)
    (hstored : r.find (key v) = some stored) : (generation stored).value < (generation v).value := by
  rw [hkey, Registry.key_of_find hfound, hfound] at hstored
  cases hstored
  rw [hgen]
  exact lt_succ hroom

structure AuthoritiesAdvance (tables tables' : Tables) : Prop where
  grants : Advances (·.generation) tables.grants tables'.grants
  reservations : Advances (·.generation) tables.reservations tables'.reservations
  policies : Advances (·.generation) tables.policies tables'.policies
  resources : Advances (·.generation) tables.resources tables'.resources
  backends : Advances (·.generation) tables.backends tables'.backends

theorem AuthoritiesAdvance.refl (tables : Tables) : AuthoritiesAdvance tables tables :=
  ⟨.refl _ _, .refl _ _, .refl _ _, .refl _ _, .refl _ _⟩

theorem authorities_step (hroom : ¬ Wraps s action.event) (h : step s action = some t) :
    AuthoritiesAdvance s.engine.tables t.engine.tables := by
  obtain ⟨records, hstages, htables⟩ := tables_step h
  obtain ⟨-, hgrants, hreservations, hpolicies, hresources, hbackends, -⟩ :=
    @installed_registries s.engine.config s.engine.tables records
  rw [htables]
  generalize action.event = event at hstages hroom
  constructor
  · rw [hgrants]
    refine Advances.of_putAll fun record hmem v hv old hold ↦ ?_
    cases record <;> cases hv
    cases hstages _ hmem with
    | grant hnewer => exact hnewer old hold
    | grantState hfound =>
      exact newer_of_bumped hfound rfl rfl (fun h ↦ hroom (.grant hfound h)) hold
  · rw [hreservations]
    refine Advances.of_putAll fun record hmem v hv old hold ↦ ?_
    cases record <;> cases hv
    cases hstages _ hmem with
    | reservation hnewer => exact hnewer old hold
    | reservationState hfound =>
      exact newer_of_bumped hfound rfl rfl (fun h ↦ hroom (.reservation hfound h)) hold
  · rw [hpolicies]
    refine Advances.of_putAll fun record hmem v hv old hold ↦ ?_
    cases record <;> cases hv
    cases hstages _ hmem with
    | policy hnewer => exact hnewer old hold
    | policyState hfound =>
      exact newer_of_bumped hfound rfl rfl (fun h ↦ hroom (.policy hfound h)) hold
  · rw [hresources]
    refine Advances.of_putAll fun record hmem v hv old hold ↦ ?_
    cases record <;> cases hv
    cases hstages _ hmem with
    | resource hnewer => exact hnewer old hold
    | resourceState hfound =>
      exact newer_of_bumped hfound rfl rfl (fun h ↦ hroom (.resource hfound h)) hold
  · rw [hbackends]
    refine Advances.of_putAll fun record hmem v hv old hold ↦ ?_
    cases record <;> cases hv
    cases hstages _ hmem with
    | backend hnewer => exact hnewer old hold

end Authorities

end RateGovernor.Dynamics.Evolution
