import RateGovernor.Dynamics.Start

namespace RateGovernor.Safety.SoundAuthorities

open Model.CheckedMath Model.Identity Model.Reason Model.Entities Model.Envelope Model.EngineState
open Model.Durability Model.Authority Model.Calls Model.Lifecycle Model.Completion Model.Revocation
open Model.Maintenance Model.Execution Foundation.KeyedTable Foundation.GuardedRun
open Dynamics.Install Dynamics.Sections Dynamics.Staging Dynamics.Turns Dynamics.Start

variable {s t start : System} {action : Action} {event : Event} {config : EngineConfig}
  {tables : Tables} {record : Staged} {records : List Staged}

section Structure

/-- What every structural check asks of an authority, and what one kind asks besides. -/
structure Sound (known shaped : Bool) (generation : Generation) (provenance : Provenance) : Prop where
  shaped : shaped = true
  generation : generation.valid = true
  known : known = true
  provenance : provenanceOk provenance = true

theorem sound_grant_iff (grant : Grant) : grant.validateStructure = .none ↔
    Sound (grant.state ≠ .unknown)
      (grant.id.valid && grant.flow.valid && grant.resource.valid && !grant.window.emptyWindow)
      grant.generation grant.provenance := by
  refine ⟨fun h ↦ ?_, fun ⟨hshaped, hgeneration, hknown, hprovenance⟩ ↦ ?_⟩
  · unfold Grant.validateStructure at h
    repeat' split at h
    all_goals first
      | exact absurd h (by decide)
      | constructor <;> simp_all
  · simp only [Bool.and_eq_true, Bool.not_eq_true'] at hshaped
    simp only [Grant.validateStructure, hshaped, hgeneration, hprovenance,
      of_decide_eq_true hknown, Bool.not_true, Bool.or_self, Bool.false_eq_true, if_false]

theorem sound_reservation_iff (reservation : Reservation) : reservation.validateStructure = .none ↔
    Sound (reservation.state ≠ .unknown)
      (reservation.id.valid && reservation.flow.valid && reservation.resource.valid &&
        !reservation.window.emptyWindow)
      reservation.generation reservation.provenance := by
  refine ⟨fun h ↦ ?_, fun ⟨hshaped, hgeneration, hknown, hprovenance⟩ ↦ ?_⟩
  · unfold Reservation.validateStructure at h
    repeat' split at h
    all_goals first
      | exact absurd h (by decide)
      | constructor <;> simp_all
  · simp only [Bool.and_eq_true, Bool.not_eq_true'] at hshaped
    simp only [Reservation.validateStructure, hshaped, hgeneration, hprovenance,
      of_decide_eq_true hknown, Bool.not_true, Bool.or_self, Bool.false_eq_true, if_false]

theorem sound_policy_iff (policy : Policy) : policy.validateStructure = .none ↔
    Sound (policy.state ≠ .unknown)
      (policy.id.valid && decide (policy.refill ≠ .unknown) && policy.orderingHolds &&
        !policy.window.emptyWindow)
      policy.generation policy.provenance := by
  refine ⟨fun h ↦ ?_, fun ⟨hshaped, hgeneration, hknown, hprovenance⟩ ↦ ?_⟩
  · unfold Policy.validateStructure at h
    repeat' split at h
    all_goals first
      | exact absurd h (by decide)
      | constructor <;> simp_all
  · simp only [Bool.and_eq_true, Bool.not_eq_true', decide_eq_true_eq] at hshaped
    simp only [Policy.validateStructure, hshaped, hgeneration, hprovenance,
      of_decide_eq_true hknown, Bool.not_true, Bool.or_self, Bool.false_eq_true, if_false]

theorem sound_resource_iff (resource : Resource) : resource.validateStructure = .none ↔
    Sound (resource.state ≠ .unknown) resource.id.valid resource.generation
      resource.provenance := by
  refine ⟨fun h ↦ ?_, fun ⟨hshaped, hgeneration, hknown, hprovenance⟩ ↦ ?_⟩
  · unfold Resource.validateStructure at h
    repeat' split at h
    all_goals first
      | exact absurd h (by decide)
      | constructor <;> simp_all
  · simp only [Resource.validateStructure, hshaped, hgeneration, hprovenance,
      of_decide_eq_true hknown, Bool.not_true, Bool.or_self, Bool.false_eq_true, if_false]

/-- Every stored authority passes its structural check. -/
structure AllSound (tables : Tables) : Prop where
  flows : ∀ k v, tables.flows.find k = some v → v.validateStructure = .none
  grants : ∀ k v, tables.grants.find k = some v → v.validateStructure = .none
  reservations : ∀ k v, tables.reservations.find k = some v → v.validateStructure = .none
  policies : ∀ k v, tables.policies.find k = some v → v.validateStructure = .none
  resources : ∀ k v, tables.resources.find k = some v → v.validateStructure = .none
  backends : ∀ k v, tables.backends.find k = some v → v.validateStructure = .none

def SoundRecord : Staged → Prop
  | .flow flow => flow.validateStructure = .none
  | .grant _ grant => grant.validateStructure = .none
  | .reservation _ reservation => reservation.validateStructure = .none
  | .policy _ policy => policy.validateStructure = .none
  | .resource _ resource => resource.validateStructure = .none
  | .backend backend => backend.validateStructure = .none
  | _ => True

theorem sound_putAll {α : Type} {key : α → U64} {r : Registry α key} {f : Staged → Option α}
    {P : α → Prop} (hold : ∀ k v, r.find k = some v → P v)
    (hnew : ∀ record ∈ records, ∀ v, f record = some v → P v) :
    ∀ k v, (r.putAll f records).find k = some v → P v := by
  intro k v hfind
  obtain ⟨record, hmem, hrecord⟩ | hfind := Registry.find_putAll hfind
  · exact hnew record hmem v hrecord
  · exact hold k v hfind

theorem allSound_installed (h : AllSound tables) (hrecords : ∀ record ∈ records, SoundRecord record) :
    AllSound (installed config tables records) := by
  obtain ⟨hflows, hgrants, hreservations, hpolicies, hresources, hbackends, -⟩ :=
    @installed_registries config tables records
  constructor
  · rw [hflows]
    refine sound_putAll h.flows fun record hmem v hv ↦ ?_
    have hsound := hrecords record hmem
    cases record <;> cases hv
    exact hsound
  · rw [hgrants]
    refine sound_putAll h.grants fun record hmem v hv ↦ ?_
    have hsound := hrecords record hmem
    cases record <;> cases hv
    exact hsound
  · rw [hreservations]
    refine sound_putAll h.reservations fun record hmem v hv ↦ ?_
    have hsound := hrecords record hmem
    cases record <;> cases hv
    exact hsound
  · rw [hpolicies]
    refine sound_putAll h.policies fun record hmem v hv ↦ ?_
    have hsound := hrecords record hmem
    cases record <;> cases hv
    exact hsound
  · rw [hresources]
    refine sound_putAll h.resources fun record hmem v hv ↦ ?_
    have hsound := hrecords record hmem
    cases record <;> cases hv
    exact hsound
  · rw [hbackends]
    refine sound_putAll h.backends fun record hmem v hv ↦ ?_
    have hsound := hrecords record hmem
    cases record <;> cases hv
    exact hsound

theorem soundRecord_of_installed (h : AllSound (installed config tables [record])) :
    SoundRecord record := by
  cases record with
  | flow flow => exact h.flows _ _ (Registry.find_put_self _ flow)
  | grant type grant => exact h.grants _ _ (Registry.find_put_self _ grant)
  | reservation type reservation =>
    exact h.reservations _ _ (Registry.find_put_self _ reservation)
  | policy type policy => exact h.policies _ _ (Registry.find_put_self _ policy)
  | resource type resource => exact h.resources _ _ (Registry.find_put_self _ resource)
  | backend backend => exact h.backends _ _ (Registry.find_put_self _ backend)
  | _ => trivial

end Structure

section Changes

/-- The state is a known one, the next generation is valid, and the actor's provenance is well
formed. -/
def soundChange (known : Bool) (generation : Generation) (actor : ActorContext) : Bool :=
  known && generation.value ≠ 0xFFFFFFFFFFFFFFFF && actor.provenance.wellFormed

def soundArguments : Event → Bool
  | .changeGrantState _ generation state actor => soundChange (state ≠ .unknown) generation actor
  | .changeReservationState _ generation state actor =>
    soundChange (state ≠ .unknown) generation actor
  | .changePolicyState _ generation state actor => soundChange (state ≠ .unknown) generation actor
  | .changeResourceState _ generation state actor =>
    soundChange (state ≠ .unknown) generation actor
  | _ => true

/-- A state change that is committed has sound arguments. -/
def Upright (s : System) (action : Action) : Prop :=
  commits s action = true → soundArguments action.event = true

instance (s : System) (action : Action) : Decidable (Upright s action) :=
  inferInstanceAs (Decidable (_ → _))

theorem valid_succ_iff (generation : Generation) :
    (⟨generation.value + 1⟩ : Generation).valid = true ↔
      generation.value ≠ 0xFFFFFFFFFFFFFFFF := by
  unfold StrongId.valid
  simp only [ne_eq, decide_not, Bool.not_eq_true', decide_eq_false_iff_not]
  refine not_congr ⟨fun h ↦ ?_, fun h ↦ by rw [h]; rfl⟩
  have hsum := congrArg UInt64.toNat h
  have hlt := generation.value.toNat_lt
  rw [UInt64.toNat_add] at hsum
  refine UInt64.toNat_inj.1 ?_
  simp only [UInt64.reduceToNat] at hsum ⊢
  omega

theorem sound_changed_iff {known known' shaped : Bool} {generation : Generation}
    {old : Provenance} {actor : ActorContext} (hold : Sound known shaped generation old)
    (hactor : actor.provenance.authoritative = true) :
    Sound known' shaped ⟨generation.value + 1⟩ actor.provenance ↔
      soundChange known' generation actor = true := by
  unfold soundChange
  simp only [Bool.and_eq_true, decide_eq_true_eq]
  rw [← valid_succ_iff]
  constructor
  · intro h
    have hprovenance := h.provenance
    unfold provenanceOk at hprovenance
    exact ⟨⟨h.known, h.generation⟩, (Bool.and_eq_true_iff.1 hprovenance).2⟩
  · intro ⟨⟨hknown, hgeneration⟩, hformed⟩
    exact ⟨hold.shaped, hgeneration, hknown, Bool.and_eq_true_iff.2 ⟨hactor, hformed⟩⟩

theorem authoritative_of_checkActor {engine : Engine} {actor : ActorContext}
    (h : checkActor engine actor = none) : actor.provenance.authoritative = true := by
  unfold checkActor at h
  repeat' split at h
  all_goals first
    | exact absurd h (by decide)
    | next hauthoritative => simpa using hauthoritative

theorem sound_of_ingest {engine : Engine} {names : Ingest} {shape : ReasonCode}
    {existing : Option Generation} {generation : Generation} {size : ℕ} {limit : U64}
    {staged : Staged}
    (h : record ∈ (ingest engine names shape existing generation size limit staged).records) :
    record = staged ∧ shape = .none := by
  refine ⟨(mem_ingest h).1, ?_⟩
  unfold ingest at h
  split at h
  · cases h
  · next hshape => simpa using hshape

theorem changeState_cases {α : Type} {engine : Engine} {actor : ActorContext} {found : Option α}
    {missing mismatch : Error} {current : α → Bool} {staged : α → Staged}
    (h : (changeState engine actor found missing mismatch current staged).records ≠ []) :
    checkActor engine actor = none ∧ ∃ old, found = some old ∧ current old = true ∧
      (changeState engine actor found missing mismatch current staged).records = [staged old] := by
  unfold changeState at h ⊢
  split at h
  · exact absurd rfl h
  · next hrunning =>
    rw [if_neg hrunning]
    split at h
    · exact absurd rfl h
    · next hactor =>
      refine ⟨hactor, ?_⟩
      split at h
      · exact absurd rfl h
      · next old =>
        split at h
        · exact absurd rfl h
        · next hcurrent =>
          refine ⟨old, rfl, by simpa using hcurrent, ?_⟩
          rw [if_neg hcurrent]
          rfl

theorem soundRecord_changeState {α : Type} {actor : ActorContext} {found : Option α}
    {missing mismatch : Error} {current : α → Bool} {staged : α → Staged} {arguments : Bool}
    (h : (changeState s.engine actor found missing mismatch current staged).records ≠ [])
    (hold : ∀ old, found = some old → current old = true →
      actor.provenance.authoritative = true →
        (SoundRecord (staged old) ↔ arguments = true)) :
    ∃ record, (changeState s.engine actor found missing mismatch current staged).records =
      [record] ∧ (SoundRecord record ↔ arguments = true) := by
  obtain ⟨hactor, old, hfound, hcurrent, hrecords⟩ := changeState_cases h
  exact ⟨staged old, hrecords, hold old hfound hcurrent (authoritative_of_checkActor hactor)⟩

def changesState : Event → Bool
  | .changeGrantState .. | .changeReservationState .. | .changePolicyState ..
  | .changeResourceState .. => true
  | _ => false

theorem soundRecord_of_change {decision : Section} (hsound : AllSound s.engine.tables)
    (hsection : sectionOf s event = some decision) (hchange : changesState event = true)
    (hrecords : decision.records ≠ []) : ∃ record, decision.records = [record] ∧
      (SoundRecord record ↔ soundArguments event = true) := by
  cases event with
  | changeGrantState id generation state actor =>
    cases hsection
    refine soundRecord_changeState hrecords fun old hfound hcurrent hactor ↦ ?_
    obtain rfl := of_decide_eq_true hcurrent
    exact (sound_grant_iff _).trans
      (sound_changed_iff ((sound_grant_iff old).1 (hsound.grants _ _ hfound)) hactor)
  | changeReservationState id generation state actor =>
    cases hsection
    refine soundRecord_changeState hrecords fun old hfound hcurrent hactor ↦ ?_
    obtain rfl := of_decide_eq_true hcurrent
    exact (sound_reservation_iff _).trans
      (sound_changed_iff ((sound_reservation_iff old).1 (hsound.reservations _ _ hfound)) hactor)
  | changePolicyState id generation state actor =>
    cases hsection
    refine soundRecord_changeState hrecords fun old hfound hcurrent hactor ↦ ?_
    obtain rfl := of_decide_eq_true hcurrent
    exact (sound_policy_iff _).trans
      (sound_changed_iff ((sound_policy_iff old).1 (hsound.policies _ _ hfound)) hactor)
  | changeResourceState id generation state actor =>
    cases hsection
    refine soundRecord_changeState hrecords fun old hfound hcurrent hactor ↦ ?_
    obtain rfl := of_decide_eq_true hcurrent
    exact (sound_resource_iff _).trans
      (sound_changed_iff ((sound_resource_iff old).1 (hsound.resources _ _ hfound)) hactor)
  | _ => cases hchange

theorem soundRecord_of_other {decision : Section} (hsection : sectionOf s event = some decision)
    (hchange : changesState event = false) (hmem : record ∈ decision.records) :
    SoundRecord record := by
  have hstages := stages_of_sectionOf hsection hmem
  cases hstages with
  | flow | grant | reservation | policy | resource | backend =>
    cases hsection
    exact (sound_of_ingest hmem).2
  | grantState | reservationState | policyState | resourceState => cases hchange
  | _ => trivial

end Changes

section Runs

theorem allSound_step_iff (hsound : AllSound s.engine.tables) (hstep : step s action = some t) :
    AllSound t.engine.tables ↔ Upright s action := by
  obtain ⟨decision, hsection, hturn⟩ := turn_of_step hstep
  unfold Upright commits
  rw [hsection]
  cases hturn with
  | quiet hempty =>
    refine iff_of_true hsound fun hcommits ↦ ?_
    simp only [hempty, List.isEmpty_nil, Bool.not_true, Bool.false_and, Bool.false_eq_true]
      at hcommits
  | failed hrecords hstatus =>
    refine iff_of_true hsound fun hcommits ↦ ?_
    simp only [hstatus, Option.isNone_some, Bool.and_false, Bool.false_eq_true] at hcommits
  | committed hrecords hstatus =>
    have hcommits : (!decision.records.isEmpty &&
        (decision.commit s.engine action.io).status.isNone) = true := by
      simp only [hstatus, List.isEmpty_eq_false_iff.2 hrecords, Bool.not_false,
        Option.isNone_none, Bool.and_self]
    cases hchange : changesState action.event with
    | true =>
      obtain ⟨record, hone, hiff⟩ := soundRecord_of_change hsound hsection hchange hrecords
      refine ⟨fun hinstalled _ ↦ hiff.1 ?_, fun hupright ↦ ?_⟩
      · rw [hone] at hinstalled
        exact soundRecord_of_installed hinstalled
      · refine allSound_installed hsound fun r hmem ↦ ?_
        rw [hone] at hmem
        rw [List.mem_singleton.1 hmem]
        exact hiff.2 (hupright hcommits)
    | false =>
      refine iff_of_true (allSound_installed hsound fun _ hmem ↦
        soundRecord_of_other hsection hchange hmem) fun _ ↦ ?_
      generalize action.event = event at hchange
      cases event with
      | changeGrantState | changeReservationState | changePolicyState | changeResourceState =>
        cases hchange
      | _ => rfl

theorem allSound_of_fresh (h : Fresh s) : AllSound s.engine.tables := by
  obtain ⟨⟨epoch, htables⟩, -⟩ := empty_of_fresh h
  rw [htables]
  constructor <;> exact fun k v hfind ↦ absurd hfind (by rw [Registry.find_empty]; exact nofun)

/-- As long as every committed state change has sound arguments all stored authorities are well
formed, and the first that has not stores a malformed one. -/
theorem all_sound_iff (hfresh : Fresh start) (hrun : Reaches step Upright start s) :
    AllSound s.engine.tables ∧ ∀ action t, step s action = some t →
      (AllSound t.engine.tables ↔ Upright s action) := by
  have hsound : AllSound s.engine.tables := hrun.invariant (allSound_of_fresh hfresh)
    fun _ _ _ h hupright hstep ↦ (allSound_step_iff h hstep).2 hupright
  exact ⟨hsound, fun _ _ hstep ↦ allSound_step_iff hsound hstep⟩

def recallSample : List Action :=
  register ++ [⟨.changeGrantState ⟨1⟩ ⟨1⟩ .recalled actor, []⟩]

theorem all_sound_recalled : ∃ s : System, s.engine.tables.grants.find 1 ≠ none ∧
    AllSound s.engine.tables := by
  obtain ⟨s, hs⟩ := Option.isSome_iff_exists.1 (by decide +kernel :
    (run step sampleStart recallSample).isSome = true)
  have hstored : (run step sampleStart recallSample).bind (·.engine.tables.grants.find 1) ≠
      none := by decide +kernel
  rw [hs] at hstored
  have hreaches : Reaches step Upright sampleStart s :=
    reaches_of_run (by decide +kernel) hs
  exact ⟨s, hstored, (all_sound_iff fresh_sampleStart hreaches).1⟩

/-- An admitted actor changes a grant to the unknown state. -/
theorem unknown_stored_by_change : ∃ t grant, Reachable t ∧
    t.engine.tables.grants.find 1 = some grant ∧ grant.validateStructure ≠ .none := by
  have hstored : (run step sampleStart
      (register ++ [⟨.changeGrantState ⟨1⟩ ⟨1⟩ .unknown actor, []⟩])).any (fun t ↦
        (t.engine.tables.grants.find 1).any fun grant ↦ grant.validateStructure ≠ .none) = true := by
    decide +kernel
  obtain ⟨t, ht, hgrant⟩ := (Option.any_eq_true _ _).1 hstored
  obtain ⟨grant, hfind, hgrant⟩ := (Option.any_eq_true _ _).1 hgrant
  exact ⟨t, grant, reachable_of_run fresh_sampleStart ht, hfind, of_decide_eq_true hgrant⟩

end Runs

end RateGovernor.Safety.SoundAuthorities
