import RateGovernor.Dynamics.Readbacks
import RateGovernor.Dynamics.States
import RateGovernor.Safety.StaleCheck

namespace RateGovernor.Safety.LapsedBinding

open Model.CheckedMath Model.Identity Model.Reason Model.Entities Model.Envelope Model.EngineState
open Model.Plan Model.Authority Model.Calls Model.Lifecycle Model.Completion Model.Revocation
open Model.Maintenance Model.Execution Model.Durability Foundation.KeyedTable Foundation.GuardedRun
open Dynamics.Install Dynamics.Sections Dynamics.Staging Dynamics.Turns Dynamics.Evolution
open Dynamics.Bindings Dynamics.States Dynamics.Readbacks Dynamics.Issue Dynamics.Derivation
open Dynamics.Start Generations Enforceable StaleCheck

variable {s t u v start : System} {event : Event} {action lapse : Action}
  {envelope old new : RateEnvelope} {k since now : U64} {boot : WorkerBootId}
  {past tables : Tables} {records : List Staged}

/-- The state the documentation calls terminal for a binding. -/
def Lapsed (envelope : RateEnvelope) : Prop := envelope.state = .stale ∨ envelope.state = .failed

section Guard

/-- The reading at which a section asks whether its authorities support the envelope. -/
def judgedAt (k : U64) : Event → Option U64
  | .authorize id _ now => if id.value = k then some now else none
  | .tick now _ => some now
  | _ => none

/-- The reading of an `authorize` or an `apply` of the envelope. -/
def renewedAt (k : U64) : Event → Option U64
  | .authorize id _ now | .apply id _ now _ => if id.value = k then some now else none
  | _ => none

def bound (envelope : RateEnvelope) : List (AuthorityKind × U64 × Generation) :=
  [(.flow, envelope.flow.value, envelope.flowGeneration),
    (.resource, envelope.resource.value, envelope.resourceGeneration),
    (.grant, envelope.grant.value, envelope.grantGeneration),
    (.policy, envelope.policy.value, envelope.policyGeneration),
    (.backend, envelope.backend.value, envelope.backendGeneration)] ++
  if envelope.hasReservation then
    [(.reservation, envelope.reservation.value, envelope.reservationGeneration)]
  else []

def assigned : Event → Option (AuthorityKind × U64 × Generation)
  | .putFlow flow => some (.flow, flow.id.value, flow.generation)
  | .putGrant grant => some (.grant, grant.id.value, grant.generation)
  | .putReservation reservation =>
    some (.reservation, reservation.id.value, reservation.generation)
  | .putPolicy policy => some (.policy, policy.id.value, policy.generation)
  | .putResource resource => some (.resource, resource.id.value, resource.generation)
  | .putBackend backend => some (.backend, backend.id.value, backend.generation)
  | .changeGrantState id generation _ _ => some (.grant, id.value, ⟨generation.value + 1⟩)
  | .changeReservationState id generation _ _ =>
    some (.reservation, id.value, ⟨generation.value + 1⟩)
  | .changePolicyState id generation _ _ => some (.policy, id.value, ⟨generation.value + 1⟩)
  | .changeResourceState id generation _ _ => some (.resource, id.value, ⟨generation.value + 1⟩)
  | _ => none

def opensBetween (since now : U64) (window : ValidityWindow) : Bool :=
  since < window.notBeforeNs && window.notBeforeNs ≤ now

def opens (tables : Tables) (envelope : RateEnvelope) (since now : U64) : Bool :=
  ((tables.grants.find envelope.grant.value).any fun grant ↦
    grant.generation = envelope.grantGeneration && opensBetween since now grant.window) ||
  ((tables.policies.find envelope.policy.value).any fun policy ↦
    policy.generation = envelope.policyGeneration && opensBetween since now policy.window) ||
  (envelope.hasReservation &&
    (tables.reservations.find envelope.reservation.value).any fun reservation ↦
      reservation.generation = envelope.reservationGeneration &&
        opensBetween since now reservation.window)

/-- No authority the envelope is bound to is stored at the bound generation, and no `authorize` or
`apply` of it reads a clock that is behind the lapse or past the beginning of a bound window that
had not begun then. -/
structure StaysClosed (envelope : RateEnvelope) (since : U64) (s : System) (action : Action) :
    Prop where
  gone : commits s action = true → (assigned action.event).all (· ∉ bound envelope) = true
  timely : (renewedAt envelope.id.value action.event).all (fun now ↦
    since ≤ now && !opens s.engine.tables envelope since now) = true

instance (envelope : RateEnvelope) (since : U64) (s : System) (action : Action) :
    Decidable (StaysClosed envelope since s action) :=
  decidable_of_iff (_ ∧ _) ⟨fun h ↦ ⟨h.1, h.2⟩, fun h ↦ ⟨h.gone, h.timely⟩⟩

end Guard

section Lapse

def Spares (old new : RateEnvelope) : Prop := new.state = old.state ∨ ¬ Lapsed new

def lapsing (state : EnvelopeState) : Bool := state = .stale || state = .failed

theorem Spares.of_state {state : EnvelopeState} (h : new.state = state)
    (hother : lapsing state = false) : Spares old new := by
  refine .inr ?_
  unfold Lapsed
  rw [h]
  rintro (rfl | rfl)
  · cases hother
  · cases hother

end Lapse

section Closed

/-- At that reading no plan can be derived for the envelope from these authorities, in this epoch
or a later one. -/
def Unsupported (boot : WorkerBootId) (past : Tables) (envelope : RateEnvelope) (since : U64) :
    Prop :=
  ∀ epoch : FabricEpoch, epoch.valid = true → past.epoch.value ≤ epoch.value →
    (derivePlan (makePlanInputs boot { past with epoch } envelope) since).authorized = false

theorem Unsupported.keep (h : Unsupported boot past old since)
    (hbinding : binding envelope = binding old) : Unsupported boot past envelope since := by
  intro epoch hvalid hle
  rw [makePlanInputs_eq hbinding]
  exact h epoch hvalid hle

/-- Of what the envelope is bound to, the tables hold nothing at the bound generation that they did
not hold in the past. -/
structure Recalls (envelope : RateEnvelope) (past tables : Tables) : Prop where
  flow : ∀ v, tables.flows.find envelope.flow.value = some v →
    v.generation = envelope.flowGeneration → past.flows.find envelope.flow.value = some v
  resource : ∀ v, tables.resources.find envelope.resource.value = some v →
    v.generation = envelope.resourceGeneration →
      past.resources.find envelope.resource.value = some v
  grant : ∀ v, tables.grants.find envelope.grant.value = some v →
    v.generation = envelope.grantGeneration → past.grants.find envelope.grant.value = some v
  policy : ∀ v, tables.policies.find envelope.policy.value = some v →
    v.generation = envelope.policyGeneration → past.policies.find envelope.policy.value = some v
  backend : ∀ v, tables.backends.find envelope.backend.value = some v →
    v.generation = envelope.backendGeneration →
      past.backends.find envelope.backend.value = some v
  reservation : envelope.hasReservation = true →
    ∀ v, tables.reservations.find envelope.reservation.value = some v →
      v.generation = envelope.reservationGeneration →
        past.reservations.find envelope.reservation.value = some v

theorem assigned_of_stages {staged : Staged} {authority : AuthorityKind × U64 × Generation}
    (h : Stages s event staged) (hauthority : authorityOf staged = some authority) :
    assigned event = some authority := by
  cases h with
  | grantState hfound | reservationState hfound | policyState hfound | resourceState hfound =>
    have hkey := Registry.key_of_find hfound
    simp only [authorityOf] at hauthority
    rw [hkey] at hauthority
    exact hauthority
  | flow | grant | reservation | policy | resource | backend => exact hauthority
  | _ => cases hauthority

theorem recalled_of_putAll {α : Type} {key : α → U64} {r : Registry α key} {f : Staged → Option α}
    {kind : AuthorityKind} {generation : α → Generation} {g : Generation} {v : α}
    (hgone : ∀ authority ∈ bound envelope, assigned event ≠ some authority)
    (hstages : ∀ record ∈ records, Stages s event record)
    (hauthority : ∀ record v, f record = some v →
      authorityOf record = some (kind, key v, generation v))
    (hbound : (kind, k, g) ∈ bound envelope) (h : (r.putAll f records).find k = some v)
    (hgeneration : generation v = g) : r.find k = some v := by
  obtain ⟨record, hmem, hrecord⟩ | hold := Registry.find_putAll h
  · have hauthority := hauthority record v hrecord
    rw [Registry.key_of_find h, hgeneration] at hauthority
    exact absurd (assigned_of_stages (hstages record hmem) hauthority) (hgone _ hbound)
  · exact hold

theorem Recalls.step (h : Recalls envelope past s.engine.tables)
    (hok : StaysClosed envelope since s action) (hstep : step s action = some t) :
    Recalls envelope past t.engine.tables := by
  obtain hsame | hcommits := same_or_commits hstep
  · rw [hsame]
    exact h
  have hgone : ∀ authority ∈ bound envelope, assigned action.event ≠ some authority := by
    intro authority hbound hassigned
    have hnot := hok.gone hcommits
    rw [hassigned] at hnot
    exact of_decide_eq_true hnot hbound
  obtain ⟨records, hstages, htables⟩ := tables_step hstep
  obtain ⟨hflows, hgrants, hreservations, hpolicies, hresources, hbackends, -⟩ :=
    @installed_registries s.engine.config s.engine.tables records
  rw [htables]
  constructor
  · rw [hflows]
    intro v hfind hgeneration
    exact h.flow v (recalled_of_putAll hgone hstages
      (fun record _ hv ↦ by cases record <;> cases hv; rfl) (by simp [bound]) hfind hgeneration)
      hgeneration
  · rw [hresources]
    intro v hfind hgeneration
    exact h.resource v (recalled_of_putAll hgone hstages
      (fun record _ hv ↦ by cases record <;> cases hv; rfl) (by simp [bound]) hfind hgeneration)
      hgeneration
  · rw [hgrants]
    intro v hfind hgeneration
    exact h.grant v (recalled_of_putAll hgone hstages
      (fun record _ hv ↦ by cases record <;> cases hv; rfl) (by simp [bound]) hfind hgeneration)
      hgeneration
  · rw [hpolicies]
    intro v hfind hgeneration
    exact h.policy v (recalled_of_putAll hgone hstages
      (fun record _ hv ↦ by cases record <;> cases hv; rfl) (by simp [bound]) hfind hgeneration)
      hgeneration
  · rw [hbackends]
    intro v hfind hgeneration
    exact h.backend v (recalled_of_putAll hgone hstages
      (fun record _ hv ↦ by cases record <;> cases hv; rfl) (by simp [bound]) hfind hgeneration)
      hgeneration
  · rw [hreservations]
    intro hreserved v hfind hgeneration
    exact h.reservation hreserved v (recalled_of_putAll hgone hstages
      (fun record _ hv ↦ by cases record <;> cases hv; rfl) (by simp [bound, hreserved]) hfind
      hgeneration) hgeneration

/-- The engine has gone on from an earlier state, and the envelope's authorities have not come
back. -/
structure Closed (earlier : System) (envelope : RateEnvelope) (s : System) : Prop where
  ids : IdsAhead s
  config : s.engine.config = earlier.engine.config
  epoch : earlier.engine.tables.epoch.value ≤ s.engine.tables.epoch.value
  recalls : Recalls envelope earlier.engine.tables s.engine.tables
  stored : ∃ current, s.engine.tables.envelopes.find envelope.id.value = some current ∧
    binding current = binding envelope

theorem Closed.step {earlier : System} (h : Closed earlier envelope s)
    (hok : StaysClosed envelope since s action) (hstep : step s action = some t) :
    Closed earlier envelope t where
  ids := idsAhead_step h.ids hstep
  config := (config_step hstep).trans h.config
  epoch := by
    obtain hkept | ⟨-, -, -, -, hnewer⟩ := epoch_step hstep
    · rw [hkept]
      exact h.epoch
    · exact UInt64.le_trans h.epoch (UInt64.le_of_lt hnewer)
  recalls := h.recalls.step hok hstep
  stored := by
    obtain ⟨current, hfind, hbinding⟩ := h.stored
    obtain ⟨next, hfind', hkept⟩ := binding_step h.ids hstep hfind
    exact ⟨next, hfind', hkept.trans hbinding⟩

end Closed

section Renewal

end Renewal

section Sample

end Sample

end RateGovernor.Safety.LapsedBinding
