import RateGovernor.Dynamics.PlanLimits
import RateGovernor.Dynamics.Start

namespace RateGovernor.Safety.Coverage

open Model.CheckedMath Model.Identity Model.Reason Model.Entities Model.Envelope Model.Plan
open Model.EngineState Model.Calls Model.Lifecycle Model.Completion Model.Revocation
open Model.Maintenance Model.Authority Model.Execution Foundation.KeyedTable Foundation.GuardedRun
open Dynamics.PlanLimits Dynamics.Sections Dynamics.Turns Dynamics.Evolution Dynamics.Bindings
open Dynamics.Issue Dynamics.Start

variable {s : System} {tables tables' : Tables}
  {bound : Binding} {rate burst now : U64} {envelope old : RateEnvelope}

section Funding

/-- The stored entry is at the bound generation or past it, and within the limit while it is at
the bound one. -/
def Backs {α : Type} {key : α → U64} (generation : α → Generation) (r : Registry α key) (id : U64)
    (bound : Generation) (within : α → Prop) : Prop :=
  ∃ v, r.find id = some v ∧ bound.value ≤ (generation v).value ∧ (generation v = bound → within v)

theorem Backs.advance {α : Type} {key : α → U64} {generation : α → Generation}
    {r r' : Registry α key} {id : U64} {bound : Generation} {within : α → Prop}
    (h : Backs generation r id bound within) (hadvance : Advances generation r r') :
    Backs generation r' id bound within := by
  obtain ⟨v, hfind, hle, hwithin⟩ := h
  obtain ⟨v', hfind', rfl | hlt⟩ := hadvance id v hfind
  · exact ⟨v', hfind', hle, hwithin⟩
  · have hpast := UInt64.lt_of_le_of_lt hle hlt
    refine ⟨v', hfind', UInt64.le_of_lt hpast, fun heq ↦ ?_⟩
    rw [heq] at hpast
    exact absurd hpast (UInt64.lt_irrefl _)

/-- The largest rate and burst each authority allows; a limit a resource or a backend declares as
zero is no limit. -/
def WithinGrant (rate burst : U64) (grant : Grant) : Prop :=
  rate ≤ grant.ceilingUps ∧ burst ≤ grant.burstTokens

def WithinPolicy (rate burst : U64) (policy : Policy) : Prop :=
  rate ≤ policy.ceilingUps ∧ burst ≤ policy.burstTokens

def WithinReservation (rate burst : U64) (reservation : Reservation) : Prop :=
  rate ≤ reservation.ceilingUps ∧ burst ≤ reservation.burstTokens

def WithinResource (rate burst : U64) (resource : Resource) : Prop :=
  rate ≤ resource.capacityUps ∧
    (resource.capacityBurstTokens ≠ 0 → burst ≤ resource.capacityBurstTokens)

def WithinBackend (rate burst : U64) (backend : BackendDescriptor) : Prop :=
  (backend.maxRateUps ≠ 0 → rate ≤ backend.maxRateUps) ∧
    (backend.maxBurstTokens ≠ 0 → burst ≤ backend.maxBurstTokens)

structure Funded (tables : Tables) (bound : Binding) (rate burst : U64) : Prop where
  grant : Backs (·.generation) tables.grants bound.grant.value bound.grantGeneration
    (WithinGrant rate burst)
  policy : Backs (·.generation) tables.policies bound.policy.value bound.policyGeneration
    (WithinPolicy rate burst)
  resource : Backs (·.generation) tables.resources bound.resource.value bound.resourceGeneration
    (WithinResource rate burst)
  backend : Backs (·.generation) tables.backends bound.backend.value bound.backendGeneration
    (WithinBackend rate burst)
  reservation : bound.hasReservation = true →
    Backs (·.generation) tables.reservations bound.reservation.value bound.reservationGeneration
      (WithinReservation rate burst)

def Covered (tables : Tables) (bound : Binding) (rate burst : U64) : Prop :=
  rate = 0 ∧ burst = 0 ∨ Funded tables bound rate burst

theorem Covered.advance (h : Covered tables bound rate burst)
    (hadvance : AuthoritiesAdvance tables tables') : Covered tables' bound rate burst := by
  refine h.imp id fun h ↦ ?_
  exact {
    grant := h.grant.advance hadvance.grants
    policy := h.policy.advance hadvance.policies
    resource := h.resource.advance hadvance.resources
    backend := h.backend.advance hadvance.backends
    reservation := fun hreserved ↦ (h.reservation hreserved).advance hadvance.reservations }

theorem Covered.within {α : Type} {key : α → U64} {generation : α → Generation}
    {r : Registry α key} {id : U64} {bound' : Generation} {within : U64 → U64 → α → Prop} {v : α}
    (h : Covered tables bound rate burst) (hzero : within 0 0 v)
    (hbacks : Funded tables bound rate burst → Backs generation r id bound' (within rate burst))
    (hfind : r.find id = some v) (hbound : generation v = bound') : within rate burst v := by
  obtain ⟨rfl, rfl⟩ | hfunded := h
  · exact hzero
  · obtain ⟨w, hfind', -, hwithin⟩ := hbacks hfunded
    rw [hfind] at hfind'
    cases hfind'
    exact hwithin hbound

theorem backs_of_find {α : Type} {key : α → U64} {generation : α → Generation}
    {r : Registry α key} {id : U64} {bound : Generation} {within : α → Prop} {v : α}
    (hfind : r.find id = some v) (hbound : generation v = bound) (hwithin : within v) :
    Backs generation r id bound within :=
  ⟨v, hfind, by rw [hbound]; exact UInt64.le_refl _, fun _ ↦ hwithin⟩

theorem covered_planNow
    (h : (derivePlanLocked s.engine envelope now).authorized = true) :
    Covered s.engine.tables (binding envelope) (planNow s envelope now).ceilingUps
      (planNow s envelope now).burstTokens := by
  obtain ⟨resource, grant, policy, reservation, backend, admitted, hplan⟩ := plan_of_authorized h
  have hceiling := ceiling_le (makePlanInputs s.engine.config.boot s.engine.tables envelope)
    now resource grant policy reservation backend
  have hburst := burst_le (makePlanInputs s.engine.config.boot s.engine.tables envelope)
    now resource grant policy reservation backend
  unfold planNow derivePlanLocked
  rw [hplan]
  refine .inr ⟨?_, ?_, ?_, ?_, ?_⟩
  · exact backs_of_find admitted.grantStored admitted.grantBound ⟨hceiling.1, hburst.2.1⟩
  · exact backs_of_find admitted.policyStored admitted.policyBound ⟨hceiling.2.1, hburst.1⟩
  · exact backs_of_find admitted.resourceStored admitted.resourceBound
      ⟨hceiling.2.2.1, hburst.2.2.1⟩
  · exact backs_of_find admitted.backendStored admitted.backendBound
      ⟨hceiling.2.2.2, hburst.2.2.2⟩
  · intro hreserved
    obtain ⟨r, rfl, hstored, hbound⟩ := admitted.reserved hreserved
    exact backs_of_find hstored hbound (reserved_le hreserved)

/-- What is covered fits every plan that is authorized now. -/
theorem Covered.le_planNow (h : Covered s.engine.tables (binding envelope) rate burst)
    (hplan : (derivePlanLocked s.engine envelope now).authorized = true) :
    rate ≤ (planNow s envelope now).ceilingUps ∧ burst ≤ (planNow s envelope now).burstTokens := by
  have hle (n : U64) : (0 : U64) ≤ n := Nat.zero_le _
  obtain ⟨resource, grant, policy, reservation, backend, admitted, heq⟩ := plan_of_authorized hplan
  unfold planNow derivePlanLocked
  rw [heq]
  refine le_assemblePlan
    (h.within ⟨hle _, hle _⟩ Funded.grant admitted.grantStored admitted.grantBound)
    (h.within ⟨hle _, hle _⟩ Funded.policy admitted.policyStored admitted.policyBound)
    (h.within ⟨hle _, fun _ ↦ hle _⟩ Funded.resource admitted.resourceStored
      admitted.resourceBound)
    (h.within ⟨fun _ ↦ hle _, fun _ ↦ hle _⟩ Funded.backend admitted.backendStored
      admitted.backendBound) fun hreserved ↦ ?_
  obtain ⟨r, rfl, hstored, hbound⟩ := admitted.reserved hreserved
  have hwithin : WithinReservation rate burst r :=
    h.within ⟨hle _, hle _⟩ (fun h ↦ h.reservation hreserved) hstored hbound
  exact ⟨r, rfl, hwithin⟩

end Funding

section Envelopes

/-- The plan of the envelope is covered, and so is the effect it claims to have verified. -/
structure Sound (tables : Tables) (envelope : RateEnvelope) : Prop where
  plan : Covered tables (binding envelope) envelope.plan.ceilingUps envelope.plan.burstTokens
  effect : envelope.state = .applied → envelope.effectVerified = true →
    Covered tables (binding envelope) envelope.appliedRateUps envelope.appliedBurstTokens

def KeepsEffect (old envelope : RateEnvelope) : Prop :=
  envelope.state = .applied → envelope.effectVerified = true →
    old.state = .applied ∧ old.effectVerified = true ∧
      envelope.appliedRateUps = old.appliedRateUps ∧
      envelope.appliedBurstTokens = old.appliedBurstTokens

theorem Sound.replan (h : Sound tables old) (hbinding : binding envelope = binding old)
    (hplan : Covered tables (binding envelope) envelope.plan.ceilingUps envelope.plan.burstTokens)
    (heffect : KeepsEffect old envelope) : Sound tables envelope := by
  refine ⟨hplan, fun happlied hverified ↦ ?_⟩
  obtain ⟨hstate, hflag, hrate, hburst⟩ := heffect happlied hverified
  rw [hbinding, hrate, hburst]
  exact h.effect hstate hflag

theorem Sound.keep (h : Sound tables old) (hbinding : binding envelope = binding old)
    (hplan : envelope.plan = old.plan) (heffect : KeepsEffect old envelope) :
    Sound tables envelope := by
  refine h.replan hbinding ?_ heffect
  rw [hbinding, hplan]
  exact h.plan

theorem keepsEffect_of_unverified (h : envelope.effectVerified = false) :
    KeepsEffect old envelope := by
  intro _ hverified
  rw [h] at hverified
  cases hverified

theorem keepsEffect_of_state (h : envelope.state ≠ .applied) : KeepsEffect old envelope :=
  fun happlied _ ↦ absurd happlied h

end Envelopes

end RateGovernor.Safety.Coverage
