import RateGovernor.Dynamics.Derivation
import RateGovernor.Dynamics.Start
import Mathlib.Data.List.MinMax
import Mathlib.Order.Bounds.Basic

namespace RateGovernor.Safety.LegalEnvelope

open Model.CheckedMath Model.Identity Model.Reason Model.Entities Model.Envelope Model.Plan
open Dynamics.PlanLimits Dynamics.Derivation Dynamics.Start

variable {inputs : PlanInputs} {now : U64} {flow : Flow} {resource : Resource} {grant : Grant}
  {policy : Policy} {reservation : Option Reservation} {backend : BackendDescriptor}

def amount (limit : Candidate) : ℕ := limit.value.toNat

def declared (value : U64) (authority : LimitingAuthority) : List Candidate :=
  if value ≠ 0 then [⟨value, authority⟩] else []

/-- The limits on the rate, in the order in which the first of several least ones is named. -/
def rateLimits (resource : Resource) (grant : Grant) (policy : Policy)
    (reservation : Option Reservation) (backend : BackendDescriptor) : List Candidate :=
  [⟨grant.ceilingUps, .grant⟩] ++
    (reservation.map fun r ↦ ⟨r.ceilingUps, .reservation⟩).toList ++
    [⟨policy.ceilingUps, .policy⟩] ++ [⟨resource.capacityUps, .resource⟩] ++
    declared backend.maxRateUps .backend

def burstLimits (resource : Resource) (grant : Grant) (policy : Policy)
    (reservation : Option Reservation) (backend : BackendDescriptor) : List Candidate :=
  [⟨policy.burstTokens, .policy⟩] ++ [⟨grant.burstTokens, .grant⟩] ++
    (reservation.map fun r ↦ ⟨r.burstTokens, .reservation⟩).toList ++
    declared resource.capacityBurstTokens .resource ++ declared backend.maxBurstTokens .backend

def windowEnds (grant : Grant) (policy : Policy) (reservation : Option Reservation) : List U64 :=
  [grant.window.invalidAfterNs, policy.window.invalidAfterNs] ++
    (reservation.map (·.window.invalidAfterNs)).toList

def Limits (limits : List Candidate) (limit : Candidate) : Prop :=
  limits.argmin amount = some limit

section Least

variable {limits : List Candidate} {current limit : Candidate} {value : U64}
  {authority : LimitingAuthority}

theorem Limits.least (h : Limits limits limit) :
    IsLeast {n | ∃ l ∈ limits, amount l = n} limit.value.toNat := by
  refine ⟨⟨limit, List.argmin_mem h, rfl⟩, ?_⟩
  rintro n ⟨l, hl, rfl⟩
  exact @List.le_of_mem_argmin _ _ _ amount limits l limit hl h

theorem limits_consider (h : Limits limits current) :
    Limits (limits ++ [⟨value, authority⟩]) (consider current value authority) := by
  unfold Limits at h ⊢
  rw [List.argmin_concat, h, consider]
  simp only [amount, ← UInt64.lt_iff_toNat_lt]
  split <;> rfl

theorem limits_considerDeclared (h : Limits limits current) :
    Limits (limits ++ declared value authority) (considerDeclared current value authority) := by
  unfold declared considerDeclared
  split
  · exact limits_consider h
  · rw [List.append_nil]
    exact h

theorem limits_reserved {reading : Reservation → U64} {absent : U64}
    (hreserved : inputs.hasReservation = reservation.isSome) (h : Limits limits current) :
    Limits (limits ++ (reservation.map fun r ↦ ⟨reading r, authority⟩).toList)
      (if inputs.hasReservation then
        consider current ((reservation.map reading).getD absent) authority else current) := by
  cases reservation with
  | none =>
    rw [hreserved]
    simpa only [Option.map_none, Option.toList_none, List.append_nil, Option.isSome_none,
      Bool.false_eq_true, if_false] using h
  | some r =>
    rw [hreserved]
    exact limits_consider h

end Least

section Purpose

/-- The identities a plan is recorded under, all of them usable. -/
structure Usable (inputs : PlanInputs) : Prop where
  envelope : inputs.envelope.valid = true ∧ inputs.envelopeGeneration.valid = true
  flow : inputs.flow.valid = true
  resource : inputs.resource.valid = true ∧ inputs.resourceGeneration.valid = true
  grant : inputs.grant.valid = true ∧ inputs.grantGeneration.valid = true
  policy : inputs.policy.valid = true ∧ inputs.policyGeneration.valid = true
  backend : inputs.backend.valid = true ∧ inputs.backendGeneration.valid = true
  fabric : inputs.epoch.valid = true ∧ inputs.boot.valid = true

/-- What has to hold of the stored authorities for an envelope to be legal, in no order. -/
structure Legal (inputs : PlanInputs) (now : U64) (flow : Flow) (resource : Resource)
    (grant : Grant) (policy : Policy) (reservation : Option Reservation)
    (backend : BackendDescriptor) : Prop where
  flowBound : inputs.flowDef = some flow ∧ flow.generation = inputs.flowGeneration
  resourceBound : inputs.resourceDef = some resource ∧
    resource.generation = inputs.resourceGeneration
  grantBound : inputs.grantDef = some grant ∧ grant.generation = inputs.grantGeneration
  policyBound : inputs.policyDef = some policy ∧ policy.generation = inputs.policyGeneration
  backendBound : inputs.backendDef = some backend ∧ backend.generation = inputs.backendGeneration
  reservationBound : reservation.isSome = inputs.hasReservation ∧
    ∀ r ∈ reservation, inputs.reservationDef = some r ∧
      r.generation = inputs.reservationGeneration
  funds : grant.flow = inputs.flow ∧ grant.resource = inputs.resource
  covers : ∀ r ∈ reservation, r.flow = inputs.flow ∧ r.resource = inputs.resource
  active : flow.active = true ∧ resource.active = true ∧ grant.active = true ∧
    policy.active = true ∧ ∀ r ∈ reservation, r.active = true
  inWindow : grant.window.contains now = true ∧ policy.window.contains now = true ∧
    ∀ r ∈ reservation, r.window.contains now = true
  capacity : resource.capacityUps ≠ 0
  ordered : policy.floorUps ≤ policy.targetUps ∧ policy.targetUps ≤ policy.ceilingUps
  supported : backend.kind ≠ .unsupported ∧ backend.canApply = true
  satisfiable : ∀ limit, Limits (rateLimits resource grant policy reservation backend) limit →
    0 < limit.value ∧ policy.floorUps ≤ limit.value

/-- The envelope the authorities leave: no limit is exceeded and none is undercut. -/
structure Exact (inputs : PlanInputs) (now : U64) (resource : Resource) (grant : Grant)
    (policy : Policy) (reservation : Option Reservation) (backend : BackendDescriptor)
    (plan : EffectivePlan) : Prop where
  bound : plan.fingerprint.envelope = inputs.envelope ∧ plan.fingerprint.flow = inputs.flow ∧
    plan.fingerprint.resource = inputs.resource ∧ plan.fingerprint.grant = inputs.grant ∧
    plan.fingerprint.policy = inputs.policy ∧ plan.fingerprint.backend = inputs.backend ∧
    plan.fingerprint.epoch = inputs.epoch ∧ plan.fingerprint.boot = inputs.boot
  ceiling : Limits (rateLimits resource grant policy reservation backend)
    ⟨plan.ceilingUps, plan.limitingAuthority⟩
  floor : plan.floorUps = policy.floorUps
  target : plan.targetUps.toNat =
    max policy.floorUps.toNat (min policy.targetUps.toNat plan.ceilingUps.toNat)
  burst : IsLeast {n | ∃ l ∈ burstLimits resource grant policy reservation backend,
    amount l = n} plan.burstTokens.toNat
  validFrom : plan.fingerprint.validFromNs = now
  validUntil : IsLeast {n | ∃ e ∈ windowEnds grant policy reservation, UInt64.toNat e = n}
    plan.fingerprint.validUntilNs.toNat
  clamped : plan.ceilingClamped = decide (plan.ceilingUps < policy.ceilingUps) ∧
    plan.targetClamped = decide (plan.targetUps ≠ policy.targetUps) ∧
    plan.burstClamped = decide (plan.burstTokens ≠ policy.burstTokens)
  consistent : plan.invariantsHold = true ∧ fingerprintSelfConsistent plan.fingerprint = true

end Purpose

section Assembly

theorem clampU64_toNat (value : U64) {low high : U64} (h : low ≤ high) :
    (clampU64 value low high).toNat = max low.toNat (min value.toNat high.toNat) := by
  rw [UInt64.le_iff_toNat_le] at h
  unfold clampU64
  split
  · next hlow =>
    rw [UInt64.lt_iff_toNat_lt] at hlow
    omega
  · next hlow =>
    rw [UInt64.lt_iff_toNat_lt] at hlow
    split
    · next hhigh =>
      rw [UInt64.lt_iff_toNat_lt] at hhigh
      omega
    · next hhigh =>
      rw [UInt64.lt_iff_toNat_lt] at hhigh
      omega

variable (now) in
theorem limits_ceiling (hreserved : inputs.hasReservation = reservation.isSome) :
    Limits (rateLimits resource grant policy reservation backend)
      ⟨(assemblePlan inputs resource grant policy reservation backend now).ceilingUps,
        (assemblePlan inputs resource grant policy reservation backend now).limitingAuthority⟩ :=
  limits_considerDeclared (limits_consider (limits_consider
    (limits_reserved hreserved List.argmin_singleton)))

variable (now) in
theorem limits_burst (hreserved : inputs.hasReservation = reservation.isSome) :
    ∃ authority, Limits (burstLimits resource grant policy reservation backend)
      ⟨(assemblePlan inputs resource grant policy reservation backend now).burstTokens,
        authority⟩ :=
  ⟨_, limits_considerDeclared (limits_considerDeclared (limits_reserved hreserved
    (limits_consider List.argmin_singleton)))⟩

theorem planWindow_from (hgrant : grant.window.contains now = true)
    (hpolicy : policy.window.contains now = true)
    (hreserved : ∀ r ∈ reservation, r.window.contains now = true) :
    (planWindow grant policy reservation now).1 = now := by
  have hstart : (if grant.window.notBeforeNs < now then now else grant.window.notBeforeNs) =
      now := by
    split
    · rfl
    · next h =>
      exact UInt64.le_antisymm (UInt64.not_lt.1 (not_lt_of_contains hgrant)) (UInt64.not_lt.1 h)
  unfold planWindow
  simp only [hstart, if_neg (not_lt_of_contains hpolicy)]
  cases reservation with
  | none => rfl
  | some r => exact if_neg (not_lt_of_contains (hreserved r rfl))

theorem earlier_isLeast {ends : List U64} {soonest : U64} (candidate : U64)
    (h : IsLeast {n | ∃ e ∈ ends, UInt64.toNat e = n} soonest.toNat) :
    IsLeast {n | ∃ e ∈ ends ++ [candidate], UInt64.toNat e = n}
      (if candidate < soonest then candidate else soonest).toNat := by
  obtain ⟨⟨first, hfirst, hfirstNat⟩, hleast⟩ := h
  split
  · next hlt =>
    rw [UInt64.lt_iff_toNat_lt] at hlt
    refine ⟨⟨candidate, List.mem_append_right _ (List.mem_singleton_self _), rfl⟩, ?_⟩
    rintro n ⟨e, he, rfl⟩
    rcases List.mem_append.1 he with he | he
    · exact Nat.le_of_lt (Nat.lt_of_lt_of_le hlt (hleast ⟨e, he, rfl⟩))
    · rw [List.mem_singleton.1 he]
  · next hle =>
    rw [UInt64.lt_iff_toNat_lt, Nat.not_lt] at hle
    refine ⟨⟨first, List.mem_append_left _ hfirst, hfirstNat⟩, ?_⟩
    rintro n ⟨e, he, rfl⟩
    rcases List.mem_append.1 he with he | he
    · exact hleast ⟨e, he, rfl⟩
    · rw [List.mem_singleton.1 he]
      exact hle

theorem planWindow_until : IsLeast
    {n | ∃ e ∈ windowEnds grant policy reservation, UInt64.toNat e = n}
    (planWindow grant policy reservation now).2.toNat := by
  have hgrant : IsLeast {n | ∃ e ∈ [grant.window.invalidAfterNs], UInt64.toNat e = n}
      grant.window.invalidAfterNs.toNat := by
    refine ⟨⟨_, List.mem_singleton_self _, rfl⟩, ?_⟩
    rintro n ⟨e, he, rfl⟩
    rw [List.mem_singleton.1 he]
  have hpolicy := earlier_isLeast policy.window.invalidAfterNs hgrant
  cases reservation with
  | none => exact hpolicy
  | some r => exact earlier_isLeast r.window.invalidAfterNs hpolicy

theorem isSome_of_reserved (h : Reserved inputs now reservation) :
    inputs.hasReservation = reservation.isSome := by
  cases reservation with
  | none => exact h
  | some r => exact h.1

variable (now) in
theorem consistent_of_usable (husable : Usable inputs)
    (hceiling : 0 < (assemblePlan inputs resource grant policy reservation backend now).ceilingUps)
    (hfloor : policy.floorUps ≤
      (assemblePlan inputs resource grant policy reservation backend now).ceilingUps) :
    (assemblePlan inputs resource grant policy reservation backend now).invariantsHold = true ∧
    fingerprintSelfConsistent
      (assemblePlan inputs resource grant policy reservation backend now).fingerprint = true ∧
    policy.floorUps ≤
      (assemblePlan inputs resource grant policy reservation backend now).targetUps := by
  generalize hplan : assemblePlan inputs resource grant policy reservation backend now = plan at *
  have htarget : plan.targetUps = clampU64 policy.targetUps policy.floorUps plan.ceilingUps := by
    rw [← hplan]; rfl
  have hfloorUps : plan.floorUps = policy.floorUps := by rw [← hplan]; rfl
  have hbounds := clampU64_toNat policy.targetUps hfloor
  rw [← htarget] at hbounds
  have hfloorTarget : policy.floorUps ≤ plan.targetUps := by
    rw [UInt64.le_iff_toNat_le] at hfloor ⊢
    omega
  have htargetCeiling : plan.targetUps ≤ plan.ceilingUps := by
    rw [UInt64.le_iff_toNat_le] at hfloor ⊢
    omega
  refine ⟨?_, ?_, hfloorTarget⟩
  · unfold EffectivePlan.invariantsHold
    simp only [false_guard, Bool.or_eq_true, Bool.not_eq_true', not_or, Bool.not_eq_false, and_true]
    rw [← hfloorUps] at hfloorTarget
    refine ⟨fun h ↦ UInt64.lt_irrefl _ (h ▸ hceiling), UInt64.not_lt.2 hfloorTarget,
      UInt64.not_lt.2 htargetCeiling, ?_⟩
    subst hplan
    exact ⟨husable.envelope, husable.grant, husable.policy, husable.resource, husable.backend,
      husable.fabric⟩
  · unfold fingerprintSelfConsistent
    simp only [false_guard, ne_eq, Decidable.not_not, decide_eq_true_eq]
    subst hplan
    exact ⟨rfl, rfl, UInt64.not_lt.2 hfloor, rfl, rfl⟩

end Assembly

section Exactness

theorem checked_iff_legal (husable : Usable inputs) :
    Checked inputs now flow resource grant policy reservation backend ↔
      Legal inputs now flow resource grant policy reservation backend := by
  constructor
  · intro h
    obtain ⟨hflow, hflowBound, hflowActive⟩ := h.flowChecked
    obtain ⟨hresource, hresourceBound, hresourceActive, hcapacity⟩ := h.resourceChecked
    obtain ⟨hgrant, hgrantBound, hfunds, hgrantActive, hgrantWindow⟩ := h.grantChecked
    obtain ⟨hpolicy, hpolicyBound, hpolicyActive, hpolicyWindow, hordered⟩ := h.policyChecked
    obtain ⟨hbackend, hbackendBound, hsupported⟩ := h.backendChecked
    obtain ⟨hzero, hfloor, -⟩ := publishPlan_authorized.1 h.published
    have hreserved := h.reservationChecked
    have hsome := isSome_of_reserved hreserved
    have hadmitted : ∀ r ∈ reservation, inputs.reservationDef = some r ∧
        r.generation = inputs.reservationGeneration ∧ r.flow = inputs.flow ∧
        r.resource = inputs.resource ∧ r.active = true ∧ r.window.contains now = true := by
      intro r hr
      obtain rfl : reservation = some r := hr
      exact hreserved.2
    rw [Policy.orderingHolds, Bool.and_eq_true, decide_eq_true_eq, decide_eq_true_eq] at hordered
    exact {
      flowBound := ⟨hflow, hflowBound⟩
      resourceBound := ⟨hresource, hresourceBound⟩
      grantBound := ⟨hgrant, hgrantBound⟩
      policyBound := ⟨hpolicy, hpolicyBound⟩
      backendBound := ⟨hbackend, hbackendBound⟩
      reservationBound := ⟨hsome.symm, fun r hr ↦
        ⟨(hadmitted r hr).1, (hadmitted r hr).2.1⟩⟩
      funds := hfunds
      covers := fun r hr ↦ ⟨(hadmitted r hr).2.2.1, (hadmitted r hr).2.2.2.1⟩
      active := ⟨hflowActive, hresourceActive, hgrantActive, hpolicyActive, fun r hr ↦
        (hadmitted r hr).2.2.2.2.1⟩
      inWindow := ⟨hgrantWindow, hpolicyWindow, fun r hr ↦ (hadmitted r hr).2.2.2.2.2⟩
      capacity := hcapacity
      ordered := hordered
      supported := hsupported
      satisfiable := by
        intro limit hlimit
        have heq := Option.some.inj (hlimit.symm.trans (limits_ceiling now hsome))
        rw [heq]
        exact ⟨UInt64.pos_iff_ne_zero.2 hzero, UInt64.not_lt.1 hfloor⟩ }
  · intro h
    have hsome := h.reservationBound.1.symm
    obtain ⟨hceiling, hfloor⟩ := h.satisfiable _ (limits_ceiling now hsome)
    obtain ⟨hinvariants, hconsistent, htarget⟩ :=
      consistent_of_usable now husable hceiling hfloor
    exact {
      identified := husable.envelope
      named := ⟨husable.flow, husable.resource.1⟩
      flowChecked := ⟨h.flowBound.1, h.flowBound.2, h.active.1⟩
      resourceChecked := ⟨h.resourceBound.1, h.resourceBound.2, h.active.2.1, h.capacity⟩
      grantChecked := ⟨h.grantBound.1, h.grantBound.2, h.funds, h.active.2.2.1, h.inWindow.1⟩
      policyChecked := ⟨h.policyBound.1, h.policyBound.2, h.active.2.2.2.1, h.inWindow.2.1, by
        rw [Policy.orderingHolds, Bool.and_eq_true, decide_eq_true_eq, decide_eq_true_eq]
        exact h.ordered⟩
      reservationChecked := by
        cases reservation with
        | none => exact hsome
        | some r =>
          exact ⟨hsome, (h.reservationBound.2 r rfl).1, (h.reservationBound.2 r rfl).2,
            (h.covers r rfl).1, (h.covers r rfl).2, h.active.2.2.2.2 r rfl,
            h.inWindow.2.2 r rfl⟩
      backendChecked := ⟨h.backendBound.1, h.backendBound.2, h.supported⟩
      published := publishPlan_authorized.2
        ⟨UInt64.pos_iff_ne_zero.1 hceiling, UInt64.not_lt.2 hfloor, UInt64.not_lt.2 htarget,
          hinvariants, hconsistent⟩ }

/-- The plan published of legal authorities leaves exactly the envelope they leave. -/
theorem exact_of_legal (husable : Usable inputs)
    (h : Legal inputs now flow resource grant policy reservation backend) :
    Exact inputs now resource grant policy reservation backend (derivePlan inputs now).plan := by
  have hchecked := (checked_iff_legal husable).2 h
  have hsome := h.reservationBound.1.symm
  obtain ⟨hceiling, hfloor⟩ := h.satisfiable _ (limits_ceiling now hsome)
  obtain ⟨hinvariants, hconsistent, -⟩ :=
    consistent_of_usable now husable hceiling hfloor
  obtain ⟨authority, hburst⟩ := limits_burst now hsome
  rw [derivePlan_of_checked hchecked, publishPlan_plan hchecked.published]
  exact {
    bound := ⟨rfl, rfl, rfl, rfl, rfl, rfl, rfl, rfl⟩
    ceiling := limits_ceiling now hsome
    floor := rfl
    target := clampU64_toNat policy.targetUps hfloor
    burst := hburst.least
    validFrom := planWindow_from h.inWindow.1 h.inWindow.2.1 h.inWindow.2.2
    validUntil := planWindow_until
    clamped := ⟨rfl, rfl, rfl⟩
    consistent := ⟨hinvariants, hconsistent⟩ }

/-- Of usable identities, a plan is authorized exactly when the stored authorities make an
envelope legal, and it is then the envelope they leave. -/
theorem derived_iff_legal (husable : Usable inputs) :
    ((derivePlan inputs now).authorized = true ↔
      ∃ flow resource grant policy reservation backend,
        Legal inputs now flow resource grant policy reservation backend) ∧
    ∀ flow resource grant policy reservation backend,
      Legal inputs now flow resource grant policy reservation backend →
        Exact inputs now resource grant policy reservation backend
          (derivePlan inputs now).plan := by
  refine ⟨?_, fun _ _ _ _ _ _ h ↦ exact_of_legal husable h⟩
  simp only [authorized_iff_checked, checked_iff_legal husable]

/-- The sample authorities, bound at the generation they are registered at. -/
def sampleInputs : PlanInputs where
  envelope := ⟨1⟩
  envelopeGeneration := ⟨1⟩
  flow := ⟨1⟩
  flowGeneration := ⟨1⟩
  flowDef := some sampleFlow
  resource := ⟨1⟩
  resourceGeneration := ⟨1⟩
  resourceDef := some sampleResource
  grant := ⟨1⟩
  grantGeneration := ⟨1⟩
  grantDef := some sampleGrant
  hasReservation := false
  reservation := {}
  reservationGeneration := {}
  reservationDef := none
  policy := ⟨1⟩
  policyGeneration := ⟨1⟩
  policyDef := some samplePolicy
  backend := ⟨1⟩
  backendGeneration := ⟨1⟩
  backendDef := some sampleBackend
  epoch := ⟨1⟩
  boot := ⟨1⟩

theorem derived_iff_legal_sample :
    Usable sampleInputs ∧ ∃ flow resource grant policy reservation backend,
      Legal sampleInputs 5 flow resource grant policy reservation backend := by
  have husable : Usable sampleInputs := by constructor <;> decide
  exact ⟨husable, (derived_iff_legal husable).1.1 (by decide)⟩

end Exactness

end RateGovernor.Safety.LegalEnvelope
