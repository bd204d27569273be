import RateGovernor.Model.Envelope

namespace RateGovernor.Model.Plan

open CheckedMath Identity Reason Entities Envelope

/-- The authorities an envelope is bound to, as they are stored now. A missing definition
is a denial, never a default. -/
structure PlanInputs where
  envelope : RateEnvelopeId
  envelopeGeneration : Generation
  flow : FlowId
  flowGeneration : Generation
  flowDef : Option Flow
  resource : ResourceId
  resourceGeneration : Generation
  resourceDef : Option Resource
  grant : GrantId
  grantGeneration : Generation
  grantDef : Option Grant
  hasReservation : Bool
  reservation : ReservationId
  reservationGeneration : Generation
  reservationDef : Option Reservation
  policy : PolicyId
  policyGeneration : Generation
  policyDef : Option Policy
  backend : BackendId
  backendGeneration : Generation
  backendDef : Option BackendDescriptor
  epoch : FabricEpoch
  boot : WorkerBootId

structure PlanOutcome where
  authorized : Bool := false
  reason : ReasonCode := .none
  plan : EffectivePlan := {}
  explanation : String := ""

structure Candidate where
  value : U64
  authority : LimitingAuthority

def consider (current : Candidate) (value : U64) (authority : LimitingAuthority) : Candidate :=
  if value < current.value then ⟨value, authority⟩ else current

/-- A limit an authority need not declare: zero means it declares none. -/
def considerDeclared (current : Candidate) (value : U64) (authority : LimitingAuthority) :
    Candidate :=
  if value ≠ 0 then consider current value authority else current

def deny (reason : ReasonCode) (explanation : String) : PlanOutcome :=
  { authorized := false, reason := reason, explanation := explanation }

def fingerprintCeiling (fp : PlanFingerprint) : Candidate :=
  let ceiling : Candidate := ⟨fp.grantedCeilingUps, .grant⟩
  let ceiling :=
    if fp.hasReservation then consider ceiling fp.reservedCeilingUps .reservation else ceiling
  let ceiling := consider ceiling fp.policyCeilingUps .policy
  let ceiling := consider ceiling fp.resourceCapacityUps .resource
  considerDeclared ceiling fp.backendMaxRateUps .backend

def fingerprintBurst (fp : PlanFingerprint) : Candidate :=
  let burst : Candidate := ⟨fp.policyBurstTokens, .policy⟩
  let burst := consider burst fp.grantedBurstTokens .grant
  let burst :=
    if fp.hasReservation then consider burst fp.reservedBurstTokens .reservation else burst
  let burst := considerDeclared burst fp.resourceCapacityBurstTokens .resource
  considerDeclared burst fp.backendMaxBurstTokens .backend

def fingerprintSelfConsistent (fp : PlanFingerprint) : Bool :=
  if fp.effectiveCeilingUps ≠ (fingerprintCeiling fp).value then false
  else if fp.effectiveFloorUps ≠ fp.policyFloorUps then false
  else if fp.effectiveCeilingUps < fp.effectiveFloorUps then false
  else if fp.effectiveTargetUps ≠
      clampU64 fp.policyTargetUps fp.policyFloorUps fp.effectiveCeilingUps then false
  else fp.effectiveBurstTokens = (fingerprintBurst fp).value

/-- The grant, policy and reservation windows, as one interval starting no earlier than `now`. -/
def planWindow (grant : Grant) (policy : Policy) (reservation : Option Reservation) (now : U64) :
    U64 × U64 :=
  let validFrom := grant.window.notBeforeNs
  let validUntil := grant.window.invalidAfterNs
  let validFrom := if validFrom < now then now else validFrom
  let validFrom :=
    if validFrom < policy.window.notBeforeNs then policy.window.notBeforeNs else validFrom
  let validUntil :=
    if policy.window.invalidAfterNs < validUntil then policy.window.invalidAfterNs else validUntil
  match reservation with
  | none => (validFrom, validUntil)
  | some reservation =>
    (if validFrom < reservation.window.notBeforeNs then reservation.window.notBeforeNs
      else validFrom,
     if reservation.window.invalidAfterNs < validUntil then reservation.window.invalidAfterNs
      else validUntil)

def magnitude (label : String) (requested effective : U64) : String :=
  label ++ " requested=" ++ toString requested ++ " effective=" ++ toString effective

def limitingText : LimitingAuthority → String
  | .none => "None"
  | .grant => "Grant"
  | .reservation => "Reservation"
  | .policy => "Policy"
  | .resource => "Resource"
  | .backend => "Backend"
  | .unknown | .unlisted _ _ => "Unknown"

def refillText : RefillSemantics → String
  | .unknown | .unlisted _ _ => "Unknown"
  | .continuousTokenBucket => "ContinuousTokenBucket"
  | .discreteTickBucket => "DiscreteTickBucket"

def explainPlan (plan : EffectivePlan) : String :=
  let fp := plan.fingerprint
  "ceiling=" ++ toString fp.effectiveCeilingUps ++ " ups limited_by=" ++
    limitingText plan.limitingAuthority ++
  (if plan.ceilingClamped then
    " (" ++ magnitude "ceiling" fp.policyCeilingUps fp.effectiveCeilingUps ++ ")" else "") ++
  " floor=" ++ toString fp.effectiveFloorUps ++ " target=" ++ toString fp.effectiveTargetUps ++
  (if plan.targetClamped then
    " (" ++ magnitude "target" fp.policyTargetUps fp.effectiveTargetUps ++ ")" else "") ++
  " burst=" ++ toString fp.effectiveBurstTokens ++
  (if plan.burstClamped then
    " (" ++ magnitude "burst" fp.policyBurstTokens fp.effectiveBurstTokens ++ ")" else "") ++
  " refill=" ++ refillText plan.refill ++ " window=[" ++ toString fp.validFromNs ++ "," ++
  (if isNever fp.validUntilNs then "never" else toString fp.validUntilNs) ++ ")"

/-- The plan of authorities that have all been admitted, before its own invariants are checked. -/
def assemblePlan (inputs : PlanInputs) (resource : Resource) (grant : Grant) (policy : Policy)
    (reservation : Option Reservation) (backend : BackendDescriptor) (now : U64) : EffectivePlan :=
  let raw : PlanFingerprint :=
    { envelope := inputs.envelope
      envelopeGeneration := inputs.envelopeGeneration
      flow := inputs.flow
      flowGeneration := inputs.flowGeneration
      resource := inputs.resource
      resourceGeneration := inputs.resourceGeneration
      grant := inputs.grant
      grantGeneration := inputs.grantGeneration
      hasReservation := inputs.hasReservation
      reservation := inputs.reservation
      reservationGeneration := inputs.reservationGeneration
      policy := inputs.policy
      policyGeneration := inputs.policyGeneration
      backend := inputs.backend
      backendGeneration := inputs.backendGeneration
      epoch := inputs.epoch
      boot := inputs.boot
      grantedCeilingUps := grant.ceilingUps
      grantedBurstTokens := grant.burstTokens
      reservedCeilingUps := (reservation.map (·.ceilingUps)).getD 0
      reservedBurstTokens := (reservation.map (·.burstTokens)).getD 0
      policyFloorUps := policy.floorUps
      policyTargetUps := policy.targetUps
      policyCeilingUps := policy.ceilingUps
      policyBurstTokens := policy.burstTokens
      resourceCapacityUps := resource.capacityUps
      resourceCapacityBurstTokens := resource.capacityBurstTokens
      backendMaxRateUps := backend.maxRateUps
      backendMaxBurstTokens := backend.maxBurstTokens }
  let ceiling := fingerprintCeiling raw
  let burst := fingerprintBurst raw
  let target := clampU64 policy.targetUps policy.floorUps ceiling.value
  let window := planWindow grant policy reservation now
  { fingerprint :=
      { raw with
        effectiveCeilingUps := ceiling.value
        effectiveFloorUps := policy.floorUps
        effectiveTargetUps := target
        effectiveBurstTokens := burst.value
        validFromNs := window.1
        validUntilNs := window.2 }
    limitingAuthority := ceiling.authority
    ceilingClamped := ceiling.value < policy.ceilingUps
    targetClamped := target ≠ policy.targetUps
    burstClamped := burst.value ≠ policy.burstTokens
    refill := policy.refill
    graceNs := policy.graceNs
    hysteresis := policy.hysteresis }

/-- The magnitude checks of `derive_plan`, once every authority has been admitted. -/
def publishPlan (policy : Policy) (plan : EffectivePlan) : PlanOutcome :=
  if plan.ceilingUps = 0 then deny .planRejectedCeilingZero "funded ceiling is zero"
  else if plan.ceilingUps < policy.floorUps then
    deny .planRejectedFloorExceedsFundedCeiling
      "policy floor exceeds the funded ceiling; the envelope is unsatisfiable"
  else if plan.targetUps < policy.floorUps then
    deny .planRejectedTargetBelowFloor "target is below the policy floor"
  else if !plan.invariantsHold then
    deny .malformedInput "derived plan violated a structural invariant"
  else if !fingerprintSelfConsistent plan.fingerprint then
    deny .malformedInput "derived plan failed fingerprint consistency"
  else
    { authorized := true
      plan := plan
      explanation := explainPlan plan
      reason :=
        if plan.targetClamped then .planTargetClampedByCeiling
        else if plan.burstClamped then .planBurstClampedByAuthority
        else .planAuthorized }

/-- The backend check of `derive_plan` and everything after it. -/
def deriveWithBackend (inputs : PlanInputs) (resource : Resource) (grant : Grant) (policy : Policy)
    (reservation : Option Reservation) (now : U64) : PlanOutcome :=
  match inputs.backendDef with
  | none => deny .planRejectedMissingBackend "no enforcement backend is registered"
  | some backend =>
    if backend.generation ≠ inputs.backendGeneration then
      deny .planRejectedBackendGenerationMismatch
        "backend generation moved after the envelope was bound"
    else if backend.kind = .unsupported || !backend.canApply then
      deny .planRejectedBackendUnsupported "backend cannot apply a rate envelope"
    else publishPlan policy (assemblePlan inputs resource grant policy reservation backend now)

/-- The reservation check of `derive_plan` and everything after it. -/
def deriveWithReservation (inputs : PlanInputs) (resource : Resource) (grant : Grant)
    (policy : Policy) (now : U64) : PlanOutcome :=
  if !inputs.hasReservation then deriveWithBackend inputs resource grant policy none now
  else match inputs.reservationDef with
    | none =>
      deny .planRejectedMissingReservation "envelope requires a reservation that is not registered"
    | some reservation =>
      if reservation.generation ≠ inputs.reservationGeneration then
        deny .planRejectedReservationGenerationMismatch
          "reservation generation moved after the envelope was bound"
      else if reservation.flow ≠ inputs.flow || reservation.resource ≠ inputs.resource then
        deny .planRejectedMissingReservation "reservation does not cover this flow on this resource"
      else if !reservation.active then
        deny .planRejectedReservationNotActive "reservation is not active"
      else if now < reservation.window.notBeforeNs then
        deny .planRejectedReservationNotYetValid "reservation is not yet valid"
      else if !reservation.window.contains now then
        deny .planRejectedReservationExpired "reservation has expired"
      else deriveWithBackend inputs resource grant policy (some reservation) now

/-- The policy check of `derive_plan` and everything after it. -/
def deriveWithPolicy (inputs : PlanInputs) (resource : Resource) (grant : Grant) (now : U64) :
    PlanOutcome :=
  match inputs.policyDef with
  | none => deny .planRejectedMissingPolicy "no rate policy is registered"
  | some policy =>
    if policy.generation ≠ inputs.policyGeneration then
      deny .planRejectedPolicyGenerationMismatch
        "policy generation moved after the envelope was bound"
    else if !policy.active then deny .planRejectedPolicyNotActive "policy is not active"
    else if now < policy.window.notBeforeNs then
      deny .planRejectedPolicyNotYetValid "policy is not yet valid"
    else if !policy.window.contains now then
      deny .planRejectedPolicyExpired "policy has expired"
    else if !policy.orderingHolds then
      deny .malformedInput "policy violates floor <= target <= ceiling"
    else deriveWithReservation inputs resource grant policy now

/-- The grant check of `derive_plan` and everything after it. -/
def deriveWithGrant (inputs : PlanInputs) (resource : Resource) (now : U64) : PlanOutcome :=
  match inputs.grantDef with
  | none => deny .planRejectedMissingGrant "no funding grant is registered"
  | some grant =>
    if grant.generation ≠ inputs.grantGeneration then
      deny .planRejectedGrantGenerationMismatch
        "grant generation moved after the envelope was bound"
    else if grant.flow ≠ inputs.flow || grant.resource ≠ inputs.resource then
      deny .planRejectedUnknownFlow "grant does not fund this flow on this resource"
    else if !grant.active then deny .planRejectedGrantNotActive "grant is not active"
    else if now < grant.window.notBeforeNs then
      deny .planRejectedGrantNotYetValid "grant is not yet valid"
    else if !grant.window.contains now then deny .planRejectedGrantExpired "grant has expired"
    else deriveWithPolicy inputs resource grant now

/-- What rate envelope the authorities support at `now`, or the reason they support none. -/
def derivePlan (inputs : PlanInputs) (now : U64) : PlanOutcome :=
  if !inputs.envelope.valid || !inputs.envelopeGeneration.valid then
    deny .planRejectedEnvelopeGenerationMismatch "envelope identity or generation is not usable"
  else if !inputs.flow.valid || !inputs.resource.valid then
    deny .planRejectedUnknownFlow "binding names an unusable flow or resource"
  else match inputs.flowDef with
    | none => deny .planRejectedUnknownFlow "flow is not registered"
    | some flow =>
      if flow.generation ≠ inputs.flowGeneration then
        deny .planRejectedFlowGenerationMismatch
          "flow definition generation does not match the binding"
      else if !flow.active then deny .planRejectedFlowNotActive "flow is not active"
      else match inputs.resourceDef with
        | none => deny .planRejectedUnknownResource "resource is not registered"
        | some resource =>
          if resource.generation ≠ inputs.resourceGeneration then
            deny .planRejectedResourceGenerationMismatch
              "resource definition generation does not match the binding"
          else if !resource.active then
            deny .planRejectedResourceNotActive "resource is not active"
          else if resource.capacityUps = 0 then
            deny .planRejectedResourceCapacityZero "resource declares zero capacity"
          else deriveWithGrant inputs resource now

/-- Whether a recorded plan still names the authorities stored now, at the magnitudes recorded. -/
def fingerprintMatchesAuthority (fp : PlanFingerprint) (inputs : PlanInputs) : Bool :=
  match inputs.grantDef, inputs.policyDef, inputs.resourceDef, inputs.backendDef with
  | some grant, some policy, some resource, some backend =>
    if fp.grant ≠ inputs.grant || fp.grantGeneration ≠ inputs.grantGeneration then false
    else if fp.policy ≠ inputs.policy || fp.policyGeneration ≠ inputs.policyGeneration then false
    else if fp.resource ≠ inputs.resource ||
        fp.resourceGeneration ≠ inputs.resourceGeneration then false
    else if fp.backend ≠ inputs.backend ||
        fp.backendGeneration ≠ inputs.backendGeneration then false
    else if fp.hasReservation ≠ inputs.hasReservation then false
    else if inputs.hasReservation && (fp.reservation ≠ inputs.reservation ||
        fp.reservationGeneration ≠ inputs.reservationGeneration) then false
    else if fp.grantedCeilingUps ≠ grant.ceilingUps ||
        fp.grantedBurstTokens ≠ grant.burstTokens then false
    else if fp.policyCeilingUps ≠ policy.ceilingUps || fp.policyFloorUps ≠ policy.floorUps ||
        fp.policyTargetUps ≠ policy.targetUps || fp.policyBurstTokens ≠ policy.burstTokens then
      false
    else if fp.resourceCapacityUps ≠ resource.capacityUps ||
        fp.resourceCapacityBurstTokens ≠ resource.capacityBurstTokens then false
    else if fp.backendMaxRateUps ≠ backend.maxRateUps ||
        fp.backendMaxBurstTokens ≠ backend.maxBurstTokens then false
    else true
  | _, _, _, _ => false

end RateGovernor.Model.Plan
