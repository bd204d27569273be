import RateGovernor.Model.Bucket
import RateGovernor.Model.Entities

namespace RateGovernor.Model.Envelope

open CheckedMath Identity Reason Bucket Entities Foundation.ByteCodec

inductive EnvelopeState
  | unknown | desired | authorized | dispatching | applied | degraded | revokePending | revoked
  | stale | failed
  | unlisted (raw : UInt8) (h : 10 ≤ raw)
  deriving DecidableEq

instance : ByteEnum EnvelopeState where
  toByte
    | .unknown => 0
    | .desired => 1
    | .authorized => 2
    | .dispatching => 3
    | .applied => 4
    | .degraded => 5
    | .revokePending => 6
    | .revoked => 7
    | .stale => 8
    | .failed => 9
    | .unlisted raw _ => raw
  ofByte raw :=
    if h : 10 ≤ raw then .unlisted raw h
    else match raw.toNat with
      | 0 => .unknown
      | 1 => .desired
      | 2 => .authorized
      | 3 => .dispatching
      | 4 => .applied
      | 5 => .degraded
      | 6 => .revokePending
      | 7 => .revoked
      | 8 => .stale
      | _ => .failed
  ofByte_toByte x := by
    cases x with
    | unlisted raw h => simp only [h, dite_true]
    | _ => rfl
  toByte_ofByte b := by
    by_cases h : 10 ≤ b
    · simp only [h, dite_true]
    · have hb : b.toNat < 10 := by simpa [UInt8.le_iff_toNat_le] using h
      simp only [h, dite_false]
      apply UInt8.toNat_inj.1
      interval_cases b.toNat <;> rfl

inductive EnvelopeAction
  | none | awaitAuthorization | awaitVerification | retryApply | reduce | revoke | revalidate
  | fence | rejectStale | halt
  deriving DecidableEq

inductive LimitingAuthority
  | none | grant | reservation | policy | resource | backend | unknown
  | unlisted (raw : UInt8) (h : 7 ≤ raw)
  deriving DecidableEq

instance : ByteEnum LimitingAuthority where
  toByte
    | .none => 0
    | .grant => 1
    | .reservation => 2
    | .policy => 3
    | .resource => 4
    | .backend => 5
    | .unknown => 6
    | .unlisted raw _ => raw
  ofByte raw :=
    if h : 7 ≤ raw then .unlisted raw h
    else match raw.toNat with
      | 0 => .none
      | 1 => .grant
      | 2 => .reservation
      | 3 => .policy
      | 4 => .resource
      | 5 => .backend
      | _ => .unknown
  ofByte_toByte x := by
    cases x with
    | unlisted raw h => simp only [h, dite_true]
    | _ => rfl
  toByte_ofByte b := by
    by_cases h : 7 ≤ b
    · simp only [h, dite_true]
    · have hb : b.toNat < 7 := by simpa [UInt8.le_iff_toNat_le] using h
      simp only [h, dite_false]
      apply UInt8.toNat_inj.1
      interval_cases b.toNat <;> rfl

inductive AttemptKind
  | unknown | apply | revoke
  | unlisted (raw : UInt8) (h : raw ≥ 3)
  deriving DecidableEq

instance : ByteEnum AttemptKind where
  toByte
    | .unknown => 0
    | .apply => 1
    | .revoke => 2
    | .unlisted raw _ => raw
  ofByte raw :=
    if h : 3 ≤ raw then .unlisted raw h
    else match raw.toNat with
      | 0 => .unknown
      | 1 => .apply
      | _ => .revoke
  ofByte_toByte x := by
    cases x with
    | unlisted raw h => simp only [h, dite_true]
    | _ => rfl
  toByte_ofByte b := by
    by_cases h : 3 ≤ b
    · simp only [h, dite_true]
    · have hb : b.toNat < 3 := by simpa [UInt8.le_iff_toNat_le] using h
      simp only [h, dite_false]
      apply UInt8.toNat_inj.1
      interval_cases b.toNat <;> rfl

inductive AttemptState
  | unknown | created | dispatched | acknowledged | verified | failed | cancelled | abandoned
  | lateRejected | duplicateIgnored | ambiguous
  | unlisted (raw : UInt8) (h : 11 ≤ raw)
  deriving DecidableEq

instance : ByteEnum AttemptState where
  toByte
    | .unknown => 0
    | .created => 1
    | .dispatched => 2
    | .acknowledged => 3
    | .verified => 4
    | .failed => 5
    | .cancelled => 6
    | .abandoned => 7
    | .lateRejected => 8
    | .duplicateIgnored => 9
    | .ambiguous => 10
    | .unlisted raw _ => raw
  ofByte raw :=
    if h : 11 ≤ raw then .unlisted raw h
    else match raw.toNat with
      | 0 => .unknown
      | 1 => .created
      | 2 => .dispatched
      | 3 => .acknowledged
      | 4 => .verified
      | 5 => .failed
      | 6 => .cancelled
      | 7 => .abandoned
      | 8 => .lateRejected
      | 9 => .duplicateIgnored
      | _ => .ambiguous
  ofByte_toByte x := by
    cases x with
    | unlisted raw h => simp only [h, dite_true]
    | _ => rfl
  toByte_ofByte b := by
    by_cases h : 11 ≤ b
    · simp only [h, dite_true]
    · have hb : b.toNat < 11 := by simpa [UInt8.le_iff_toNat_le] using h
      simp only [h, dite_false]
      apply UInt8.toNat_inj.1
      interval_cases b.toNat <;> rfl

/-- Binds a decision to every generation and magnitude that justified it. -/
structure PlanFingerprint where
  envelope : RateEnvelopeId := {}
  envelopeGeneration : Generation := {}
  flow : FlowId := {}
  flowGeneration : Generation := {}
  resource : ResourceId := {}
  resourceGeneration : Generation := {}
  grant : GrantId := {}
  grantGeneration : Generation := {}
  hasReservation : Bool := false
  reservation : ReservationId := {}
  reservationGeneration : Generation := {}
  policy : PolicyId := {}
  policyGeneration : Generation := {}
  backend : BackendId := {}
  backendGeneration : Generation := {}
  epoch : FabricEpoch := {}
  boot : WorkerBootId := {}
  grantedCeilingUps : U64 := 0
  grantedBurstTokens : U64 := 0
  reservedCeilingUps : U64 := 0
  reservedBurstTokens : U64 := 0
  policyFloorUps : U64 := 0
  policyTargetUps : U64 := 0
  policyCeilingUps : U64 := 0
  policyBurstTokens : U64 := 0
  resourceCapacityUps : U64 := 0
  resourceCapacityBurstTokens : U64 := 0
  backendMaxRateUps : U64 := 0
  backendMaxBurstTokens : U64 := 0
  effectiveCeilingUps : U64 := 0
  effectiveFloorUps : U64 := 0
  effectiveTargetUps : U64 := 0
  effectiveBurstTokens : U64 := 0
  validFromNs : U64 := 0
  validUntilNs : U64 := kNeverExpiresNs

def PlanFingerprint.sameBinding (a b : PlanFingerprint) : Bool :=
  a.envelope = b.envelope && a.envelopeGeneration = b.envelopeGeneration &&
  a.flow = b.flow && a.flowGeneration = b.flowGeneration &&
  a.resource = b.resource && a.resourceGeneration = b.resourceGeneration &&
  a.grant = b.grant && a.grantGeneration = b.grantGeneration &&
  a.hasReservation = b.hasReservation && a.reservation = b.reservation &&
  a.reservationGeneration = b.reservationGeneration && a.policy = b.policy &&
  a.policyGeneration = b.policyGeneration && a.backend = b.backend &&
  a.backendGeneration = b.backendGeneration && a.epoch = b.epoch && a.boot = b.boot

structure EffectivePlan where
  fingerprint : PlanFingerprint := {}
  limitingAuthority : LimitingAuthority := .none
  ceilingClamped : Bool := false
  targetClamped : Bool := false
  burstClamped : Bool := false
  refill : RefillSemantics := .unknown
  graceNs : U64 := 0
  hysteresis : HysteresisPolicy := {}
  explanation : Text := []

def EffectivePlan.ceilingUps (plan : EffectivePlan) : U64 := plan.fingerprint.effectiveCeilingUps
def EffectivePlan.floorUps (plan : EffectivePlan) : U64 := plan.fingerprint.effectiveFloorUps
def EffectivePlan.targetUps (plan : EffectivePlan) : U64 := plan.fingerprint.effectiveTargetUps
def EffectivePlan.burstTokens (plan : EffectivePlan) : U64 := plan.fingerprint.effectiveBurstTokens

def EffectivePlan.invariantsHold (plan : EffectivePlan) : Bool :=
  let fp := plan.fingerprint
  if fp.effectiveCeilingUps = 0 then false
  else if fp.effectiveTargetUps < fp.effectiveFloorUps then false
  else if fp.effectiveCeilingUps < fp.effectiveTargetUps then false
  else if !fp.envelope.valid || !fp.envelopeGeneration.valid then false
  else if !fp.grant.valid || !fp.grantGeneration.valid then false
  else if !fp.policy.valid || !fp.policyGeneration.valid then false
  else if !fp.resource.valid || !fp.resourceGeneration.valid then false
  else if !fp.backend.valid || !fp.backendGeneration.valid then false
  else if !fp.epoch.valid || !fp.boot.valid then false
  else true

/-- A requested generation of zero is resolved to the one stored when the envelope is opened. -/
structure EnvelopeRequest where
  flow : FlowId := {}
  flowGeneration : Generation := {}
  resource : ResourceId := {}
  resourceGeneration : Generation := {}
  grant : GrantId := {}
  grantGeneration : Generation := {}
  hasReservation : Bool := false
  reservation : ReservationId := {}
  reservationGeneration : Generation := {}
  policy : PolicyId := {}
  policyGeneration : Generation := {}
  backend : BackendId := {}
  backendGeneration : Generation := {}
  annotation : Text := []

def attemptInflight (state : AttemptState) : Bool :=
  state = .created || state = .dispatched || state = .acknowledged

def attemptStateIsTerminal : AttemptState → Bool
  | .verified | .failed | .cancelled | .abandoned | .lateRejected | .duplicateIgnored
  | .ambiguous => true
  | .unknown | .created | .dispatched | .acknowledged | .unlisted _ _ => false

structure EnforcementAttempt where
  id : EnforcementAttemptId := {}
  envelope : RateEnvelopeId := {}
  envelopeGeneration : Generation := {}
  kind : AttemptKind := .unknown
  state : AttemptState := .unknown
  reason : ReasonCode := .none
  fingerprint : PlanFingerprint := {}
  backend : BackendId := {}
  backendGeneration : Generation := {}
  epoch : FabricEpoch := {}
  boot : WorkerBootId := {}
  sequence : U64 := 0
  idempotencyKey : U64 := 0
  createdNs : U64 := 0
  dispatchedNs : U64 := 0
  deadlineNs : U64 := 0
  completedNs : U64 := 0
  requestedRateUps : U64 := 0
  requestedBurstTokens : U64 := 0
  acknowledgedRateUps : U64 := 0
  acknowledgedBurstTokens : U64 := 0
  acknowledged : Bool := false
  verifiedRateUps : U64 := 0
  verifiedBurstTokens : U64 := 0
  verified : Bool := false
  effectConfirmed : Bool := false
  compensating : Bool := false
  detail : Text := []

def EnforcementAttempt.inflight (attempt : EnforcementAttempt) : Bool :=
  attemptInflight attempt.state

def computeIdempotencyKey (envelope : RateEnvelopeId) (envelopeGeneration : Generation)
    (kind : AttemptKind) : U64 :=
  let state := mix64 envelope.value
  let state := state ^^^ mix64 (envelopeGeneration.value * 0x9E3779B97F4A7C15)
  let state := state ^^^ mix64 ((ByteEnum.toByte kind).toUInt64 + 0x165667B19E3779F9)
  mix64 state

/-- The governed envelope: its binding, its plan, and the effect read back for it. -/
structure RateEnvelope where
  id : RateEnvelopeId := {}
  generation : Generation := ⟨1⟩
  flow : FlowId := {}
  flowGeneration : Generation := {}
  resource : ResourceId := {}
  resourceGeneration : Generation := {}
  grant : GrantId := {}
  grantGeneration : Generation := {}
  hasReservation : Bool := false
  reservation : ReservationId := {}
  reservationGeneration : Generation := {}
  policy : PolicyId := {}
  policyGeneration : Generation := {}
  backend : BackendId := {}
  backendGeneration : Generation := {}
  state : EnvelopeState := .unknown
  reason : ReasonCode := .none
  hasPlan : Bool := false
  plan : EffectivePlan := {}
  bucket : TokenBucket := {}
  appliedRateUps : U64 := 0
  appliedBurstTokens : U64 := 0
  effectVerified : Bool := false
  appliedEpoch : FabricEpoch := {}
  appliedBoot : WorkerBootId := {}
  cooldownUntilNs : U64 := 0
  revalidateByNs : U64 := 0
  requiresRevalidation : Bool := false
  annotation : Text := []
  createdNs : U64 := 0
  updatedNs : U64 := 0
  planRevision : U64 := 0
  attemptsIssued : U64 := 0
  completionsApplied : U64 := 0
  completionsRejected : U64 := 0

end RateGovernor.Model.Envelope
