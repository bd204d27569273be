import RateGovernor.Model.RecordCodec

namespace RateGovernor.Model.EnvelopeCodec

open CheckedMath Identity Reason Bucket Entities Envelope RecordCodec Foundation.ByteCodec

def encodeFingerprint (fp : PlanFingerprint) : Bytes :=
  [putU64 fp.envelope.value, putU64 fp.envelopeGeneration.value, putU64 fp.flow.value,
    putU64 fp.flowGeneration.value, putU64 fp.resource.value, putU64 fp.resourceGeneration.value,
    putU64 fp.grant.value, putU64 fp.grantGeneration.value, putBool fp.hasReservation, putU8 0,
    putU16 0, putU32 0, putU64 fp.reservation.value, putU64 fp.reservationGeneration.value,
    putU64 fp.policy.value, putU64 fp.policyGeneration.value, putU64 fp.backend.value,
    putU64 fp.backendGeneration.value, putU64 fp.epoch.value, putU64 fp.boot.value,
    putU64 fp.grantedCeilingUps, putU64 fp.grantedBurstTokens, putU64 fp.reservedCeilingUps,
    putU64 fp.reservedBurstTokens, putU64 fp.policyFloorUps, putU64 fp.policyTargetUps,
    putU64 fp.policyCeilingUps, putU64 fp.policyBurstTokens, putU64 fp.resourceCapacityUps,
    putU64 fp.resourceCapacityBurstTokens, putU64 fp.backendMaxRateUps,
    putU64 fp.backendMaxBurstTokens, putU64 fp.effectiveCeilingUps, putU64 fp.effectiveFloorUps,
    putU64 fp.effectiveTargetUps, putU64 fp.effectiveBurstTokens, putU64 fp.validFromNs,
    putU64 fp.validUntilNs].flatten

def decodeFingerprint : Reader PlanFingerprint := do
  let envelope ← u64
  let envelopeGeneration ← u64
  let flow ← u64
  let flowGeneration ← u64
  let resource ← u64
  let resourceGeneration ← u64
  let grant ← u64
  let grantGeneration ← u64
  let hasReservation ← u8
  let pad8 ← u8
  let pad16 ← u16
  let pad32 ← u32
  let reservation ← u64
  let reservationGeneration ← u64
  let policy ← u64
  let policyGeneration ← u64
  let backend ← u64
  let backendGeneration ← u64
  let epoch ← u64
  let boot ← u64
  check (pad8 = 0 && pad16 = 0 && pad32 = 0 && hasReservation ≤ 1)
  let grantedCeilingUps ← u64
  let grantedBurstTokens ← u64
  let reservedCeilingUps ← u64
  let reservedBurstTokens ← u64
  let policyFloorUps ← u64
  let policyTargetUps ← u64
  let policyCeilingUps ← u64
  let policyBurstTokens ← u64
  let resourceCapacityUps ← u64
  let resourceCapacityBurstTokens ← u64
  let backendMaxRateUps ← u64
  let backendMaxBurstTokens ← u64
  let effectiveCeilingUps ← u64
  let effectiveFloorUps ← u64
  let effectiveTargetUps ← u64
  let effectiveBurstTokens ← u64
  let validFromNs ← u64
  let validUntilNs ← u64
  return { envelope := ⟨envelope⟩, envelopeGeneration := ⟨envelopeGeneration⟩, flow := ⟨flow⟩,
           flowGeneration := ⟨flowGeneration⟩, resource := ⟨resource⟩,
           resourceGeneration := ⟨resourceGeneration⟩, grant := ⟨grant⟩,
           grantGeneration := ⟨grantGeneration⟩, hasReservation := hasReservation = 1,
           reservation := ⟨reservation⟩, reservationGeneration := ⟨reservationGeneration⟩,
           policy := ⟨policy⟩, policyGeneration := ⟨policyGeneration⟩, backend := ⟨backend⟩,
           backendGeneration := ⟨backendGeneration⟩, epoch := ⟨epoch⟩, boot := ⟨boot⟩,
           grantedCeilingUps, grantedBurstTokens, reservedCeilingUps, reservedBurstTokens,
           policyFloorUps, policyTargetUps, policyCeilingUps, policyBurstTokens,
           resourceCapacityUps, resourceCapacityBurstTokens, backendMaxRateUps,
           backendMaxBurstTokens, effectiveCeilingUps, effectiveFloorUps, effectiveTargetUps,
           effectiveBurstTokens, validFromNs, validUntilNs }

def encodePlan (plan : EffectivePlan) : Bytes :=
  [encodeFingerprint plan.fingerprint, putEnum plan.limitingAuthority, putBool plan.ceilingClamped,
    putBool plan.targetClamped, putBool plan.burstClamped, putEnum plan.refill, putU8 0, putU16 0,
    putU32 0, putU64 plan.graceNs, putU64 plan.hysteresis.reduceBelowUps,
    putU64 plan.hysteresis.recoverAtUps, putU64 plan.hysteresis.cooldownNs,
    putText plan.explanation].flatten

def decodePlan : Reader EffectivePlan := do
  let fingerprint ← decodeFingerprint
  let limitingAuthority ← enum
  let ceilingClamped ← u8
  let targetClamped ← u8
  let burstClamped ← u8
  let refill ← enum
  let pad8 ← u8
  let pad16 ← u16
  let pad32 ← u32
  let graceNs ← u64
  let reduceBelowUps ← u64
  let recoverAtUps ← u64
  let cooldownNs ← u64
  check (pad8 = 0 && pad16 = 0 && pad32 = 0 && ceilingClamped ≤ 1 && targetClamped ≤ 1 &&
    burstClamped ≤ 1)
  let explanation ← getText
  return { fingerprint, limitingAuthority, ceilingClamped := ceilingClamped = 1,
           targetClamped := targetClamped = 1, burstClamped := burstClamped = 1, refill, graceNs,
           hysteresis := { reduceBelowUps, recoverAtUps, cooldownNs }, explanation }

def encodeBucket (bucket : TokenBucket) : Bytes :=
  [putU64 bucket.tokens, putU64 bucket.capacity, putU64 bucket.rateUps,
    putU64 bucket.lastRefillNs, putU64 bucket.fractionalNumerator, putBool bucket.initialized,
    putU8 0, putU16 0, putU32 0].flatten

def decodeBucket : Reader TokenBucket := do
  let tokens ← u64
  let capacity ← u64
  let rateUps ← u64
  let lastRefillNs ← u64
  let fractionalNumerator ← u64
  let initialized ← u8
  let pad8 ← u8
  let pad16 ← u16
  let pad32 ← u32
  check (pad8 = 0 && pad16 = 0 && pad32 = 0 && initialized ≤ 1)
  return { tokens, capacity, rateUps, lastRefillNs, fractionalNumerator,
           initialized := initialized = 1 }

/-- The plan is written only when the envelope has one. -/
def encodeEnvelope (envelope : RateEnvelope) : Bytes :=
  [putU64 envelope.id.value, putU64 envelope.generation.value, putU64 envelope.flow.value,
    putU64 envelope.flowGeneration.value, putU64 envelope.resource.value,
    putU64 envelope.resourceGeneration.value, putU64 envelope.grant.value,
    putU64 envelope.grantGeneration.value, putBool envelope.hasReservation, putU8 0, putU16 0,
    putU32 0, putU64 envelope.reservation.value, putU64 envelope.reservationGeneration.value,
    putU64 envelope.policy.value, putU64 envelope.policyGeneration.value,
    putU64 envelope.backend.value, putU64 envelope.backendGeneration.value,
    putEnum envelope.state, putU8 0, putReason envelope.reason, putU32 0,
    putBool envelope.hasPlan, putBool envelope.effectVerified,
    putBool envelope.requiresRevalidation, putU8 0,
    if envelope.hasPlan then encodePlan envelope.plan else [],
    encodeBucket envelope.bucket, putU64 envelope.appliedRateUps,
    putU64 envelope.appliedBurstTokens, putU64 envelope.appliedEpoch.value,
    putU64 envelope.appliedBoot.value, putU64 envelope.cooldownUntilNs,
    putU64 envelope.revalidateByNs, putU64 envelope.createdNs, putU64 envelope.updatedNs,
    putU64 envelope.planRevision, putU64 envelope.attemptsIssued,
    putU64 envelope.completionsApplied, putU64 envelope.completionsRejected,
    putText envelope.annotation].flatten

def decodePlanWhen (present : Bool) : Reader EffectivePlan := if present then decodePlan else pure {}

/-- The pads after the state overwrite two of the pads after the reservation flag. -/
def decodeEnvelope : Reader RateEnvelope := do
  let id ← u64
  let generation ← u64
  let flow ← u64
  let flowGeneration ← u64
  let resource ← u64
  let resourceGeneration ← u64
  let grant ← u64
  let grantGeneration ← u64
  let hasReservation ← u8
  let _ ← u8
  let pad16 ← u16
  let _ ← u32
  let reservation ← u64
  let reservationGeneration ← u64
  let policy ← u64
  let policyGeneration ← u64
  let backend ← u64
  let backendGeneration ← u64
  let state ← enum
  let pad8 ← u8
  let reason ← reason
  let pad32 ← u32
  let hasPlan ← u8
  let effectVerified ← u8
  let requiresRevalidation ← u8
  let pad8b ← u8
  check (pad8 = 0 && pad16 = 0 && pad32 = 0 && pad8b = 0 && hasReservation ≤ 1 && hasPlan ≤ 1 &&
    effectVerified ≤ 1 && requiresRevalidation ≤ 1)
  let plan ← decodePlanWhen (hasPlan = 1)
  let bucket ← decodeBucket
  let appliedRateUps ← u64
  let appliedBurstTokens ← u64
  let appliedEpoch ← u64
  let appliedBoot ← u64
  let cooldownUntilNs ← u64
  let revalidateByNs ← u64
  let createdNs ← u64
  let updatedNs ← u64
  let planRevision ← u64
  let attemptsIssued ← u64
  let completionsApplied ← u64
  let completionsRejected ← u64
  let annotation ← getText
  return { id := ⟨id⟩, generation := ⟨generation⟩, flow := ⟨flow⟩,
           flowGeneration := ⟨flowGeneration⟩, resource := ⟨resource⟩,
           resourceGeneration := ⟨resourceGeneration⟩, grant := ⟨grant⟩,
           grantGeneration := ⟨grantGeneration⟩, hasReservation := hasReservation = 1,
           reservation := ⟨reservation⟩, reservationGeneration := ⟨reservationGeneration⟩,
           policy := ⟨policy⟩, policyGeneration := ⟨policyGeneration⟩, backend := ⟨backend⟩,
           backendGeneration := ⟨backendGeneration⟩, state, reason, hasPlan := hasPlan = 1, plan,
           bucket, appliedRateUps, appliedBurstTokens, effectVerified := effectVerified = 1,
           appliedEpoch := ⟨appliedEpoch⟩, appliedBoot := ⟨appliedBoot⟩, cooldownUntilNs,
           revalidateByNs, requiresRevalidation := requiresRevalidation = 1, annotation,
           createdNs, updatedNs, planRevision, attemptsIssued, completionsApplied,
           completionsRejected }

def encodeAttempt (attempt : EnforcementAttempt) : Bytes :=
  [putU64 attempt.id.value, putU64 attempt.envelope.value,
    putU64 attempt.envelopeGeneration.value, putEnum attempt.kind, putEnum attempt.state,
    putReason attempt.reason, putU32 0, encodeFingerprint attempt.fingerprint,
    putU64 attempt.backend.value, putU64 attempt.backendGeneration.value,
    putU64 attempt.epoch.value, putU64 attempt.boot.value, putU64 attempt.sequence,
    putU64 attempt.idempotencyKey, putU64 attempt.createdNs, putU64 attempt.dispatchedNs,
    putU64 attempt.deadlineNs, putU64 attempt.completedNs, putU64 attempt.requestedRateUps,
    putU64 attempt.requestedBurstTokens, putU64 attempt.acknowledgedRateUps,
    putU64 attempt.acknowledgedBurstTokens, putBool attempt.acknowledged,
    putBool attempt.verified, putBool attempt.effectConfirmed, putBool attempt.compensating,
    putU64 attempt.verifiedRateUps, putU64 attempt.verifiedBurstTokens,
    putText attempt.detail].flatten

def decodeAttempt : Reader EnforcementAttempt := do
  let id ← u64
  let envelope ← u64
  let envelopeGeneration ← u64
  let kind ← enum
  let state ← enum
  let reason ← reason
  let pad32 ← u32
  check (pad32 = 0)
  let fingerprint ← decodeFingerprint
  let backend ← u64
  let backendGeneration ← u64
  let epoch ← u64
  let boot ← u64
  let sequence ← u64
  let idempotencyKey ← u64
  let createdNs ← u64
  let dispatchedNs ← u64
  let deadlineNs ← u64
  let completedNs ← u64
  let requestedRateUps ← u64
  let requestedBurstTokens ← u64
  let acknowledgedRateUps ← u64
  let acknowledgedBurstTokens ← u64
  let acknowledged ← u8
  let verified ← u8
  let effectConfirmed ← u8
  let compensating ← u8
  let verifiedRateUps ← u64
  let verifiedBurstTokens ← u64
  check (acknowledged ≤ 1 && verified ≤ 1 && effectConfirmed ≤ 1 && compensating ≤ 1)
  let detail ← getText
  return { id := ⟨id⟩, envelope := ⟨envelope⟩, envelopeGeneration := ⟨envelopeGeneration⟩, kind,
           state, reason, fingerprint, backend := ⟨backend⟩,
           backendGeneration := ⟨backendGeneration⟩, epoch := ⟨epoch⟩, boot := ⟨boot⟩, sequence,
           idempotencyKey, createdNs, dispatchedNs, deadlineNs, completedNs, requestedRateUps,
           requestedBurstTokens, acknowledgedRateUps, acknowledgedBurstTokens,
           acknowledged := acknowledged = 1, verifiedRateUps, verifiedBurstTokens,
           verified := verified = 1, effectConfirmed := effectConfirmed = 1,
           compensating := compensating = 1, detail }

def encodeEpochPayload (epoch : FabricEpoch) (boot : WorkerBootId) (reason : ReasonCode) : Bytes :=
  [putU64 epoch.value, putU64 boot.value, putReason reason, putU16 0, putU32 0].flatten

def decodeEpochPayload : Reader (FabricEpoch × WorkerBootId × ReasonCode) := do
  let epoch ← u64
  let boot ← u64
  let reason ← reason
  let pad16 ← u16
  let pad32 ← u32
  check (pad16 = 0 && pad32 = 0)
  return (⟨epoch⟩, ⟨boot⟩, reason)

/-- The patch an `EnvelopeCounters` record is read as. -/
structure BucketPatch where
  id : RateEnvelopeId
  generation : Generation
  bucket : TokenBucket
  createdNs : U64
  updatedNs : U64
  attemptsIssued : U64
  completionsApplied : U64
  completionsRejected : U64

def decodeBucketPayload : Reader BucketPatch := do
  let id ← u64
  let generation ← u64
  let bucket ← decodeBucket
  let createdNs ← u64
  let updatedNs ← u64
  let attemptsIssued ← u64
  let completionsApplied ← u64
  let completionsRejected ← u64
  return { id := ⟨id⟩, generation := ⟨generation⟩, bucket, createdNs, updatedNs, attemptsIssued,
           completionsApplied, completionsRejected }

def encodeBucketPayload (envelope : RateEnvelope) : Bytes :=
  [putU64 envelope.id.value, putU64 envelope.generation.value, encodeBucket envelope.bucket,
    putU64 envelope.createdNs, putU64 envelope.updatedNs, putU64 envelope.attemptsIssued,
    putU64 envelope.completionsApplied, putU64 envelope.completionsRejected].flatten

/-- The envelope the payload is decoded into, default but for the fields the payload carries. -/
def BucketPatch.envelope (patch : BucketPatch) : RateEnvelope :=
  { id := patch.id, generation := patch.generation, bucket := patch.bucket,
    createdNs := patch.createdNs, updatedNs := patch.updatedNs,
    attemptsIssued := patch.attemptsIssued, completionsApplied := patch.completionsApplied,
    completionsRejected := patch.completionsRejected }

section RoundTrip

theorem decodes_fingerprint (fp : PlanFingerprint) :
    Decodes decodeFingerprint (encodeFingerprint fp) fp := by
  iterate 8 refine (decodes_u64 _).field ?_
  refine (decodes_flag _).field ?_
  refine (decodes_u8 _).field ?_
  refine (decodes_u16 _).field ?_
  refine (decodes_u32 _).field ?_
  iterate 8 refine (decodes_u64 _).field ?_
  refine .check (by simp) ?_
  iterate 18 refine (decodes_u64 _).field ?_
  exact .done (by simp)

theorem decodes_plan {plan : EffectivePlan}
    (h : plan.explanation.length ≤ kRecordTextHardLimit) :
    Decodes decodePlan (encodePlan plan) plan := by
  refine (decodes_fingerprint _).field ?_
  refine (decodes_enum _).field ?_
  iterate 3 refine (decodes_flag _).field ?_
  refine (decodes_enum _).field ?_
  refine (decodes_u8 _).field ?_
  refine (decodes_u16 _).field ?_
  refine (decodes_u32 _).field ?_
  iterate 4 refine (decodes_u64 _).field ?_
  refine .check (by simp) ?_
  refine (decodes_text h).field ?_
  exact .done (by simp)

theorem decodes_bucket (bucket : TokenBucket) :
    Decodes decodeBucket (encodeBucket bucket) bucket := by
  iterate 5 refine (decodes_u64 _).field ?_
  refine (decodes_flag _).field ?_
  refine (decodes_u8 _).field ?_
  refine (decodes_u16 _).field ?_
  refine (decodes_u32 _).field ?_
  refine .check (by simp) ?_
  exact .done (by simp)

/-- What an envelope record can carry: texts within the limit, and no plan where none is flagged. -/
structure Storable (envelope : RateEnvelope) : Prop where
  annotation : envelope.annotation.length ≤ kRecordTextHardLimit
  explanation : envelope.plan.explanation.length ≤ kRecordTextHardLimit
  planless : envelope.hasPlan = false → envelope.plan = {}

theorem decodes_planWhen {envelope : RateEnvelope} (h : Storable envelope) :
    Decodes (decodePlanWhen (flagByte envelope.hasPlan = 1))
      (if envelope.hasPlan then encodePlan envelope.plan else []) envelope.plan := by
  cases hplan : envelope.hasPlan with
  | true => exact decodes_plan h.explanation
  | false =>
    rw [h.planless hplan]
    exact .pure _

theorem decodes_envelope {envelope : RateEnvelope} (h : Storable envelope) :
    Decodes decodeEnvelope (encodeEnvelope envelope) envelope := by
  iterate 8 refine (decodes_u64 _).field ?_
  refine (decodes_flag _).field ?_
  refine (decodes_u8 _).field ?_
  refine (decodes_u16 _).field ?_
  refine (decodes_u32 _).field ?_
  iterate 6 refine (decodes_u64 _).field ?_
  refine (decodes_enum _).field ?_
  refine (decodes_u8 _).field ?_
  refine (decodes_reason _).field ?_
  refine (decodes_u32 _).field ?_
  iterate 3 refine (decodes_flag _).field ?_
  refine (decodes_u8 _).field ?_
  refine .check (by simp) ?_
  refine (decodes_planWhen h).field ?_
  refine (decodes_bucket _).field ?_
  iterate 12 refine (decodes_u64 _).field ?_
  refine (decodes_text h.annotation).field ?_
  exact .done (by simp)

theorem decodes_attempt {attempt : EnforcementAttempt}
    (h : attempt.detail.length ≤ kRecordTextHardLimit) :
    Decodes decodeAttempt (encodeAttempt attempt) attempt := by
  iterate 3 refine (decodes_u64 _).field ?_
  iterate 2 refine (decodes_enum _).field ?_
  refine (decodes_reason _).field ?_
  refine (decodes_u32 _).field ?_
  refine .check rfl ?_
  refine (decodes_fingerprint _).field ?_
  iterate 14 refine (decodes_u64 _).field ?_
  iterate 4 refine (decodes_flag _).field ?_
  iterate 2 refine (decodes_u64 _).field ?_
  refine .check (by simp) ?_
  refine (decodes_text h).field ?_
  exact .done (by simp)

theorem decodes_epochPayload (epoch : FabricEpoch) (boot : WorkerBootId) (reason : ReasonCode) :
    Decodes decodeEpochPayload (encodeEpochPayload epoch boot reason) (epoch, boot, reason) := by
  iterate 2 refine (decodes_u64 _).field ?_
  refine (decodes_reason _).field ?_
  refine (decodes_u16 _).field ?_
  refine (decodes_u32 _).field ?_
  exact .check rfl (.pure _)

end RoundTrip

end RateGovernor.Model.EnvelopeCodec
