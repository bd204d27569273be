import RateGovernor.Foundation.ExactReader
import RateGovernor.Model.EnvelopeCodec

namespace RateGovernor.Dynamics.Canonical

open Model.CheckedMath Model.Identity Model.Reason Model.Bucket Model.Entities Model.Envelope
open Model.RecordCodec Model.EnvelopeCodec Foundation.ByteCodec Foundation.ExactReader

section Texts

theorem code_ofCode (raw : UInt16) : (ReasonCode.ofCode raw).code = raw := by
  by_cases h : raw ∈ listedReasonCodes
  · rw [ReasonCode.ofCode, dif_pos h]
    exact code_find _ h
  · rw [ReasonCode.ofCode, dif_neg h, ReasonCode.code]

theorem exact_reason : Exact reason putReason := by
  refine .field exact_u16 fun code ↦ .pure ?_
  rw [putReason, code_ofCode, List.append_nil]

theorem exact_text : Exact getText putText := by
  refine .field exact_u32 fun length ↦ .check fun hshort ↦ ?_
  refine (consumes_raw _).mono fun text taken htext ↦ ?_
  obtain ⟨rfl, hlength⟩ := htext
  have hlimit : ¬kRecordTextHardLimit < taken.length := by
    rw [hlength, Nat.not_lt]
    exact of_decide_eq_true hshort
  have hput : putText taken = putU32 (UInt32.ofNat taken.length) ++ taken := by
    simp only [putText, if_neg hlimit, List.flatten_cons, List.flatten_nil, List.append_nil]
  rw [hput, hlength, UInt32.ofNat_toNat]

end Texts

section Authorities

theorem exact_provenance : Exact decodeProvenance encodeProvenance := by
  refine .field exact_enum fun source ↦ ?_
  refine .field exact_u8 fun pad8 ↦ ?_
  refine .field exact_u16 fun pad16 ↦ ?_
  refine .field exact_u32 fun pad32 ↦ ?_
  iterate 3 refine .field exact_u64 fun _ ↦ ?_
  refine .check fun hpads ↦ ?_
  simp only [Bool.and_eq_true, decide_eq_true_eq] at hpads
  obtain ⟨⟨rfl, rfl⟩, rfl⟩ := hpads
  exact .field exact_text fun _ ↦ .pure rfl

theorem exact_flow : Exact decodeFlow encodeFlow := by
  iterate 2 refine .field exact_u64 fun _ ↦ ?_
  refine .field exact_enum fun state ↦ ?_
  refine .field exact_u8 fun pad8 ↦ ?_
  refine .field exact_u16 fun pad16 ↦ ?_
  refine .field exact_u32 fun pad32 ↦ ?_
  refine .check fun hpads ↦ ?_
  simp only [Bool.and_eq_true, decide_eq_true_eq] at hpads
  obtain ⟨⟨rfl, rfl⟩, rfl⟩ := hpads
  exact .field exact_provenance fun _ ↦ .pure rfl

theorem exact_window : Exact decodeWindow encodeWindow := by
  iterate 2 refine .field exact_u64 fun _ ↦ ?_
  exact .pure rfl

theorem exact_grant : Exact decodeGrant encodeGrant := by
  iterate 6 refine .field exact_u64 fun _ ↦ ?_
  refine .field exact_window fun window ↦ ?_
  refine .field exact_enum fun state ↦ ?_
  refine .field exact_u8 fun pad8 ↦ ?_
  refine .field exact_u16 fun pad16 ↦ ?_
  refine .field exact_u32 fun pad32 ↦ ?_
  refine .check fun hpads ↦ ?_
  simp only [Bool.and_eq_true, decide_eq_true_eq] at hpads
  obtain ⟨⟨rfl, rfl⟩, rfl⟩ := hpads
  exact .field exact_provenance fun _ ↦ .pure rfl

theorem exact_reservation : Exact decodeReservation encodeReservation := by
  iterate 6 refine .field exact_u64 fun _ ↦ ?_
  refine .field exact_window fun window ↦ ?_
  refine .field exact_enum fun state ↦ ?_
  refine .field exact_u8 fun pad8 ↦ ?_
  refine .field exact_u16 fun pad16 ↦ ?_
  refine .field exact_u32 fun pad32 ↦ ?_
  refine .check fun hpads ↦ ?_
  simp only [Bool.and_eq_true, decide_eq_true_eq] at hpads
  obtain ⟨⟨rfl, rfl⟩, rfl⟩ := hpads
  exact .field exact_provenance fun _ ↦ .pure rfl

theorem exact_resource : Exact decodeResource encodeResource := by
  iterate 4 refine .field exact_u64 fun _ ↦ ?_
  refine .field exact_enum fun state ↦ ?_
  refine .field exact_u8 fun pad8 ↦ ?_
  refine .field exact_u16 fun pad16 ↦ ?_
  refine .field exact_u32 fun pad32 ↦ ?_
  refine .check fun hpads ↦ ?_
  simp only [Bool.and_eq_true, decide_eq_true_eq] at hpads
  obtain ⟨⟨rfl, rfl⟩, rfl⟩ := hpads
  exact .field exact_provenance fun _ ↦ .pure rfl

theorem exact_backend : Exact decodeBackend encodeBackend := by
  iterate 2 refine .field exact_u64 fun _ ↦ ?_
  refine .field exact_enum fun kind ↦ ?_
  refine .field exact_enum fun verification ↦ ?_
  refine .field exact_u16 fun pad16 ↦ ?_
  refine .field exact_u32 fun capabilities ↦ ?_
  iterate 2 refine .field exact_u64 fun _ ↦ ?_
  refine .check fun hpad ↦ ?_
  obtain rfl := of_decide_eq_true hpad
  refine .field exact_text fun label ↦ ?_
  exact .field exact_provenance fun _ ↦ .pure rfl

/-- The fields of a policy before the first of its two groups of reserved bytes. -/
def policyHead (policy : Policy) : Bytes :=
  [putU64 policy.id.value, putU64 policy.generation.value, putU64 policy.floorUps,
    putU64 policy.targetUps, putU64 policy.ceilingUps, putU64 policy.burstTokens,
    putEnum policy.refill].flatten

def policyTail (policy : Policy) : Bytes :=
  [putU64 policy.graceNs, putU64 policy.hysteresis.reduceBelowUps,
    putU64 policy.hysteresis.recoverAtUps, putU64 policy.hysteresis.cooldownNs,
    encodeWindow policy.window, putEnum policy.state, putU8 0, putU16 0, putU32 0,
    encodeProvenance policy.provenance].flatten

theorem policyHead_length (policy : Policy) : (policyHead policy).length = 49 := by
  simp only [policyHead, List.flatten_cons, List.flatten_nil, List.length_append, putU64_length,
    putEnum_length, List.length_nil]

/-- What a policy is read from may hold anything in the first group of reserved bytes. -/
theorem consumes_policy : Consumes decodePolicy fun policy taken ↦
    ∃ reserved, reserved.length = 7 ∧
      taken = policyHead policy ++ (reserved ++ policyTail policy) := by
  iterate 6 refine .field exact_u64 fun _ ↦ ?_
  refine .field exact_enum fun refill ↦ ?_
  refine .field exact_u8 fun first8 ↦ ?_
  refine .field exact_u16 fun first16 ↦ ?_
  refine .field exact_u32 fun first32 ↦ ?_
  iterate 4 refine .field exact_u64 fun _ ↦ ?_
  refine .field exact_window fun window ↦ ?_
  refine .field exact_enum fun state ↦ ?_
  refine .field exact_u8 fun pad8 ↦ ?_
  refine .field exact_u16 fun pad16 ↦ ?_
  refine .field exact_u32 fun pad32 ↦ ?_
  refine .check fun hpads ↦ ?_
  simp only [Bool.and_eq_true, decide_eq_true_eq] at hpads
  obtain ⟨⟨rfl, rfl⟩, rfl⟩ := hpads
  refine .field exact_provenance fun provenance ↦ .pure ?_
  exact ⟨putU8 first8 ++ (putU16 first16 ++ putU32 first32), rfl, rfl⟩

theorem encodePolicy_eq (policy : Policy) :
    encodePolicy policy = policyHead policy ++ (List.replicate 7 0 ++ policyTail policy) := rfl

end Authorities

section Envelopes

theorem exact_fingerprint : Exact decodeFingerprint encodeFingerprint := by
  iterate 8 refine .field exact_u64 fun _ ↦ ?_
  refine .field exact_u8 fun hasReservation ↦ ?_
  refine .field exact_u8 fun pad8 ↦ ?_
  refine .field exact_u16 fun pad16 ↦ ?_
  refine .field exact_u32 fun pad32 ↦ ?_
  iterate 8 refine .field exact_u64 fun _ ↦ ?_
  refine .check fun hchecked ↦ ?_
  simp only [Bool.and_eq_true, decide_eq_true_eq] at hchecked
  obtain ⟨⟨⟨rfl, rfl⟩, rfl⟩, hflag⟩ := hchecked
  rw [← putBool_of_le_one hflag]
  iterate 18 refine .field exact_u64 fun _ ↦ ?_
  exact .pure rfl

theorem exact_bucket : Exact decodeBucket encodeBucket := by
  iterate 5 refine .field exact_u64 fun _ ↦ ?_
  refine .field exact_u8 fun initialized ↦ ?_
  refine .field exact_u8 fun pad8 ↦ ?_
  refine .field exact_u16 fun pad16 ↦ ?_
  refine .field exact_u32 fun pad32 ↦ ?_
  refine .check fun hchecked ↦ ?_
  simp only [Bool.and_eq_true, decide_eq_true_eq] at hchecked
  obtain ⟨⟨⟨rfl, rfl⟩, rfl⟩, hflag⟩ := hchecked
  rw [← putBool_of_le_one hflag]
  exact .pure rfl

theorem exact_plan : Exact decodePlan encodePlan := by
  refine .field exact_fingerprint fun fingerprint ↦ ?_
  refine .field exact_enum fun limitingAuthority ↦ ?_
  refine .field exact_u8 fun ceilingClamped ↦ ?_
  refine .field exact_u8 fun targetClamped ↦ ?_
  refine .field exact_u8 fun burstClamped ↦ ?_
  refine .field exact_enum fun refill ↦ ?_
  refine .field exact_u8 fun pad8 ↦ ?_
  refine .field exact_u16 fun pad16 ↦ ?_
  refine .field exact_u32 fun pad32 ↦ ?_
  iterate 4 refine .field exact_u64 fun _ ↦ ?_
  refine .check fun hchecked ↦ ?_
  simp only [Bool.and_eq_true, decide_eq_true_eq] at hchecked
  obtain ⟨⟨⟨⟨⟨rfl, rfl⟩, rfl⟩, hceiling⟩, htarget⟩, hburst⟩ := hchecked
  rw [← putBool_of_le_one hceiling, ← putBool_of_le_one htarget, ← putBool_of_le_one hburst]
  exact .field exact_text fun _ ↦ .pure rfl

/-- The fields of an envelope before the reserved byte after its reservation flag. -/
def envelopeHead (envelope : RateEnvelope) : Bytes :=
  [putU64 envelope.id.value, putU64 envelope.generation.value, putU64 envelope.flow.value,
    putU64 envelope.flowGeneration.value, putU64 envelope.resource.value,
    putU64 envelope.resourceGeneration.value, putU64 envelope.grant.value,
    putU64 envelope.grantGeneration.value, putBool envelope.hasReservation].flatten

def envelopeTail (envelope : RateEnvelope) : Bytes :=
  [putU64 envelope.reservation.value, putU64 envelope.reservationGeneration.value,
    putU64 envelope.policy.value, putU64 envelope.policyGeneration.value,
    putU64 envelope.backend.value, putU64 envelope.backendGeneration.value,
    putEnum envelope.state, putU8 0, putReason envelope.reason, putU32 0,
    putBool envelope.hasPlan, putBool envelope.effectVerified,
    putBool envelope.requiresRevalidation, putU8 0,
    if envelope.hasPlan then encodePlan envelope.plan else [],
    encodeBucket envelope.bucket, putU64 envelope.appliedRateUps,
    putU64 envelope.appliedBurstTokens, putU64 envelope.appliedEpoch.value,
    putU64 envelope.appliedBoot.value, putU64 envelope.cooldownUntilNs,
    putU64 envelope.revalidateByNs, putU64 envelope.createdNs, putU64 envelope.updatedNs,
    putU64 envelope.planRevision, putU64 envelope.attemptsIssued,
    putU64 envelope.completionsApplied, putU64 envelope.completionsRejected,
    putText envelope.annotation].flatten

theorem envelopeHead_length (envelope : RateEnvelope) : (envelopeHead envelope).length = 65 := by
  simp only [envelopeHead, List.flatten_cons, List.flatten_nil, List.length_append, putU64_length,
    putBool_length, List.length_nil]

theorem exact_planWhen (present : Bool) :
    Exact (decodePlanWhen present) fun plan ↦ if present then encodePlan plan else [] := by
  cases present with
  | true => exact exact_plan
  | false => exact .pure rfl

/-- Of the reserved bytes after the reservation flag only the middle two are checked. -/
theorem consumes_envelope : Consumes decodeEnvelope fun envelope taken ↦
    ∃ reserved wide, reserved.length = 1 ∧ wide.length = 4 ∧
      taken = envelopeHead envelope ++ (reserved ++ (putU16 0 ++ (wide ++ envelopeTail envelope))) := by
  iterate 8 refine .field exact_u64 fun _ ↦ ?_
  refine .field exact_u8 fun hasReservation ↦ ?_
  refine .field exact_u8 fun first8 ↦ ?_
  refine .field exact_u16 fun pad16 ↦ ?_
  refine .field exact_u32 fun first32 ↦ ?_
  iterate 6 refine .field exact_u64 fun _ ↦ ?_
  refine .field exact_enum fun state ↦ ?_
  refine .field exact_u8 fun pad8 ↦ ?_
  refine .field exact_reason fun reason ↦ ?_
  refine .field exact_u32 fun pad32 ↦ ?_
  refine .field exact_u8 fun hasPlan ↦ ?_
  refine .field exact_u8 fun effectVerified ↦ ?_
  refine .field exact_u8 fun requiresRevalidation ↦ ?_
  refine .field exact_u8 fun pad8b ↦ ?_
  refine .check fun hchecked ↦ ?_
  simp only [Bool.and_eq_true, decide_eq_true_eq] at hchecked
  obtain ⟨⟨⟨⟨⟨⟨⟨rfl, rfl⟩, rfl⟩, rfl⟩, hreservation⟩, hplan⟩, hverified⟩, hquestioned⟩ := hchecked
  rw [← putBool_of_le_one hreservation, ← putBool_of_le_one hplan, ← putBool_of_le_one hverified,
    ← putBool_of_le_one hquestioned]
  refine .field (exact_planWhen _) fun plan ↦ ?_
  refine .field exact_bucket fun bucket ↦ ?_
  iterate 12 refine .field exact_u64 fun _ ↦ ?_
  refine .field exact_text fun annotation ↦ .pure ?_
  exact ⟨putU8 first8, putU32 first32, rfl, rfl, rfl⟩

theorem encodeEnvelope_eq (envelope : RateEnvelope) :
    encodeEnvelope envelope = envelopeHead envelope ++
      (List.replicate 1 0 ++ (putU16 0 ++ (List.replicate 4 0 ++ envelopeTail envelope))) := rfl

theorem exact_attempt : Exact decodeAttempt encodeAttempt := by
  iterate 3 refine .field exact_u64 fun _ ↦ ?_
  refine .field exact_enum fun kind ↦ ?_
  refine .field exact_enum fun state ↦ ?_
  refine .field exact_reason fun reason ↦ ?_
  refine .field exact_u32 fun pad32 ↦ ?_
  refine .check fun hpad ↦ ?_
  obtain rfl := of_decide_eq_true hpad
  refine .field exact_fingerprint fun fingerprint ↦ ?_
  iterate 14 refine .field exact_u64 fun _ ↦ ?_
  refine .field exact_u8 fun acknowledged ↦ ?_
  refine .field exact_u8 fun verified ↦ ?_
  refine .field exact_u8 fun effectConfirmed ↦ ?_
  refine .field exact_u8 fun compensating ↦ ?_
  iterate 2 refine .field exact_u64 fun _ ↦ ?_
  refine .check fun hchecked ↦ ?_
  simp only [Bool.and_eq_true, decide_eq_true_eq] at hchecked
  obtain ⟨⟨⟨hacknowledged, hverified⟩, hconfirmed⟩, hcompensating⟩ := hchecked
  rw [← putBool_of_le_one hacknowledged, ← putBool_of_le_one hverified,
    ← putBool_of_le_one hconfirmed, ← putBool_of_le_one hcompensating]
  exact .field exact_text fun _ ↦ .pure rfl

theorem exact_epochPayload : Exact decodeEpochPayload
    fun payload ↦ encodeEpochPayload payload.1 payload.2.1 payload.2.2 := by
  iterate 2 refine .field exact_u64 fun _ ↦ ?_
  refine .field exact_reason fun reason ↦ ?_
  refine .field exact_u16 fun pad16 ↦ ?_
  refine .field exact_u32 fun pad32 ↦ ?_
  refine .check fun hpads ↦ ?_
  simp only [Bool.and_eq_true, decide_eq_true_eq] at hpads
  obtain ⟨rfl, rfl⟩ := hpads
  exact .pure rfl

theorem exact_bucketPayload : Exact decodeBucketPayload
    fun patch ↦ encodeBucketPayload patch.envelope := by
  iterate 2 refine .field exact_u64 fun _ ↦ ?_
  refine .field exact_bucket fun bucket ↦ ?_
  iterate 5 refine .field exact_u64 fun _ ↦ ?_
  exact .pure rfl

end Envelopes

end RateGovernor.Dynamics.Canonical
