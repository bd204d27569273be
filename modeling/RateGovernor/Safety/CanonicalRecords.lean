import RateGovernor.Dynamics.Canonical

namespace RateGovernor.Safety.CanonicalRecords

open Model.Identity Model.Reason Model.Bucket Model.Entities Model.Envelope Model.RecordCodec
open Model.EnvelopeCodec Foundation.ByteCodec Foundation.ExactReader Dynamics.Canonical

inductive Codec
  | flow | grant | reservation | policy | resource | backend | fingerprint | plan | bucket
  | envelope | attempt | epochPayload | bucketPayload

/-- What the codec reads, where a bucket payload is read into a default envelope. -/
def Codec.Value : Codec → Type
  | flow => Flow
  | grant => Grant
  | reservation => Reservation
  | policy => Policy
  | resource => Resource
  | backend => BackendDescriptor
  | fingerprint => PlanFingerprint
  | plan => EffectivePlan
  | bucket => TokenBucket
  | envelope => RateEnvelope
  | attempt => EnforcementAttempt
  | epochPayload => FabricEpoch × WorkerBootId × ReasonCode
  | bucketPayload => BucketPatch

def Codec.decode : (codec : Codec) → Reader codec.Value
  | flow => decodeFlow
  | grant => decodeGrant
  | reservation => decodeReservation
  | policy => decodePolicy
  | resource => decodeResource
  | backend => decodeBackend
  | fingerprint => decodeFingerprint
  | plan => decodePlan
  | bucket => decodeBucket
  | envelope => decodeEnvelope
  | attempt => decodeAttempt
  | epochPayload => decodeEpochPayload
  | bucketPayload => decodeBucketPayload

def Codec.encode : (codec : Codec) → codec.Value → Bytes
  | flow => encodeFlow
  | grant => encodeGrant
  | reservation => encodeReservation
  | policy => encodePolicy
  | resource => encodeResource
  | backend => encodeBackend
  | fingerprint => encodeFingerprint
  | plan => encodePlan
  | bucket => encodeBucket
  | envelope => encodeEnvelope
  | attempt => encodeAttempt
  | epochPayload => fun payload ↦ encodeEpochPayload payload.1 payload.2.1 payload.2.2
  | bucketPayload => fun patch ↦ encodeBucketPayload patch.envelope

/-- The reserved bytes a decoder reads over before it checks them: where they start, how many. -/
def Codec.overwritten : Codec → List (ℕ × ℕ)
  | policy => [(49, 7)]
  | envelope => [(65, 1), (68, 4)]
  | _ => []

def Codec.ReservedClear (codec : Codec) (bytes : Bytes) : Prop :=
  ∀ place ∈ codec.overwritten, (bytes.drop place.1).take place.2 = List.replicate place.2 0

section Slices

variable {head slice bytes : Bytes} {start count : ℕ}

theorem take_drop_slice (rest : Bytes) (hhead : head.length = start)
    (hslice : slice.length = count) :
    ((head ++ (slice ++ rest)).drop start).take count = slice := by
  rw [← hhead, List.drop_left, ← hslice, List.take_left]

theorem encode_eq_iff_of_exact {α : Type} {reader : Reader α} {encode : α → Bytes} {value : α}
    {left : Bytes} (h : Exact reader encode) (hread : reader bytes = some (value, left)) :
    encode value ++ left = bytes ↔ ∀ place ∈ ([] : List (ℕ × ℕ)),
      (bytes.drop place.1).take place.2 = List.replicate place.2 0 := by
  constructor
  · intro _ place hplace
    cases hplace
  · exact fun _ ↦ (h.bytes hread).symm

end Slices

theorem encodePolicy_eq_iff {bytes left : Bytes} {policy : Policy}
    (h : decodePolicy bytes = some (policy, left)) :
    encodePolicy policy ++ left = bytes ↔ Codec.policy.ReservedClear bytes := by
  obtain ⟨taken, rfl, reserved, hlength, rfl⟩ := consumes_policy _ _ _ h
  have hreserved : Codec.policy.ReservedClear (policyHead policy ++ (reserved ++ policyTail policy) ++
      left) ↔ reserved = List.replicate 7 0 := by
    simp only [Codec.ReservedClear, Codec.overwritten, List.forall_mem_singleton,
      List.append_assoc]
    rw [take_drop_slice _ (policyHead_length policy) hlength]
  rw [hreserved, encodePolicy_eq, List.append_left_inj, List.append_right_inj,
    List.append_left_inj]
  exact eq_comm

theorem encodeEnvelope_eq_iff {bytes left : Bytes} {envelope : RateEnvelope}
    (h : decodeEnvelope bytes = some (envelope, left)) :
    encodeEnvelope envelope ++ left = bytes ↔ Codec.envelope.ReservedClear bytes := by
  obtain ⟨taken, rfl, reserved, wide, hlength, hwide, rfl⟩ := consumes_envelope _ _ _ h
  have hhead : (envelopeHead envelope ++ (reserved ++ putU16 0)).length = 68 := by
    rw [List.length_append, List.length_append, envelopeHead_length, hlength, putU16_length]
  have hfirst := take_drop_slice (putU16 0 ++ (wide ++ (envelopeTail envelope ++ left)))
    (envelopeHead_length envelope) hlength
  have hsecond := take_drop_slice (envelopeTail envelope ++ left) hhead hwide
  simp only [List.append_assoc] at hfirst hsecond
  have hclear : Codec.envelope.ReservedClear (envelopeHead envelope ++
      (reserved ++ (putU16 0 ++ (wide ++ envelopeTail envelope))) ++ left) ↔
        reserved = List.replicate 1 0 ∧ wide = List.replicate 4 0 := by
    simp only [Codec.ReservedClear, Codec.overwritten, List.forall_mem_cons, List.append_assoc,
      List.not_mem_nil, false_implies, implies_true, and_true]
    rw [hfirst, hsecond]
  rw [hclear, encodeEnvelope_eq, List.append_left_inj, List.append_right_inj]
  constructor
  · intro heq
    obtain ⟨hreserved, hrest⟩ := List.append_inj heq hlength.symm
    rw [List.append_right_inj, List.append_left_inj] at hrest
    exact ⟨hreserved.symm, hrest.symm⟩
  · rintro ⟨rfl, rfl⟩
    rfl

/-- A decoder accepts only the encoding of what it returns, but for the bytes it overwrites. -/
theorem canonical_iff (codec : Codec) {bytes left : Bytes} {value : codec.Value}
    (h : codec.decode bytes = some (value, left)) :
    codec.encode value ++ left = bytes ↔ codec.ReservedClear bytes := by
  cases codec with
  | flow => exact encode_eq_iff_of_exact exact_flow h
  | grant => exact encode_eq_iff_of_exact exact_grant h
  | reservation => exact encode_eq_iff_of_exact exact_reservation h
  | policy => exact encodePolicy_eq_iff h
  | resource => exact encode_eq_iff_of_exact exact_resource h
  | backend => exact encode_eq_iff_of_exact exact_backend h
  | fingerprint => exact encode_eq_iff_of_exact exact_fingerprint h
  | plan => exact encode_eq_iff_of_exact exact_plan h
  | bucket => exact encode_eq_iff_of_exact exact_bucket h
  | envelope => exact encodeEnvelope_eq_iff h
  | attempt => exact encode_eq_iff_of_exact exact_attempt h
  | epochPayload => exact encode_eq_iff_of_exact exact_epochPayload h
  | bucketPayload => exact encode_eq_iff_of_exact exact_bucketPayload h

/-- The record of a policy with the given bits in its first group of reserved bytes. -/
def markedPolicy (policy : Policy) (first8 : UInt8) (first16 : UInt16) (first32 : UInt32) : Bytes :=
  policyHead policy ++ ((putU8 first8 ++ (putU16 first16 ++ putU32 first32)) ++ policyTail policy)

theorem decodes_markedPolicy {policy : Policy}
    (h : policy.provenance.detail.length ≤ kRecordTextHardLimit)
    (first8 : UInt8) (first16 : UInt16) (first32 : UInt32) :
    Decodes decodePolicy (markedPolicy policy first8 first16 first32) policy := by
  iterate 6 refine (decodes_u64 _).bind ?_
  refine (decodes_enum _).bind ?_
  refine (decodes_u8 first8).bind ?_
  refine (decodes_u16 first16).bind ?_
  refine (decodes_u32 first32).bind ?_
  iterate 4 refine (decodes_u64 _).bind ?_
  refine (decodes_window _).bind ?_
  refine (decodes_enum _).bind ?_
  refine (decodes_u8 0).bind ?_
  refine (decodes_u16 0).bind ?_
  refine (decodes_u32 0).bind ?_
  refine .check rfl ?_
  exact (decodes_provenance h).bind (.pure _)

theorem decode_markedPolicy {policy : Policy}
    (h : policy.provenance.detail.length ≤ kRecordTextHardLimit)
    (first8 : UInt8) (first16 : UInt16) (first32 : UInt32) :
    Codec.policy.decode (markedPolicy policy first8 first16 first32) = some (policy, []) := by
  have hread : decodePolicy (markedPolicy policy first8 first16 first32 ++ []) = some (policy, []) :=
    decodes_markedPolicy h first8 first16 first32 []
  rwa [List.append_nil] at hread

def filledPolicy : Policy :=
  { id := ⟨3⟩, generation := ⟨2⟩, floorUps := 10, targetUps := 50, ceilingUps := 100,
    burstTokens := 20, refill := .continuousTokenBucket, graceNs := 5,
    hysteresis := { reduceBelowUps := 1, recoverAtUps := 2, cooldownNs := 3 },
    window := { notBeforeNs := 4, invalidAfterNs := 1000 }, state := .active,
    provenance :=
      { source := .operator, epoch := ⟨1⟩, boot := ⟨1⟩, sequence := 6, detail := [0x61, 0x62] } }

/-- A policy whose first reserved bytes are set reads back, and not as the bytes that were read. -/
theorem canonical_policy :
    Codec.policy.encode filledPolicy ++ [] = markedPolicy filledPolicy 1 2 3 ↔
      Codec.policy.ReservedClear (markedPolicy filledPolicy 1 2 3) :=
  canonical_iff .policy (decode_markedPolicy (by decide) 1 2 3)

theorem reserved_bytes_overwritten : ¬∀ (codec : Codec) (bytes left : Bytes) (value : codec.Value),
    codec.decode bytes = some (value, left) → codec.encode value ++ left = bytes := by
  intro hcanonical
  have hsame := hcanonical .policy _ _ {} (decode_markedPolicy (by decide) 1 0 0)
  have hdiffers : encodePolicy {} ++ [] ≠ markedPolicy {} 1 0 0 := by decide
  exact hdiffers hsame

end RateGovernor.Safety.CanonicalRecords
