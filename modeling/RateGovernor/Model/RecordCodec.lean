import RateGovernor.Model.Envelope

namespace RateGovernor.Model.RecordCodec

open CheckedMath Identity Reason Bucket Entities Envelope Foundation.ByteCodec

def kRecordTextHardLimit : ℕ := 4096

/-- Longer texts are cut to the hard limit before they are written. -/
def putText (text : Text) : Bytes :=
  let kept := if kRecordTextHardLimit < text.length then text.take kRecordTextHardLimit else text
  [putU32 (UInt32.ofNat kept.length), kept].flatten

def getText : Reader Text := do
  let length ← u32
  check (length.toNat ≤ kRecordTextHardLimit)
  raw length.toNat

theorem decodes_text {text : Text} (h : text.length ≤ kRecordTextHardLimit) :
    Decodes getText (putText text) text := by
  have hlt : text.length < UInt32.size := by
    simp only [kRecordTextHardLimit] at h
    simp only [UInt32.size]
    omega
  have hlen : (UInt32.ofNat text.length).toNat = text.length := UInt32.toNat_ofNat_of_lt' hlt
  simp only [putText, Nat.not_lt.2 h, if_false]
  refine (decodes_u32 _).field (.check ?_ ?_)
  · simpa only [hlen, decide_eq_true_eq] using h
  · rw [hlen]
    exact (decodes_raw text).only

section Authorities

def encodeProvenance (provenance : Provenance) : Bytes :=
  [putEnum provenance.source, putU8 0, putU16 0, putU32 0, putU64 provenance.epoch.value,
    putU64 provenance.boot.value, putU64 provenance.sequence, putText provenance.detail].flatten

def decodeProvenance : Reader Provenance := do
  let source ← enum
  let pad8 ← u8
  let pad16 ← u16
  let pad32 ← u32
  let epoch ← u64
  let boot ← u64
  let sequence ← u64
  check (pad8 = 0 && pad16 = 0 && pad32 = 0)
  let detail ← getText
  return { source, epoch := ⟨epoch⟩, boot := ⟨boot⟩, sequence, detail }

def encodeFlow (flow : Flow) : Bytes :=
  [putU64 flow.id.value, putU64 flow.generation.value, putEnum flow.state, putU8 0, putU16 0,
    putU32 0, encodeProvenance flow.provenance].flatten

def decodeFlow : Reader Flow := do
  let id ← u64
  let generation ← u64
  let state ← enum
  let pad8 ← u8
  let pad16 ← u16
  let pad32 ← u32
  check (pad8 = 0 && pad16 = 0 && pad32 = 0)
  let provenance ← decodeProvenance
  return { id := ⟨id⟩, generation := ⟨generation⟩, state, provenance }

def encodeWindow (window : ValidityWindow) : Bytes :=
  [putU64 window.notBeforeNs, putU64 window.invalidAfterNs].flatten

def decodeWindow : Reader ValidityWindow := do
  let notBeforeNs ← u64
  let invalidAfterNs ← u64
  return { notBeforeNs, invalidAfterNs }

def encodeGrant (grant : Grant) : Bytes :=
  [putU64 grant.id.value, putU64 grant.flow.value, putU64 grant.resource.value,
    putU64 grant.generation.value, putU64 grant.ceilingUps, putU64 grant.burstTokens,
    encodeWindow grant.window, putEnum grant.state, putU8 0, putU16 0, putU32 0,
    encodeProvenance grant.provenance].flatten

def decodeGrant : Reader Grant := do
  let id ← u64
  let flow ← u64
  let resource ← u64
  let generation ← u64
  let ceilingUps ← u64
  let burstTokens ← u64
  let window ← decodeWindow
  let state ← enum
  let pad8 ← u8
  let pad16 ← u16
  let pad32 ← u32
  check (pad8 = 0 && pad16 = 0 && pad32 = 0)
  let provenance ← decodeProvenance
  return { id := ⟨id⟩, flow := ⟨flow⟩, resource := ⟨resource⟩, generation := ⟨generation⟩,
           ceilingUps, burstTokens, window, state, provenance }

def encodeReservation (reservation : Reservation) : Bytes :=
  [putU64 reservation.id.value, putU64 reservation.flow.value, putU64 reservation.resource.value,
    putU64 reservation.generation.value, putU64 reservation.ceilingUps,
    putU64 reservation.burstTokens, encodeWindow reservation.window, putEnum reservation.state,
    putU8 0, putU16 0, putU32 0, encodeProvenance reservation.provenance].flatten

def decodeReservation : Reader Reservation := do
  let id ← u64
  let flow ← u64
  let resource ← u64
  let generation ← u64
  let ceilingUps ← u64
  let burstTokens ← u64
  let window ← decodeWindow
  let state ← enum
  let pad8 ← u8
  let pad16 ← u16
  let pad32 ← u32
  check (pad8 = 0 && pad16 = 0 && pad32 = 0)
  let provenance ← decodeProvenance
  return { id := ⟨id⟩, flow := ⟨flow⟩, resource := ⟨resource⟩, generation := ⟨generation⟩,
           ceilingUps, burstTokens, window, state, provenance }

def encodePolicy (policy : Policy) : Bytes :=
  [putU64 policy.id.value, putU64 policy.generation.value, putU64 policy.floorUps,
    putU64 policy.targetUps, putU64 policy.ceilingUps, putU64 policy.burstTokens,
    putEnum policy.refill, putU8 0, putU16 0, putU32 0, putU64 policy.graceNs,
    putU64 policy.hysteresis.reduceBelowUps, putU64 policy.hysteresis.recoverAtUps,
    putU64 policy.hysteresis.cooldownNs, encodeWindow policy.window, putEnum policy.state,
    putU8 0, putU16 0, putU32 0, encodeProvenance policy.provenance].flatten

/-- The second group of pad bytes overwrites the first before either is checked. -/
def decodePolicy : Reader Policy := do
  let id ← u64
  let generation ← u64
  let floorUps ← u64
  let targetUps ← u64
  let ceilingUps ← u64
  let burstTokens ← u64
  let refill ← enum
  let _ ← u8
  let _ ← u16
  let _ ← u32
  let graceNs ← u64
  let reduceBelowUps ← u64
  let recoverAtUps ← u64
  let cooldownNs ← u64
  let window ← decodeWindow
  let state ← enum
  let pad8 ← u8
  let pad16 ← u16
  let pad32 ← u32
  check (pad8 = 0 && pad16 = 0 && pad32 = 0)
  let provenance ← decodeProvenance
  return { id := ⟨id⟩, generation := ⟨generation⟩, floorUps, targetUps, ceilingUps, burstTokens,
           refill, graceNs, hysteresis := { reduceBelowUps, recoverAtUps, cooldownNs }, window,
           state, provenance }

def encodeResource (resource : Resource) : Bytes :=
  [putU64 resource.id.value, putU64 resource.generation.value, putU64 resource.capacityUps,
    putU64 resource.capacityBurstTokens, putEnum resource.state, putU8 0, putU16 0, putU32 0,
    encodeProvenance resource.provenance].flatten

def decodeResource : Reader Resource := do
  let id ← u64
  let generation ← u64
  let capacityUps ← u64
  let capacityBurstTokens ← u64
  let state ← enum
  let pad8 ← u8
  let pad16 ← u16
  let pad32 ← u32
  check (pad8 = 0 && pad16 = 0 && pad32 = 0)
  let provenance ← decodeProvenance
  return { id := ⟨id⟩, generation := ⟨generation⟩, capacityUps, capacityBurstTokens, state,
           provenance }

def encodeBackend (backend : BackendDescriptor) : Bytes :=
  [putU64 backend.id.value, putU64 backend.generation.value, putEnum backend.kind,
    putEnum backend.verification, putU16 0, putU32 backend.capabilities,
    putU64 backend.maxRateUps, putU64 backend.maxBurstTokens, putText backend.label,
    encodeProvenance backend.provenance].flatten

def decodeBackend : Reader BackendDescriptor := do
  let id ← u64
  let generation ← u64
  let kind ← enum
  let verification ← enum
  let pad16 ← u16
  let capabilities ← u32
  let maxRateUps ← u64
  let maxBurstTokens ← u64
  check (pad16 = 0)
  let label ← getText
  let provenance ← decodeProvenance
  return { id := ⟨id⟩, generation := ⟨generation⟩, kind, capabilities, verification, maxRateUps,
           maxBurstTokens, label, provenance }

end Authorities

section RoundTrip

theorem decodes_provenance {provenance : Provenance}
    (h : provenance.detail.length ≤ kRecordTextHardLimit) :
    Decodes decodeProvenance (encodeProvenance provenance) provenance := by
  refine (decodes_enum _).field ?_
  refine (decodes_u8 _).field ?_
  refine (decodes_u16 _).field ?_
  refine (decodes_u32 _).field ?_
  iterate 3 refine (decodes_u64 _).field ?_
  refine .check rfl ?_
  exact (decodes_text h).field (.pure _)

theorem decodes_flow {flow : Flow} (h : flow.provenance.detail.length ≤ kRecordTextHardLimit) :
    Decodes decodeFlow (encodeFlow flow) flow := by
  iterate 2 refine (decodes_u64 _).field ?_
  refine (decodes_enum _).field ?_
  refine (decodes_u8 _).field ?_
  refine (decodes_u16 _).field ?_
  refine (decodes_u32 _).field ?_
  refine .check rfl ?_
  exact (decodes_provenance h).field (.pure _)

theorem decodes_window (window : ValidityWindow) :
    Decodes decodeWindow (encodeWindow window) window := by
  iterate 2 refine (decodes_u64 _).field ?_
  exact .pure _

theorem decodes_grant {grant : Grant} (h : grant.provenance.detail.length ≤ kRecordTextHardLimit) :
    Decodes decodeGrant (encodeGrant grant) grant := by
  iterate 6 refine (decodes_u64 _).field ?_
  refine (decodes_window _).field ?_
  refine (decodes_enum _).field ?_
  refine (decodes_u8 _).field ?_
  refine (decodes_u16 _).field ?_
  refine (decodes_u32 _).field ?_
  refine .check rfl ?_
  exact (decodes_provenance h).field (.pure _)

theorem decodes_reservation {reservation : Reservation}
    (h : reservation.provenance.detail.length ≤ kRecordTextHardLimit) :
    Decodes decodeReservation (encodeReservation reservation) reservation := by
  iterate 6 refine (decodes_u64 _).field ?_
  refine (decodes_window _).field ?_
  refine (decodes_enum _).field ?_
  refine (decodes_u8 _).field ?_
  refine (decodes_u16 _).field ?_
  refine (decodes_u32 _).field ?_
  refine .check rfl ?_
  exact (decodes_provenance h).field (.pure _)

theorem decodes_policy {policy : Policy}
    (h : policy.provenance.detail.length ≤ kRecordTextHardLimit) :
    Decodes decodePolicy (encodePolicy policy) policy := by
  iterate 6 refine (decodes_u64 _).field ?_
  refine (decodes_enum _).field ?_
  refine (decodes_u8 _).field ?_
  refine (decodes_u16 _).field ?_
  refine (decodes_u32 _).field ?_
  iterate 4 refine (decodes_u64 _).field ?_
  refine (decodes_window _).field ?_
  refine (decodes_enum _).field ?_
  refine (decodes_u8 _).field ?_
  refine (decodes_u16 _).field ?_
  refine (decodes_u32 _).field ?_
  refine .check rfl ?_
  exact (decodes_provenance h).field (.pure _)

theorem decodes_resource {resource : Resource}
    (h : resource.provenance.detail.length ≤ kRecordTextHardLimit) :
    Decodes decodeResource (encodeResource resource) resource := by
  iterate 4 refine (decodes_u64 _).field ?_
  refine (decodes_enum _).field ?_
  refine (decodes_u8 _).field ?_
  refine (decodes_u16 _).field ?_
  refine (decodes_u32 _).field ?_
  refine .check rfl ?_
  exact (decodes_provenance h).field (.pure _)

theorem decodes_backend {backend : BackendDescriptor}
    (hlabel : backend.label.length ≤ kRecordTextHardLimit)
    (h : backend.provenance.detail.length ≤ kRecordTextHardLimit) :
    Decodes decodeBackend (encodeBackend backend) backend := by
  iterate 2 refine (decodes_u64 _).field ?_
  refine (decodes_enum _).field ?_
  refine (decodes_enum _).field ?_
  refine (decodes_u16 _).field ?_
  refine (decodes_u32 _).field ?_
  iterate 2 refine (decodes_u64 _).field ?_
  refine .check rfl ?_
  refine (decodes_text hlabel).field ?_
  exact (decodes_provenance h).field (.pure _)

end RoundTrip

end RateGovernor.Model.RecordCodec
