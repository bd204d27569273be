import RateGovernor.Dynamics.Install

namespace RateGovernor.Dynamics.Records

open Model.CheckedMath Model.Identity Model.Reason Model.Entities Model.Envelope Model.RecordCodec
open Model.EnvelopeCodec Model.Journal Model.EngineState Model.Durability Foundation.ByteCodec
open Foundation.KeyedTable Install

section Texts

def keptText (text : Text) : Text := text.take kRecordTextHardLimit

theorem keptText_length (text : Text) : (keptText text).length ≤ kRecordTextHardLimit :=
  List.length_take_le _ _

theorem keptText_eq {text : Text} (h : text.length ≤ kRecordTextHardLimit) : keptText text = text :=
  List.take_of_length_le h

theorem putText_keptText (text : Text) : putText (keptText text) = putText text := by
  unfold putText
  simp only [if_neg (Nat.not_lt.2 (keptText_length text))]
  split
  · rfl
  · next h => rw [keptText_eq (Nat.not_lt.1 h)]

def keptProvenance (provenance : Provenance) : Provenance :=
  { provenance with detail := keptText provenance.detail }

theorem encodeProvenance_kept (provenance : Provenance) :
    encodeProvenance (keptProvenance provenance) = encodeProvenance provenance := by
  simp only [encodeProvenance, keptProvenance, putText_keptText]

end Texts

section Objects

/-! What is read back of each object. -/

def keptFlow (flow : Flow) : Flow := { flow with provenance := keptProvenance flow.provenance }

def keptGrant (grant : Grant) : Grant := { grant with provenance := keptProvenance grant.provenance }

def keptReservation (reservation : Reservation) : Reservation :=
  { reservation with provenance := keptProvenance reservation.provenance }

def keptPolicy (policy : Policy) : Policy :=
  { policy with provenance := keptProvenance policy.provenance }

def keptResource (resource : Resource) : Resource :=
  { resource with provenance := keptProvenance resource.provenance }

def keptBackend (backend : BackendDescriptor) : BackendDescriptor :=
  { backend with label := keptText backend.label, provenance := keptProvenance backend.provenance }

def keptPlan (plan : EffectivePlan) : EffectivePlan :=
  { plan with explanation := keptText plan.explanation }

def keptEnvelope (envelope : RateEnvelope) : RateEnvelope :=
  { envelope with
    annotation := keptText envelope.annotation
    plan := if envelope.hasPlan then keptPlan envelope.plan else {} }

def keptAttempt (attempt : EnforcementAttempt) : EnforcementAttempt :=
  { attempt with detail := keptText attempt.detail }

theorem decodePayload_of_decodes {α : Type} {reader : Reader α} {bytes : Bytes} {value : α}
    (h : Decodes reader bytes value) : decodePayload reader bytes = some value := by
  have hread := h []
  rw [List.append_nil] at hread
  rw [decodePayload, hread]
  rfl

theorem read_flow (flow : Flow) :
    decodePayload decodeFlow (encodeFlow flow) = some (keptFlow flow) := by
  have hencode : encodeFlow (keptFlow flow) = encodeFlow flow := by
    simp only [encodeFlow, keptFlow, encodeProvenance_kept]
  rw [← hencode]
  exact decodePayload_of_decodes (decodes_flow (keptText_length _))

theorem read_grant (grant : Grant) :
    decodePayload decodeGrant (encodeGrant grant) = some (keptGrant grant) := by
  have hencode : encodeGrant (keptGrant grant) = encodeGrant grant := by
    simp only [encodeGrant, keptGrant, encodeProvenance_kept]
  rw [← hencode]
  exact decodePayload_of_decodes (decodes_grant (keptText_length _))

theorem read_reservation (reservation : Reservation) :
    decodePayload decodeReservation (encodeReservation reservation) =
      some (keptReservation reservation) := by
  have hencode : encodeReservation (keptReservation reservation) =
      encodeReservation reservation := by
    simp only [encodeReservation, keptReservation, encodeProvenance_kept]
  rw [← hencode]
  exact decodePayload_of_decodes (decodes_reservation (keptText_length _))

theorem read_policy (policy : Policy) :
    decodePayload decodePolicy (encodePolicy policy) = some (keptPolicy policy) := by
  have hencode : encodePolicy (keptPolicy policy) = encodePolicy policy := by
    simp only [encodePolicy, keptPolicy, encodeProvenance_kept]
  rw [← hencode]
  exact decodePayload_of_decodes (decodes_policy (keptText_length _))

theorem read_resource (resource : Resource) :
    decodePayload decodeResource (encodeResource resource) = some (keptResource resource) := by
  have hencode : encodeResource (keptResource resource) = encodeResource resource := by
    simp only [encodeResource, keptResource, encodeProvenance_kept]
  rw [← hencode]
  exact decodePayload_of_decodes (decodes_resource (keptText_length _))

theorem read_backend (backend : BackendDescriptor) :
    decodePayload decodeBackend (encodeBackend backend) = some (keptBackend backend) := by
  have hencode : encodeBackend (keptBackend backend) = encodeBackend backend := by
    simp only [encodeBackend, keptBackend, encodeProvenance_kept, putText_keptText]
  rw [← hencode]
  exact decodePayload_of_decodes (decodes_backend (keptText_length _) (keptText_length _))

theorem storable_keptEnvelope (envelope : RateEnvelope) : Storable (keptEnvelope envelope) where
  annotation := keptText_length _
  explanation := by
    unfold keptEnvelope
    simp only
    split
    · exact keptText_length _
    · exact Nat.zero_le _
  planless := by
    intro hplan
    have hplan : envelope.hasPlan = false := hplan
    simp only [keptEnvelope, hplan, Bool.false_eq_true, if_false]

theorem read_envelope (envelope : RateEnvelope) :
    decodePayload decodeEnvelope (encodeEnvelope envelope) = some (keptEnvelope envelope) := by
  have hencode : encodeEnvelope (keptEnvelope envelope) = encodeEnvelope envelope := by
    cases hplan : envelope.hasPlan <;>
      simp only [encodeEnvelope, keptEnvelope, hplan, if_true, Bool.false_eq_true, if_false,
        encodePlan, keptPlan, putText_keptText]
  rw [← hencode]
  exact decodePayload_of_decodes (decodes_envelope (storable_keptEnvelope _))

theorem read_attempt (attempt : EnforcementAttempt) :
    decodePayload decodeAttempt (encodeAttempt attempt) = some (keptAttempt attempt) := by
  have hencode : encodeAttempt (keptAttempt attempt) = encodeAttempt attempt := by
    simp only [encodeAttempt, keptAttempt, putText_keptText]
  rw [← hencode]
  exact decodePayload_of_decodes (decodes_attempt (keptText_length _))

theorem read_epoch (epoch : FabricEpoch) (boot : WorkerBootId) (reason : ReasonCode) :
    decodePayload decodeEpochPayload (encodeEpochPayload epoch boot reason) =
      some (epoch, boot, reason) :=
  decodePayload_of_decodes (decodes_epochPayload epoch boot reason)

end Objects

section Replay

def Staged.kept : Staged → Staged
  | .flow flow => .flow (keptFlow flow)
  | .grant type grant => .grant type (keptGrant grant)
  | .reservation type reservation => .reservation type (keptReservation reservation)
  | .policy type policy => .policy type (keptPolicy policy)
  | .resource type resource => .resource type (keptResource resource)
  | .backend backend => .backend (keptBackend backend)
  | .epoch epoch reason => .epoch epoch reason
  | .envelope type envelope => .envelope type (keptEnvelope envelope)
  | .created attempt => .created (keptAttempt attempt)
  | .attempt type attempt => .attempt type (keptAttempt attempt)

/-- The object is journalled under a type that is replayed as an object of its kind. -/
def Staged.Replayable : Staged → Prop
  | .grant type _ => type = .grantPut ∨ type = .grantStateChange
  | .reservation type _ => type = .reservationPut ∨ type = .reservationStateChange
  | .policy type _ => type = .policyPut ∨ type = .policyStateChange
  | .resource type _ => type = .resourcePut ∨ type = .resourceStateChange
  | .envelope type _ => type = .envelopeOpened ∨ type = .envelopeAuthorized ∨
      type = .envelopeStateChange ∨ type = .envelopeEffectRecorded
  | .attempt type _ => type = .attemptDispatched ∨ type = .attemptAcknowledged ∨
      type = .attemptTerminated ∨ type = .attemptVerified
  | .flow _ | .backend _ | .epoch _ _ | .created _ => True

/-- What replaying the record of an object does with what is read of it. -/
def Replay.restore (config : EngineConfig) (replay : Replay) : Staged → Replay
  | .epoch epoch _ =>
    if epoch.valid && replay.tables.epoch.value < epoch.value then
      { replay with tables := { replay.tables with epoch } }
    else replay
  | .envelope _ envelope => replay.restoreEnvelope envelope
  | .created attempt | .attempt _ attempt => replay.restoreAttempt config attempt
  | staged => { replay with tables := replay.tables.install config staged }

theorem record_staged {config : EngineConfig} {replay : Replay} {boot : WorkerBootId}
    {staged : Staged} (h : Staged.Replayable staged) :
    replay.record config (staged.record boot).1 (staged.record boot).2 =
      Replay.restore config replay (Staged.kept staged) := by
  cases staged with
  | flow flow => simp only [Staged.record, Replay.record, read_flow]; rfl
  | grant type grant =>
    obtain rfl | rfl := h <;> simp only [Staged.record, Replay.record, read_grant] <;> rfl
  | reservation type reservation =>
    obtain rfl | rfl := h <;> simp only [Staged.record, Replay.record, read_reservation] <;> rfl
  | policy type policy =>
    obtain rfl | rfl := h <;> simp only [Staged.record, Replay.record, read_policy] <;> rfl
  | resource type resource =>
    obtain rfl | rfl := h <;> simp only [Staged.record, Replay.record, read_resource] <;> rfl
  | backend backend => simp only [Staged.record, Replay.record, read_backend]; rfl
  | epoch epoch reason => simp only [Staged.record, Replay.record, read_epoch]; rfl
  | envelope type envelope =>
    obtain rfl | rfl | rfl | rfl := h <;>
      simp only [Staged.record, Replay.record, read_envelope] <;> rfl
  | created attempt => simp only [Staged.record, Replay.record, read_attempt]; rfl
  | attempt type attempt =>
    obtain rfl | rfl | rfl | rfl := h <;>
      simp only [Staged.record, Replay.record, read_attempt] <;> rfl

def Staged.TextsFit : Staged → Prop
  | .flow flow => flow.provenance.detail.length ≤ kRecordTextHardLimit
  | .grant _ grant => grant.provenance.detail.length ≤ kRecordTextHardLimit
  | .reservation _ reservation => reservation.provenance.detail.length ≤ kRecordTextHardLimit
  | .policy _ policy => policy.provenance.detail.length ≤ kRecordTextHardLimit
  | .resource _ resource => resource.provenance.detail.length ≤ kRecordTextHardLimit
  | .backend backend => backend.label.length ≤ kRecordTextHardLimit ∧
      backend.provenance.detail.length ≤ kRecordTextHardLimit
  | .epoch _ _ => True
  | .envelope _ envelope => envelope.annotation.length ≤ kRecordTextHardLimit ∧
      envelope.plan.explanation.length ≤ kRecordTextHardLimit
  | .created attempt | .attempt _ attempt => attempt.detail.length ≤ kRecordTextHardLimit

theorem keptProvenance_eq {provenance : Provenance}
    (h : provenance.detail.length ≤ kRecordTextHardLimit) : keptProvenance provenance = provenance := by
  rw [keptProvenance, keptText_eq h]

def Planless (envelope : RateEnvelope) : Prop := envelope.hasPlan = false → envelope.plan = {}

theorem kept_eq {staged : Staged} (htexts : Staged.TextsFit staged)
    (hplan : ∀ envelope, envelope? staged = some envelope → Planless envelope) :
    Staged.kept staged = staged := by
  cases staged with
  | epoch => rfl
  | backend backend =>
    rw [Staged.kept, keptBackend, keptText_eq htexts.1, keptProvenance_eq htexts.2]
  | envelope type envelope =>
    have hkept : (if envelope.hasPlan then keptPlan envelope.plan else {}) = envelope.plan := by
      split
      · rw [keptPlan, keptText_eq htexts.2]
      · next hflag => exact (hplan envelope rfl (by simpa using hflag)).symm
    rw [Staged.kept, keptEnvelope, keptText_eq htexts.1, hkept]
  | created attempt => rw [Staged.kept, keptAttempt, keptText_eq htexts]
  | attempt type attempt => rw [Staged.kept, keptAttempt, keptText_eq htexts]
  | flow flow => rw [Staged.kept, keptFlow, keptProvenance_eq htexts]
  | grant type grant => rw [Staged.kept, keptGrant, keptProvenance_eq htexts]
  | reservation type reservation => rw [Staged.kept, keptReservation, keptProvenance_eq htexts]
  | policy type policy => rw [Staged.kept, keptPolicy, keptProvenance_eq htexts]
  | resource type resource => rw [Staged.kept, keptResource, keptProvenance_eq htexts]

end Replay

end RateGovernor.Dynamics.Records
