import RateGovernor.Model.Identity
import RateGovernor.Model.Reason

namespace RateGovernor.Model.Entities

open CheckedMath Identity Reason Foundation.ByteCodec

/-- A text is the byte sequence a `std::string` holds. -/
abbrev Text := List UInt8

def ascii (text : String) : Text := text.toList.map fun c ↦ UInt8.ofNat c.toNat

def kNeverExpiresNs : U64 := kU64Max

def isNever (t : U64) : Bool := t = kNeverExpiresNs

/-- The half-open window of instants at which an authority is valid. -/
structure ValidityWindow where
  notBeforeNs : U64 := 0
  invalidAfterNs : U64 := kNeverExpiresNs
  deriving DecidableEq

def ValidityWindow.contains (window : ValidityWindow) (now : U64) : Bool :=
  if now < window.notBeforeNs then false
  else if isNever window.invalidAfterNs then true
  else now < window.invalidAfterNs

def ValidityWindow.emptyWindow (window : ValidityWindow) : Bool :=
  !isNever window.invalidAfterNs && window.invalidAfterNs ≤ window.notBeforeNs

inductive AuthoritySource
  | unknown | operator | configuration | recovery | backendReport | derived
  | unlisted (raw : UInt8) (h : 6 ≤ raw)
  deriving DecidableEq

instance : ByteEnum AuthoritySource where
  toByte
    | .unknown => 0
    | .operator => 1
    | .configuration => 2
    | .recovery => 3
    | .backendReport => 4
    | .derived => 5
    | .unlisted raw _ => raw
  ofByte raw :=
    if h : 6 ≤ raw then .unlisted raw h
    else match raw.toNat with
      | 0 => .unknown
      | 1 => .operator
      | 2 => .configuration
      | 3 => .recovery
      | 4 => .backendReport
      | _ => .derived
  ofByte_toByte x := by
    cases x with
    | unlisted raw h => simp only [h, dite_true]
    | _ => rfl
  toByte_ofByte b := by
    by_cases h : 6 ≤ b
    · simp only [h, dite_true]
    · have hb : b.toNat < 6 := by simpa [UInt8.le_iff_toNat_le] using h
      simp only [h, dite_false]
      apply UInt8.toNat_inj.1
      interval_cases b.toNat <;> rfl

inductive FlowState
  | unknown | active | withdrawn | superseded
  | unlisted (raw : UInt8) (h : 4 ≤ raw)
  deriving DecidableEq

instance : ByteEnum FlowState where
  toByte
    | .unknown => 0
    | .active => 1
    | .withdrawn => 2
    | .superseded => 3
    | .unlisted raw _ => raw
  ofByte raw :=
    if h : 4 ≤ raw then .unlisted raw h
    else match raw.toNat with
      | 0 => .unknown
      | 1 => .active
      | 2 => .withdrawn
      | _ => .superseded
  ofByte_toByte x := by
    cases x with
    | unlisted raw h => simp only [h, dite_true]
    | _ => rfl
  toByte_ofByte b := by
    by_cases h : 4 ≤ b
    · simp only [h, dite_true]
    · have hb : b.toNat < 4 := by simpa [UInt8.le_iff_toNat_le] using h
      simp only [h, dite_false]
      apply UInt8.toNat_inj.1
      interval_cases b.toNat <;> rfl

inductive GrantState
  | unknown | active | recalled | expired | superseded
  | unlisted (raw : UInt8) (h : 5 ≤ raw)
  deriving DecidableEq

instance : ByteEnum GrantState where
  toByte
    | .unknown => 0
    | .active => 1
    | .recalled => 2
    | .expired => 3
    | .superseded => 4
    | .unlisted raw _ => raw
  ofByte raw :=
    if h : 5 ≤ raw then .unlisted raw h
    else match raw.toNat with
      | 0 => .unknown
      | 1 => .active
      | 2 => .recalled
      | 3 => .expired
      | _ => .superseded
  ofByte_toByte x := by
    cases x with
    | unlisted raw h => simp only [h, dite_true]
    | _ => rfl
  toByte_ofByte b := by
    by_cases h : 5 ≤ b
    · simp only [h, dite_true]
    · have hb : b.toNat < 5 := by simpa [UInt8.le_iff_toNat_le] using h
      simp only [h, dite_false]
      apply UInt8.toNat_inj.1
      interval_cases b.toNat <;> rfl

inductive ReservationState
  | unknown | active | released | expired | superseded
  | unlisted (raw : UInt8) (h : 5 ≤ raw)
  deriving DecidableEq

instance : ByteEnum ReservationState where
  toByte
    | .unknown => 0
    | .active => 1
    | .released => 2
    | .expired => 3
    | .superseded => 4
    | .unlisted raw _ => raw
  ofByte raw :=
    if h : 5 ≤ raw then .unlisted raw h
    else match raw.toNat with
      | 0 => .unknown
      | 1 => .active
      | 2 => .released
      | 3 => .expired
      | _ => .superseded
  ofByte_toByte x := by
    cases x with
    | unlisted raw h => simp only [h, dite_true]
    | _ => rfl
  toByte_ofByte b := by
    by_cases h : 5 ≤ b
    · simp only [h, dite_true]
    · have hb : b.toNat < 5 := by simpa [UInt8.le_iff_toNat_le] using h
      simp only [h, dite_false]
      apply UInt8.toNat_inj.1
      interval_cases b.toNat <;> rfl

inductive PolicyState
  | unknown | active | suspended | expired | superseded
  | unlisted (raw : UInt8) (h : 5 ≤ raw)
  deriving DecidableEq

instance : ByteEnum PolicyState where
  toByte
    | .unknown => 0
    | .active => 1
    | .suspended => 2
    | .expired => 3
    | .superseded => 4
    | .unlisted raw _ => raw
  ofByte raw :=
    if h : 5 ≤ raw then .unlisted raw h
    else match raw.toNat with
      | 0 => .unknown
      | 1 => .active
      | 2 => .suspended
      | 3 => .expired
      | _ => .superseded
  ofByte_toByte x := by
    cases x with
    | unlisted raw h => simp only [h, dite_true]
    | _ => rfl
  toByte_ofByte b := by
    by_cases h : 5 ≤ b
    · simp only [h, dite_true]
    · have hb : b.toNat < 5 := by simpa [UInt8.le_iff_toNat_le] using h
      simp only [h, dite_false]
      apply UInt8.toNat_inj.1
      interval_cases b.toNat <;> rfl

inductive ResourceState
  | unknown | active | constrained | withdrawn | superseded
  | unlisted (raw : UInt8) (h : 5 ≤ raw)
  deriving DecidableEq

instance : ByteEnum ResourceState where
  toByte
    | .unknown => 0
    | .active => 1
    | .constrained => 2
    | .withdrawn => 3
    | .superseded => 4
    | .unlisted raw _ => raw
  ofByte raw :=
    if h : 5 ≤ raw then .unlisted raw h
    else match raw.toNat with
      | 0 => .unknown
      | 1 => .active
      | 2 => .constrained
      | 3 => .withdrawn
      | _ => .superseded
  ofByte_toByte x := by
    cases x with
    | unlisted raw h => simp only [h, dite_true]
    | _ => rfl
  toByte_ofByte b := by
    by_cases h : 5 ≤ b
    · simp only [h, dite_true]
    · have hb : b.toNat < 5 := by simpa [UInt8.le_iff_toNat_le] using h
      simp only [h, dite_false]
      apply UInt8.toNat_inj.1
      interval_cases b.toNat <;> rfl

inductive RefillSemantics
  | unknown | continuousTokenBucket | discreteTickBucket
  | unlisted (raw : UInt8) (h : 3 ≤ raw)
  deriving DecidableEq

instance : ByteEnum RefillSemantics where
  toByte
    | .unknown => 0
    | .continuousTokenBucket => 1
    | .discreteTickBucket => 2
    | .unlisted raw _ => raw
  ofByte raw :=
    if h : 3 ≤ raw then .unlisted raw h
    else match raw.toNat with
      | 0 => .unknown
      | 1 => .continuousTokenBucket
      | _ => .discreteTickBucket
  ofByte_toByte x := by
    cases x with
    | unlisted raw h => simp only [h, dite_true]
    | _ => rfl
  toByte_ofByte b := by
    by_cases h : 3 ≤ b
    · simp only [h, dite_true]
    · have hb : b.toNat < 3 := by simpa [UInt8.le_iff_toNat_le] using h
      simp only [h, dite_false]
      apply UInt8.toNat_inj.1
      interval_cases b.toNat <;> rfl

inductive BackendKind
  | unknown | unsupported | synthetic | physical
  | unlisted (raw : UInt8) (h : 4 ≤ raw)
  deriving DecidableEq

instance : ByteEnum BackendKind where
  toByte
    | .unknown => 0
    | .unsupported => 1
    | .synthetic => 2
    | .physical => 3
    | .unlisted raw _ => raw
  ofByte raw :=
    if h : 4 ≤ raw then .unlisted raw h
    else match raw.toNat with
      | 0 => .unknown
      | 1 => .unsupported
      | 2 => .synthetic
      | _ => .physical
  ofByte_toByte x := by
    cases x with
    | unlisted raw h => simp only [h, dite_true]
    | _ => rfl
  toByte_ofByte b := by
    by_cases h : 4 ≤ b
    · simp only [h, dite_true]
    · have hb : b.toNat < 4 := by simpa [UInt8.le_iff_toNat_le] using h
      simp only [h, dite_false]
      apply UInt8.toNat_inj.1
      interval_cases b.toNat <;> rfl

inductive VerificationMode
  | unknown | none | postApplyReadback
  | unlisted (raw : UInt8) (h : 3 ≤ raw)
  deriving DecidableEq

instance : ByteEnum VerificationMode where
  toByte
    | .unknown => 0
    | .none => 1
    | .postApplyReadback => 2
    | .unlisted raw _ => raw
  ofByte raw :=
    if h : 3 ≤ raw then .unlisted raw h
    else match raw.toNat with
      | 0 => .unknown
      | 1 => .none
      | _ => .postApplyReadback
  ofByte_toByte x := by
    cases x with
    | unlisted raw h => simp only [h, dite_true]
    | _ => rfl
  toByte_ofByte b := by
    by_cases h : 3 ≤ b
    · simp only [h, dite_true]
    · have hb : b.toNat < 3 := by simpa [UInt8.le_iff_toNat_le] using h
      simp only [h, dite_false]
      apply UInt8.toNat_inj.1
      interval_cases b.toNat <;> rfl

def kMaxProvenanceDetail : ℕ := 96

def isAsciiPrintable (text : Text) : Bool := text.all fun b ↦ 0x20 ≤ b && b ≤ 0x7E

def isBoundedText (text : Text) (maxLength : ℕ) : Bool :=
  if maxLength < text.length then false else isAsciiPrintable text

structure Provenance where
  source : AuthoritySource := .unknown
  epoch : FabricEpoch := {}
  boot : WorkerBootId := {}
  sequence : U64 := 0
  detail : Text := []
  deriving DecidableEq

def Provenance.authoritative (provenance : Provenance) : Bool := provenance.source ≠ .unknown

def Provenance.wellFormed (provenance : Provenance) : Bool :=
  isBoundedText provenance.detail kMaxProvenanceDetail

/-- The incarnation a caller presents with a mutating request. -/
structure ActorContext where
  epoch : FabricEpoch := {}
  boot : WorkerBootId := {}
  provenance : Provenance := {}
  deriving DecidableEq

def ActorContext.hasIncarnation (actor : ActorContext) : Bool :=
  actor.epoch.valid && actor.boot.valid

structure Flow where
  id : FlowId := {}
  generation : Generation := ⟨1⟩
  state : FlowState := .unknown
  provenance : Provenance := {}
  deriving DecidableEq

def Flow.active (flow : Flow) : Bool := flow.state = .active

/-- Funded ceiling authority for a flow on a resource. -/
structure Grant where
  id : GrantId := {}
  flow : FlowId := {}
  resource : ResourceId := {}
  generation : Generation := ⟨1⟩
  ceilingUps : U64 := 0
  burstTokens : U64 := 0
  window : ValidityWindow := {}
  state : GrantState := .unknown
  provenance : Provenance := {}
  deriving DecidableEq

def Grant.active (grant : Grant) : Bool := grant.state = .active

structure Reservation where
  id : ReservationId := {}
  flow : FlowId := {}
  resource : ResourceId := {}
  generation : Generation := ⟨1⟩
  ceilingUps : U64 := 0
  burstTokens : U64 := 0
  window : ValidityWindow := {}
  state : ReservationState := .unknown
  provenance : Provenance := {}
  deriving DecidableEq

def Reservation.active (reservation : Reservation) : Bool := reservation.state = .active

structure HysteresisPolicy where
  reduceBelowUps : U64 := 0
  recoverAtUps : U64 := 0
  cooldownNs : U64 := 0
  deriving DecidableEq

structure Policy where
  id : PolicyId := {}
  generation : Generation := ⟨1⟩
  floorUps : U64 := 0
  targetUps : U64 := 0
  ceilingUps : U64 := 0
  burstTokens : U64 := 0
  refill : RefillSemantics := .unknown
  graceNs : U64 := 0
  hysteresis : HysteresisPolicy := {}
  window : ValidityWindow := {}
  state : PolicyState := .unknown
  provenance : Provenance := {}
  deriving DecidableEq

def Policy.active (policy : Policy) : Bool := policy.state = .active

def Policy.orderingHolds (policy : Policy) : Bool :=
  policy.floorUps ≤ policy.targetUps && policy.targetUps ≤ policy.ceilingUps

structure Resource where
  id : ResourceId := {}
  generation : Generation := ⟨1⟩
  capacityUps : U64 := 0
  capacityBurstTokens : U64 := 0
  state : ResourceState := .unknown
  provenance : Provenance := {}
  deriving DecidableEq

def Resource.active (resource : Resource) : Bool :=
  resource.state = .active || resource.state = .constrained

def kBackendCapApply : UInt32 := 1

structure BackendDescriptor where
  id : BackendId := {}
  generation : Generation := ⟨1⟩
  kind : BackendKind := .unknown
  capabilities : UInt32 := 0
  verification : VerificationMode := .unknown
  maxRateUps : U64 := 0
  maxBurstTokens : U64 := 0
  label : Text := []
  provenance : Provenance := {}
  deriving DecidableEq

def BackendDescriptor.canApply (backend : BackendDescriptor) : Bool :=
  backend.capabilities &&& kBackendCapApply ≠ 0

def provenanceOk (provenance : Provenance) : Bool :=
  provenance.authoritative && provenance.wellFormed

def Flow.validateStructure (flow : Flow) : ReasonCode :=
  if !flow.id.valid || !flow.generation.valid then .malformedInput
  else if flow.state = .unknown then .unknownAuthority
  else if !provenanceOk flow.provenance then .unknownAuthority
  else .none

def Grant.validateStructure (grant : Grant) : ReasonCode :=
  if !grant.id.valid || !grant.flow.valid || !grant.resource.valid || !grant.generation.valid then
    .malformedInput
  else if grant.state = .unknown then .unknownAuthority
  else if grant.window.emptyWindow then .malformedInput
  else if !provenanceOk grant.provenance then .unknownAuthority
  else .none

def Reservation.validateStructure (reservation : Reservation) : ReasonCode :=
  if !reservation.id.valid || !reservation.flow.valid || !reservation.resource.valid ||
      !reservation.generation.valid then .malformedInput
  else if reservation.state = .unknown then .unknownAuthority
  else if reservation.window.emptyWindow then .malformedInput
  else if !provenanceOk reservation.provenance then .unknownAuthority
  else .none

def Policy.validateStructure (policy : Policy) : ReasonCode :=
  if !policy.id.valid || !policy.generation.valid then .malformedInput
  else if policy.state = .unknown then .unknownAuthority
  else if policy.refill = .unknown then .malformedInput
  else if !policy.orderingHolds then .malformedInput
  else if policy.window.emptyWindow then .malformedInput
  else if !provenanceOk policy.provenance then .unknownAuthority
  else .none

def Resource.validateStructure (resource : Resource) : ReasonCode :=
  if !resource.id.valid || !resource.generation.valid then .malformedInput
  else if resource.state = .unknown then .unknownAuthority
  else if !provenanceOk resource.provenance then .unknownAuthority
  else .none

def BackendDescriptor.validateStructure (backend : BackendDescriptor) : ReasonCode :=
  if !backend.id.valid || !backend.generation.valid then .malformedInput
  else if backend.kind = .unknown || backend.verification = .unknown then .unknownAuthority
  else if !isBoundedText backend.label kMaxProvenanceDetail then .malformedInput
  else if !provenanceOk backend.provenance then .unknownAuthority
  else .none

end RateGovernor.Model.Entities
