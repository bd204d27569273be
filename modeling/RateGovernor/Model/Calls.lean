import RateGovernor.Model.EngineState

namespace RateGovernor.Model.Calls

open CheckedMath Identity Reason Entities Envelope EngineState

structure ApplyRequest where
  attempt : EnforcementAttemptId := {}
  envelope : RateEnvelopeId := {}
  envelopeGeneration : Generation := {}
  fingerprint : PlanFingerprint := {}
  rateUps : U64 := 0
  burstTokens : U64 := 0
  refill : RefillSemantics := .unknown
  epoch : FabricEpoch := {}
  boot : WorkerBootId := {}
  issuedNs : U64 := 0

structure RevokeRequest where
  attempt : EnforcementAttemptId := {}
  envelope : RateEnvelopeId := {}
  envelopeGeneration : Generation := {}
  fingerprint : PlanFingerprint := {}
  epoch : FabricEpoch := {}
  boot : WorkerBootId := {}
  reason : ReasonCode := .none
  issuedNs : U64 := 0

inductive DispatchStatus
  | unknown | completed | pending | rejected | unsupported | failed
  deriving DecidableEq

structure DispatchOutcome where
  status : DispatchStatus := .unknown
  reason : ReasonCode := .none
  appliedRateUps : U64 := 0
  appliedBurstTokens : U64 := 0
  epoch : FabricEpoch := {}
  boot : WorkerBootId := {}
  detail : Text := []

inductive VerificationStatus
  | unknown | confirmed | mismatch | unsupported | failed
  deriving DecidableEq

structure VerificationOutcome where
  status : VerificationStatus := .unknown
  reason : ReasonCode := .none
  observedPresent : Bool := false
  observedRateUps : U64 := 0
  observedBurstTokens : U64 := 0
  epoch : FabricEpoch := {}
  boot : WorkerBootId := {}
  detail : Text := []

/-- The outcome recorded when no backend is bound to ask. -/
def unboundVerification : VerificationOutcome where
  status := .failed
  reason := .applyVerificationUnknown
  detail := ascii "no backend session is bound; the effect is UNKNOWN"

structure CompletionReport where
  status : DispatchStatus := .unknown
  acknowledged : Bool := false
  acknowledgedRateUps : U64 := 0
  acknowledgedBurstTokens : U64 := 0
  epoch : FabricEpoch := {}
  boot : WorkerBootId := {}
  reason : ReasonCode := .none
  detail : Text := []

/-- The report `apply` builds from what the backend answered. -/
def applyReport (outcome : DispatchOutcome) : CompletionReport where
  status := outcome.status
  acknowledged := outcome.status = .completed
  acknowledgedRateUps := outcome.appliedRateUps
  acknowledgedBurstTokens := outcome.appliedBurstTokens
  epoch := outcome.epoch
  boot := outcome.boot
  reason := outcome.reason
  detail := outcome.detail

/-- The report `revoke` builds, which carries no magnitudes. -/
def revokeReport (outcome : DispatchOutcome) : CompletionReport where
  status := outcome.status
  acknowledged := outcome.status = .completed
  epoch := outcome.epoch
  boot := outcome.boot
  reason := outcome.reason
  detail := outcome.detail

structure CompletionOutcome where
  attempt : EnforcementAttemptId := {}
  accepted : Bool := false
  duplicate : Bool := false
  rejectedLate : Bool := false
  verificationPerformed : Bool := false
  verified : Bool := false
  disputed : Bool := false
  compensatingRevokeRequired : Bool := false
  reason : ReasonCode := .none
  resultingState : EnvelopeState := .unknown

/-- The first answer of `apply` and `revoke`: a dispatch, or the attempt that absorbs it. -/
structure Dispatch where
  attempt : EnforcementAttemptId := {}
  duplicate : Bool := false
  dispatched : Bool := false
  resultingState : EnvelopeState := .unknown
  reason : ReasonCode := .none

structure TickReport where
  nowNs : U64 := 0
  envelopesRefilled : U64 := 0
  envelopesStale : U64 := 0
  attemptsExpired : U64 := 0
  revokesPending : U64 := 0
  cooldownsExpired : U64 := 0
  clockRegressions : U64 := 0
  tokenBucketsSaturated : U64 := 0
  revalidationsRequired : U64 := 0
  deferred : U64 := 0
  journalFailed : Bool := false

structure RevalidationItem where
  envelope : RateEnvelopeId := {}
  before : EnvelopeState := .unknown
  after : EnvelopeState := .unknown
  reason : ReasonCode := .none
  effectConfirmed : Bool := false
  reapplyRequired : Bool := false

structure RevalidationReport where
  considered : U64 := 0
  confirmedApplied : U64 := 0
  requeued : U64 := 0
  unknown : U64 := 0
  denied : U64 := 0
  skippedNoBackend : U64 := 0
  items : List RevalidationItem := []

structure ShutdownReport where
  attemptsAbandoned : U64 := 0
  envelopesRequiringRevalidation : U64 := 0
  failure : Status := none

/-- The arguments of `finish_apply` other than the report. -/
structure ApplyTask where
  envelope : RateEnvelopeId
  attempt : EnforcementAttemptId
  request : ApplyRequest

structure RevokeTask where
  envelope : RateEnvelopeId
  attempt : EnforcementAttemptId
  request : RevokeRequest

/-- The rest of a `revalidate_all` loop: its remaining candidates, the backend and the epoch it
picked up when it selected them, and what it has reported so far. -/
structure Sweep where
  candidates : List U64
  backend : Backend
  epochNow : FabricEpoch
  report : RevalidationReport

/-- One readback of the loop and the values it will be judged by. -/
structure Probe where
  id : RateEnvelopeId
  request : ApplyRequest
  before : EnvelopeState
  expectedRate : U64
  expectedBurst : U64
  floor : U64

/-- An operation between two of its critical sections, with no lock held. -/
inductive Call
  | applying (task : ApplyTask) (backend : Backend)
  | applyReported (task : ApplyTask) (report : CompletionReport)
  | applyFinishing (task : ApplyTask) (report : CompletionReport) (now : U64)
  | applyVerifying (task : ApplyTask) (now : U64) (backend : Option Backend)
  | applyPublishing (task : ApplyTask) (now : U64) (backend : Option Backend)
      (verification : VerificationOutcome)
  | revoking (task : RevokeTask) (backend : Backend)
  | revokeReported (task : RevokeTask) (report : CompletionReport)
  | revokeFinishing (task : RevokeTask) (report : CompletionReport) (now : U64)
  | revokeVerifying (task : RevokeTask) (now : U64) (probe : ApplyRequest)
      (backend : Option Backend) (seen : EnvelopeState)
  | revokePublishing (task : RevokeTask) (now : U64) (backend : Option Backend)
      (verification : VerificationOutcome) (seen : EnvelopeState)
  | sweeping (sweep : Sweep)
  | probing (sweep : Sweep) (probe : Probe)
  | recording (sweep : Sweep) (probe : Probe) (verification : VerificationOutcome) (now : U64)

end RateGovernor.Model.Calls
