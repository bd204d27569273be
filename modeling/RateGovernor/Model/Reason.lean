import RateGovernor.Foundation.ByteCodec

namespace RateGovernor.Model.Reason

open Foundation.ByteCodec

/-- The codes that name a reason. The decoders accept any other 16-bit value too. -/
def listedReasonCodes : List UInt16 :=
  [0, 1, 2, 3, 4, 5, 6, 7, 8, 9, 10, 11, 12, 13, 14, 15, 16, 17, 18, 19, 20, 21, 22, 23, 24, 25,
   26, 27, 28, 29, 30, 31, 32, 40, 41, 42, 43, 44, 45, 46, 47, 48, 49, 50, 51, 52, 53, 54, 55,
   56, 57, 58, 59, 60, 61, 62, 70, 71, 72, 73, 74, 75, 76, 77, 78, 79, 80, 81, 82, 83, 84, 85,
   86, 87, 88, 89, 90, 91, 92, 93, 100, 101, 102, 103, 104, 110, 111, 112, 113, 114, 115, 120,
   121, 122, 123, 124, 125, 130, 131, 132, 133, 134, 135]

inductive ReasonCode
  | none | planAuthorized | planTargetClampedByCeiling | planBurstClampedByAuthority
  | planRejectedFloorExceedsFundedCeiling | planRejectedTargetBelowFloor
  | planRejectedUnknownFlow | planRejectedUnknownResource | planRejectedMissingGrant
  | planRejectedMissingPolicy | planRejectedMissingReservation | planRejectedMissingBackend
  | planRejectedFlowGenerationMismatch | planRejectedGrantGenerationMismatch
  | planRejectedReservationGenerationMismatch | planRejectedPolicyGenerationMismatch
  | planRejectedResourceGenerationMismatch | planRejectedBackendGenerationMismatch
  | planRejectedGrantNotActive | planRejectedPolicyNotActive | planRejectedResourceNotActive
  | planRejectedReservationNotActive | planRejectedGrantNotYetValid | planRejectedGrantExpired
  | planRejectedReservationNotYetValid | planRejectedReservationExpired
  | planRejectedPolicyExpired | planRejectedPolicyNotYetValid | planRejectedBackendUnsupported
  | planRejectedEnvelopeGenerationMismatch | planRejectedResourceCapacityZero
  | planRejectedCeilingZero | planRejectedFlowNotActive | applyDispatched | applyAcknowledged
  | applyVerified | applyUnderDelivered | applyOverDeliveredRevoking | applyBackendFailed
  | applyVerificationUnsupported | applyVerificationMismatch | applyVerificationUnknown
  | revokeDispatched | revokeVerified | revokeBackendFailed | attemptCancelled
  | attemptLateCompletionRejected | attemptDuplicateIgnored | attemptAbandonedWorkerDeath
  | attemptDeadlineExceeded | attemptFencedByEpoch | attemptFencedByBoot
  | attemptFencedByGeneration | attemptSupersededByNewerAttempt | attemptIdempotentReplay
  | compensatingRevokeIssued | envelopeOpened | envelopeAuthorized | envelopeRevokePending
  | envelopeRevoked | envelopeDegraded | envelopeFailed | envelopeStaleGrantRecalled
  | envelopeStaleGrantExpired | envelopeStaleReservationExpired | envelopeStalePolicyExpired
  | envelopeStalePolicyGenerationChanged | envelopeStaleResourceGenerationChanged
  | envelopeStaleResourceCapacityReduced | envelopeStaleFlowGenerationChanged
  | envelopeStaleFabricEpochAdvanced | envelopeStaleNoLiveAuthority | envelopeCooldownActive
  | envelopeRecoveredRequiresRevalidation | envelopeRevalidatedApplied
  | envelopeRevalidationUnknown | envelopeRevalidationDenied | envelopeReducedByPolicy
  | envelopeRevokedByOperator | envelopeRevokedByGrantRecall | clockRegressionDetected
  | clockTickOverflowSaturated | tokenBucketSaturated | tokenBucketEmpty | tokenBucketRefilled
  | journalAppendFailed | journalTruncatedTail | journalCorruptRecord | journalCommitted
  | journalCompacted | journalVersionUnsupported | backendSessionEstablished | backendSessionLost
  | backendFencedStaleEpoch | backendFencedStaleBoot | backendRejectedMalformedRequest
  | backendQueueFull | capacityLimitExceeded | malformedInput | engineShutdown
  | workRejectedDuringShutdown | unsupportedOperation | unknownAuthority
  | unlisted (raw : UInt16) (h : raw ∉ listedReasonCodes)
  deriving DecidableEq

def ReasonCode.code : ReasonCode → UInt16
  | .none => 0
  | .planAuthorized => 1
  | .planTargetClampedByCeiling => 2
  | .planBurstClampedByAuthority => 3
  | .planRejectedFloorExceedsFundedCeiling => 4
  | .planRejectedTargetBelowFloor => 5
  | .planRejectedUnknownFlow => 6
  | .planRejectedUnknownResource => 7
  | .planRejectedMissingGrant => 8
  | .planRejectedMissingPolicy => 9
  | .planRejectedMissingReservation => 10
  | .planRejectedMissingBackend => 11
  | .planRejectedFlowGenerationMismatch => 12
  | .planRejectedGrantGenerationMismatch => 13
  | .planRejectedReservationGenerationMismatch => 14
  | .planRejectedPolicyGenerationMismatch => 15
  | .planRejectedResourceGenerationMismatch => 16
  | .planRejectedBackendGenerationMismatch => 17
  | .planRejectedGrantNotActive => 18
  | .planRejectedPolicyNotActive => 19
  | .planRejectedResourceNotActive => 20
  | .planRejectedReservationNotActive => 21
  | .planRejectedGrantNotYetValid => 22
  | .planRejectedGrantExpired => 23
  | .planRejectedReservationNotYetValid => 24
  | .planRejectedReservationExpired => 25
  | .planRejectedPolicyExpired => 26
  | .planRejectedPolicyNotYetValid => 27
  | .planRejectedBackendUnsupported => 28
  | .planRejectedEnvelopeGenerationMismatch => 29
  | .planRejectedResourceCapacityZero => 30
  | .planRejectedCeilingZero => 31
  | .planRejectedFlowNotActive => 32
  | .applyDispatched => 40
  | .applyAcknowledged => 41
  | .applyVerified => 42
  | .applyUnderDelivered => 43
  | .applyOverDeliveredRevoking => 44
  | .applyBackendFailed => 45
  | .applyVerificationUnsupported => 46
  | .applyVerificationMismatch => 47
  | .applyVerificationUnknown => 48
  | .revokeDispatched => 49
  | .revokeVerified => 50
  | .revokeBackendFailed => 51
  | .attemptCancelled => 52
  | .attemptLateCompletionRejected => 53
  | .attemptDuplicateIgnored => 54
  | .attemptAbandonedWorkerDeath => 55
  | .attemptDeadlineExceeded => 56
  | .attemptFencedByEpoch => 57
  | .attemptFencedByBoot => 58
  | .attemptFencedByGeneration => 59
  | .attemptSupersededByNewerAttempt => 60
  | .attemptIdempotentReplay => 61
  | .compensatingRevokeIssued => 62
  | .envelopeOpened => 70
  | .envelopeAuthorized => 71
  | .envelopeRevokePending => 72
  | .envelopeRevoked => 73
  | .envelopeDegraded => 74
  | .envelopeFailed => 75
  | .envelopeStaleGrantRecalled => 76
  | .envelopeStaleGrantExpired => 77
  | .envelopeStaleReservationExpired => 78
  | .envelopeStalePolicyExpired => 79
  | .envelopeStalePolicyGenerationChanged => 80
  | .envelopeStaleResourceGenerationChanged => 81
  | .envelopeStaleResourceCapacityReduced => 82
  | .envelopeStaleFlowGenerationChanged => 83
  | .envelopeStaleFabricEpochAdvanced => 84
  | .envelopeStaleNoLiveAuthority => 85
  | .envelopeCooldownActive => 86
  | .envelopeRecoveredRequiresRevalidation => 87
  | .envelopeRevalidatedApplied => 88
  | .envelopeRevalidationUnknown => 89
  | .envelopeRevalidationDenied => 90
  | .envelopeReducedByPolicy => 91
  | .envelopeRevokedByOperator => 92
  | .envelopeRevokedByGrantRecall => 93
  | .clockRegressionDetected => 100
  | .clockTickOverflowSaturated => 101
  | .tokenBucketSaturated => 102
  | .tokenBucketEmpty => 103
  | .tokenBucketRefilled => 104
  | .journalAppendFailed => 110
  | .journalTruncatedTail => 111
  | .journalCorruptRecord => 112
  | .journalCommitted => 113
  | .journalCompacted => 114
  | .journalVersionUnsupported => 115
  | .backendSessionEstablished => 120
  | .backendSessionLost => 121
  | .backendFencedStaleEpoch => 122
  | .backendFencedStaleBoot => 123
  | .backendRejectedMalformedRequest => 124
  | .backendQueueFull => 125
  | .capacityLimitExceeded => 130
  | .malformedInput => 131
  | .engineShutdown => 132
  | .workRejectedDuringShutdown => 133
  | .unsupportedOperation => 134
  | .unknownAuthority => 135
  | .unlisted raw _ => raw

def listedReasons : List ReasonCode :=
  [.none, .planAuthorized, .planTargetClampedByCeiling, .planBurstClampedByAuthority,
   .planRejectedFloorExceedsFundedCeiling, .planRejectedTargetBelowFloor,
   .planRejectedUnknownFlow, .planRejectedUnknownResource, .planRejectedMissingGrant,
   .planRejectedMissingPolicy, .planRejectedMissingReservation, .planRejectedMissingBackend,
   .planRejectedFlowGenerationMismatch, .planRejectedGrantGenerationMismatch,
   .planRejectedReservationGenerationMismatch, .planRejectedPolicyGenerationMismatch,
   .planRejectedResourceGenerationMismatch, .planRejectedBackendGenerationMismatch,
   .planRejectedGrantNotActive, .planRejectedPolicyNotActive, .planRejectedResourceNotActive,
   .planRejectedReservationNotActive, .planRejectedGrantNotYetValid, .planRejectedGrantExpired,
   .planRejectedReservationNotYetValid, .planRejectedReservationExpired,
   .planRejectedPolicyExpired, .planRejectedPolicyNotYetValid, .planRejectedBackendUnsupported,
   .planRejectedEnvelopeGenerationMismatch, .planRejectedResourceCapacityZero,
   .planRejectedCeilingZero, .planRejectedFlowNotActive, .applyDispatched, .applyAcknowledged,
   .applyVerified, .applyUnderDelivered, .applyOverDeliveredRevoking, .applyBackendFailed,
   .applyVerificationUnsupported, .applyVerificationMismatch, .applyVerificationUnknown,
   .revokeDispatched, .revokeVerified, .revokeBackendFailed, .attemptCancelled,
   .attemptLateCompletionRejected, .attemptDuplicateIgnored, .attemptAbandonedWorkerDeath,
   .attemptDeadlineExceeded, .attemptFencedByEpoch, .attemptFencedByBoot,
   .attemptFencedByGeneration, .attemptSupersededByNewerAttempt, .attemptIdempotentReplay,
   .compensatingRevokeIssued, .envelopeOpened, .envelopeAuthorized, .envelopeRevokePending,
   .envelopeRevoked, .envelopeDegraded, .envelopeFailed, .envelopeStaleGrantRecalled,
   .envelopeStaleGrantExpired, .envelopeStaleReservationExpired, .envelopeStalePolicyExpired,
   .envelopeStalePolicyGenerationChanged, .envelopeStaleResourceGenerationChanged,
   .envelopeStaleResourceCapacityReduced, .envelopeStaleFlowGenerationChanged,
   .envelopeStaleFabricEpochAdvanced, .envelopeStaleNoLiveAuthority, .envelopeCooldownActive,
   .envelopeRecoveredRequiresRevalidation, .envelopeRevalidatedApplied,
   .envelopeRevalidationUnknown, .envelopeRevalidationDenied, .envelopeReducedByPolicy,
   .envelopeRevokedByOperator, .envelopeRevokedByGrantRecall, .clockRegressionDetected,
   .clockTickOverflowSaturated, .tokenBucketSaturated, .tokenBucketEmpty, .tokenBucketRefilled,
   .journalAppendFailed, .journalTruncatedTail, .journalCorruptRecord, .journalCommitted,
   .journalCompacted, .journalVersionUnsupported, .backendSessionEstablished,
   .backendSessionLost, .backendFencedStaleEpoch, .backendFencedStaleBoot,
   .backendRejectedMalformedRequest, .backendQueueFull, .capacityLimitExceeded, .malformedInput,
   .engineShutdown, .workRejectedDuringShutdown, .unsupportedOperation, .unknownAuthority]

def ReasonCode.ofCode (raw : UInt16) : ReasonCode :=
  if h : raw ∈ listedReasonCodes then
    (listedReasons.find? fun reason ↦ reason.code = raw).getD .none
  else .unlisted raw h

theorem ReasonCode.ofCode_code (reason : ReasonCode) : ReasonCode.ofCode reason.code = reason := by
  cases reason with
  | unlisted raw h => exact dif_neg h
  | _ => rfl

def ReasonCode.toStringView : ReasonCode → String
  | .none => "None"
  | .planAuthorized => "PlanAuthorized"
  | .planTargetClampedByCeiling => "PlanTargetClampedByCeiling"
  | .planBurstClampedByAuthority => "PlanBurstClampedByAuthority"
  | .planRejectedFloorExceedsFundedCeiling => "PlanRejectedFloorExceedsFundedCeiling"
  | .planRejectedTargetBelowFloor => "PlanRejectedTargetBelowFloor"
  | .planRejectedUnknownFlow => "PlanRejectedUnknownFlow"
  | .planRejectedUnknownResource => "PlanRejectedUnknownResource"
  | .planRejectedMissingGrant => "PlanRejectedMissingGrant"
  | .planRejectedMissingPolicy => "PlanRejectedMissingPolicy"
  | .planRejectedMissingReservation => "PlanRejectedMissingReservation"
  | .planRejectedMissingBackend => "PlanRejectedMissingBackend"
  | .planRejectedFlowGenerationMismatch => "PlanRejectedFlowGenerationMismatch"
  | .planRejectedGrantGenerationMismatch => "PlanRejectedGrantGenerationMismatch"
  | .planRejectedReservationGenerationMismatch => "PlanRejectedReservationGenerationMismatch"
  | .planRejectedPolicyGenerationMismatch => "PlanRejectedPolicyGenerationMismatch"
  | .planRejectedResourceGenerationMismatch => "PlanRejectedResourceGenerationMismatch"
  | .planRejectedBackendGenerationMismatch => "PlanRejectedBackendGenerationMismatch"
  | .planRejectedGrantNotActive => "PlanRejectedGrantNotActive"
  | .planRejectedPolicyNotActive => "PlanRejectedPolicyNotActive"
  | .planRejectedResourceNotActive => "PlanRejectedResourceNotActive"
  | .planRejectedReservationNotActive => "PlanRejectedReservationNotActive"
  | .planRejectedGrantNotYetValid => "PlanRejectedGrantNotYetValid"
  | .planRejectedGrantExpired => "PlanRejectedGrantExpired"
  | .planRejectedReservationNotYetValid => "PlanRejectedReservationNotYetValid"
  | .planRejectedReservationExpired => "PlanRejectedReservationExpired"
  | .planRejectedPolicyExpired => "PlanRejectedPolicyExpired"
  | .planRejectedPolicyNotYetValid => "PlanRejectedPolicyNotYetValid"
  | .planRejectedBackendUnsupported => "PlanRejectedBackendUnsupported"
  | .planRejectedEnvelopeGenerationMismatch => "PlanRejectedEnvelopeGenerationMismatch"
  | .planRejectedResourceCapacityZero => "PlanRejectedResourceCapacityZero"
  | .planRejectedCeilingZero => "PlanRejectedCeilingZero"
  | .planRejectedFlowNotActive => "PlanRejectedFlowNotActive"
  | .applyDispatched => "ApplyDispatched"
  | .applyAcknowledged => "ApplyAcknowledged"
  | .applyVerified => "ApplyVerified"
  | .applyUnderDelivered => "ApplyUnderDelivered"
  | .applyOverDeliveredRevoking => "ApplyOverDeliveredRevoking"
  | .applyBackendFailed => "ApplyBackendFailed"
  | .applyVerificationUnsupported => "ApplyVerificationUnsupported"
  | .applyVerificationMismatch => "ApplyVerificationMismatch"
  | .applyVerificationUnknown => "ApplyVerificationUnknown"
  | .revokeDispatched => "RevokeDispatched"
  | .revokeVerified => "RevokeVerified"
  | .revokeBackendFailed => "RevokeBackendFailed"
  | .attemptCancelled => "AttemptCancelled"
  | .attemptLateCompletionRejected => "AttemptLateCompletionRejected"
  | .attemptDuplicateIgnored => "AttemptDuplicateIgnored"
  | .attemptAbandonedWorkerDeath => "AttemptAbandonedWorkerDeath"
  | .attemptDeadlineExceeded => "AttemptDeadlineExceeded"
  | .attemptFencedByEpoch => "AttemptFencedByEpoch"
  | .attemptFencedByBoot => "AttemptFencedByBoot"
  | .attemptFencedByGeneration => "AttemptFencedByGeneration"
  | .attemptSupersededByNewerAttempt => "AttemptSupersededByNewerAttempt"
  | .attemptIdempotentReplay => "AttemptIdempotentReplay"
  | .compensatingRevokeIssued => "CompensatingRevokeIssued"
  | .envelopeOpened => "EnvelopeOpened"
  | .envelopeAuthorized => "EnvelopeAuthorized"
  | .envelopeRevokePending => "EnvelopeRevokePending"
  | .envelopeRevoked => "EnvelopeRevoked"
  | .envelopeDegraded => "EnvelopeDegraded"
  | .envelopeFailed => "EnvelopeFailed"
  | .envelopeStaleGrantRecalled => "EnvelopeStaleGrantRecalled"
  | .envelopeStaleGrantExpired => "EnvelopeStaleGrantExpired"
  | .envelopeStaleReservationExpired => "EnvelopeStaleReservationExpired"
  | .envelopeStalePolicyExpired => "EnvelopeStalePolicyExpired"
  | .envelopeStalePolicyGenerationChanged => "EnvelopeStalePolicyGenerationChanged"
  | .envelopeStaleResourceGenerationChanged => "EnvelopeStaleResourceGenerationChanged"
  | .envelopeStaleResourceCapacityReduced => "EnvelopeStaleResourceCapacityReduced"
  | .envelopeStaleFlowGenerationChanged => "EnvelopeStaleFlowGenerationChanged"
  | .envelopeStaleFabricEpochAdvanced => "EnvelopeStaleFabricEpochAdvanced"
  | .envelopeStaleNoLiveAuthority => "EnvelopeStaleNoLiveAuthority"
  | .envelopeCooldownActive => "EnvelopeCooldownActive"
  | .envelopeRecoveredRequiresRevalidation => "EnvelopeRecoveredRequiresRevalidation"
  | .envelopeRevalidatedApplied => "EnvelopeRevalidatedApplied"
  | .envelopeRevalidationUnknown => "EnvelopeRevalidationUnknown"
  | .envelopeRevalidationDenied => "EnvelopeRevalidationDenied"
  | .envelopeReducedByPolicy => "EnvelopeReducedByPolicy"
  | .envelopeRevokedByOperator => "EnvelopeRevokedByOperator"
  | .envelopeRevokedByGrantRecall => "EnvelopeRevokedByGrantRecall"
  | .clockRegressionDetected => "ClockRegressionDetected"
  | .clockTickOverflowSaturated => "ClockTickOverflowSaturated"
  | .tokenBucketSaturated => "TokenBucketSaturated"
  | .tokenBucketEmpty => "TokenBucketEmpty"
  | .tokenBucketRefilled => "TokenBucketRefilled"
  | .journalAppendFailed => "JournalAppendFailed"
  | .journalTruncatedTail => "JournalTruncatedTail"
  | .journalCorruptRecord => "JournalCorruptRecord"
  | .journalCommitted => "JournalCommitted"
  | .journalCompacted => "JournalCompacted"
  | .journalVersionUnsupported => "JournalVersionUnsupported"
  | .backendSessionEstablished => "BackendSessionEstablished"
  | .backendSessionLost => "BackendSessionLost"
  | .backendFencedStaleEpoch => "BackendFencedStaleEpoch"
  | .backendFencedStaleBoot => "BackendFencedStaleBoot"
  | .backendRejectedMalformedRequest => "BackendRejectedMalformedRequest"
  | .backendQueueFull => "BackendQueueFull"
  | .capacityLimitExceeded => "CapacityLimitExceeded"
  | .malformedInput => "MalformedInput"
  | .engineShutdown => "EngineShutdown"
  | .workRejectedDuringShutdown => "WorkRejectedDuringShutdown"
  | .unsupportedOperation => "UnsupportedOperation"
  | .unknownAuthority => "UnknownAuthority"
  | .unlisted _ _ => "Unknown"

def reason : Reader ReasonCode := do
  let code ← u16
  return ReasonCode.ofCode code

def putReason (value : ReasonCode) : Bytes := putU16 value.code

theorem decodes_reason (value : ReasonCode) : Decodes reason (putReason value) value := by
  refine (decodes_u16 _).last ?_
  rw [ReasonCode.ofCode_code]
  exact Decodes.pure _

@[simp] theorem putReason_length (value : ReasonCode) : (putReason value).length = 2 :=
  putU16_length _

inductive ErrorCode
  | ok | invalidArgument | notFound | conflict | staleAuthority | fenced | limitExceeded
  | journalFailure | backendFailure | unsupported | shuttingDown | denied | unknown
  deriving DecidableEq

structure Error where
  code : ErrorCode
  reason : ReasonCode
  message : String
  deriving DecidableEq

/-- A missing error is success. -/
abbrev Status := Option Error

end RateGovernor.Model.Reason
