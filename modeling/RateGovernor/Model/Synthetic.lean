import RateGovernor.Model.Calls

namespace RateGovernor.Model.Synthetic

open CheckedMath Identity Reason Entities Calls Foundation.KeyedTable

/-- A limit of zero is not declared; a count of zero injects nothing. -/
structure SyntheticDeviceConfig where
  maxRateUps : U64 := 0
  maxBurstTokens : U64 := 0
  envelopeLimit : U64 := 4096
  failEveryNthApply : U64 := 0
  refuseEveryNthVerify : U64 := 0
  underreportEveryNthVerify : U64 := 0
  overreportEveryNthVerify : U64 := 0
  refuseAllApplies : Bool := false
  refuseAllVerifies : Bool := false

structure SyntheticEntry where
  envelope : RateEnvelopeId := {}
  generation : Generation := {}
  rateUps : U64 := 0
  burstTokens : U64 := 0
  epoch : FabricEpoch := {}
  boot : WorkerBootId := {}
  applies : U64 := 0
  revokes : U64 := 0

structure DeviceAccounting where
  applies : U64 := 0
  revokes : U64 := 0
  verifications : U64 := 0
  refusals : U64 := 0
  underDeliveries : U64 := 0
  overDeliveries : U64 := 0
  injectionTriggers : U64 := 0
  entriesPeak : U64 := 0
  epochAdvances : U64 := 0
  tableClears : U64 := 0
  fencedStaleEpoch : U64 := 0
  fencedStaleBoot : U64 := 0
  limitRejections : U64 := 0

def entryKey (entry : SyntheticEntry) : U64 := entry.envelope.value

structure SyntheticDevice where
  config : SyntheticDeviceConfig
  boot : WorkerBootId
  highestEpoch : FabricEpoch
  admittedBoot : WorkerBootId
  table : Registry SyntheticEntry entryKey := .empty
  accounting : DeviceAccounting := {}
  applyCalls : U64 := 0
  verifyCalls : U64 := 0

/-- A device made with no room at all gets room for one envelope. -/
def newDevice (config : SyntheticDeviceConfig) (boot : WorkerBootId) (epoch : FabricEpoch)
    (admittedBoot : WorkerBootId) : SyntheticDevice where
  config := if config.envelopeLimit = 0 then { config with envelopeLimit := 1 } else config
  boot := boot
  highestEpoch := epoch
  admittedBoot := admittedBoot

def countFence (accounting : DeviceAccounting) (reason : ReasonCode) : DeviceAccounting :=
  if reason = .backendFencedStaleEpoch then
    { accounting with fencedStaleEpoch := accounting.fencedStaleEpoch + 1 }
  else { accounting with fencedStaleBoot := accounting.fencedStaleBoot + 1 }

namespace SyntheticDevice

/-- Admits the incarnation, or answers with the reason of the refusal. -/
def admitIncarnation (device : SyntheticDevice) (epoch : FabricEpoch) (boot : WorkerBootId) :
    Option ReasonCode × SyntheticDevice :=
  if epoch.value < device.highestEpoch.value then
    (some .backendFencedStaleEpoch,
      { device with accounting := countFence device.accounting .backendFencedStaleEpoch })
  else if epoch = device.highestEpoch then
    if device.admittedBoot.valid && boot ≠ device.admittedBoot then
      (some .backendFencedStaleBoot,
        { device with accounting := countFence device.accounting .backendFencedStaleBoot })
    else (none, { device with admittedBoot := boot })
  else
    (none,
      { device with
        table := .empty
        highestEpoch := epoch
        admittedBoot := boot
        accounting :=
          { device.accounting with
            epochAdvances := device.accounting.epochAdvances + 1
            tableClears := device.accounting.tableClears + 1 } })

end SyntheticDevice

/-- The reason to fence a request, if there is one. -/
def incarnationOk (requestEpoch highest : FabricEpoch) (requestBoot admittedBoot : WorkerBootId) :
    Option ReasonCode :=
  if requestEpoch.value < highest.value then some .backendFencedStaleEpoch
  else if highest.value < requestEpoch.value then some .backendFencedStaleEpoch
  else if requestBoot ≠ admittedBoot then some .backendFencedStaleBoot
  else none

def isNth (calls every : U64) : Bool := every ≠ 0 && calls % every = 0

namespace SyntheticDevice

def dispatchOutcome (device : SyntheticDevice) (status : DispatchStatus) (reason : ReasonCode)
    (detail : Text) : DispatchOutcome :=
  { epoch := device.highestEpoch, boot := device.boot, status, reason, detail }

/-- A refusal leaves the table alone. -/
def refuse (device : SyntheticDevice) (reason : ReasonCode) (detail : Text) :
    DispatchOutcome × SyntheticDevice :=
  (device.dispatchOutcome .rejected reason detail,
    { device with
      accounting := { device.accounting with refusals := device.accounting.refusals + 1 } })

/-- A refusal because of a declared limit or a full table. -/
def refuseLimit (device : SyntheticDevice) (detail : Text) : DispatchOutcome × SyntheticDevice :=
  refuse
    { device with
      accounting :=
        { device.accounting with limitRejections := device.accounting.limitRejections + 1 } }
    .capacityLimitExceeded detail

/-- A refusal of a request of another incarnation. -/
def refuseFenced (device : SyntheticDevice) (reason : ReasonCode) (detail : Text) :
    DispatchOutcome × SyntheticDevice :=
  refuse { device with accounting := countFence device.accounting reason } reason detail

/-- The entry an apply leaves, which counts on from the one it replaces. -/
def appliedEntry (device : SyntheticDevice) (request : ApplyRequest) : SyntheticEntry :=
  let existing := (device.table.find request.envelope.value).getD {}
  { existing with
    envelope := request.envelope
    generation := request.envelopeGeneration
    rateUps := request.rateUps
    burstTokens := request.burstTokens
    epoch := device.highestEpoch
    boot := device.boot
    applies := existing.applies + 1 }

def holdEntry (device : SyntheticDevice) (request : ApplyRequest) :
    DispatchOutcome × SyntheticDevice :=
  let entry := device.appliedEntry request
  let table := device.table.put entry
  let counted := { device.accounting with applies := device.accounting.applies + 1 }
  let accounting :=
    if counted.entriesPeak.toNat < table.size then
      { counted with entriesPeak := UInt64.ofNat table.size }
    else counted
  ({ device.dispatchOutcome .completed .applyAcknowledged (ascii "device holds the envelope") with
      appliedRateUps := entry.rateUps, appliedBurstTokens := entry.burstTokens },
    { device with table, accounting })

def apply (device : SyntheticDevice) (request : ApplyRequest) :
    DispatchOutcome × SyntheticDevice :=
  let device := { device with applyCalls := device.applyCalls + 1 }
  match incarnationOk request.epoch device.highestEpoch request.boot device.admittedBoot with
  | some reason =>
    device.refuseFenced reason (ascii "device refused a request from a fenced incarnation")
  | none =>
    if !request.envelope.valid || !request.envelopeGeneration.valid then
      device.refuse .malformedInput (ascii "device refused an apply with an unusable binding")
    else if device.config.refuseAllApplies then
      device.refuse .applyBackendFailed (ascii "device configured to refuse all applies")
    else if isNth device.applyCalls device.config.failEveryNthApply then
      (device.dispatchOutcome .failed .applyBackendFailed (ascii "injected apply failure"),
        { device with
          accounting :=
            { device.accounting with
              injectionTriggers := device.accounting.injectionTriggers + 1 } })
    else if device.config.maxRateUps ≠ 0 ∧ device.config.maxRateUps < request.rateUps then
      device.refuseLimit (ascii "requested rate exceeds the declared device maximum")
    else if device.config.maxBurstTokens ≠ 0 ∧
        device.config.maxBurstTokens < request.burstTokens then
      device.refuseLimit (ascii "requested burst exceeds the declared device maximum")
    else if (device.table.find request.envelope.value).isNone ∧
        device.config.envelopeLimit.toNat ≤ device.table.size then
      device.refuseLimit (ascii "device envelope table is full")
    else device.holdEntry request

def revoke (device : SyntheticDevice) (request : RevokeRequest) :
    DispatchOutcome × SyntheticDevice :=
  match incarnationOk request.epoch device.highestEpoch request.boot device.admittedBoot with
  | some reason =>
    device.refuseFenced reason (ascii "device refused a revoke from a fenced incarnation")
  | none =>
    (device.dispatchOutcome .completed .revokeVerified
        (ascii "device holds no envelope for this binding"),
      { device with
        table := device.table.remove request.envelope.value
        accounting := { device.accounting with revokes := device.accounting.revokes + 1 } })

def verificationOutcome (device : SyntheticDevice) (status : VerificationStatus)
    (reason : ReasonCode) (detail : Text) : VerificationOutcome :=
  { epoch := device.highestEpoch, boot := device.boot, status, reason, detail }

/-- What a readback reports of an entry: what it holds, nothing, or one unit too much. -/
def reportEntry (device : SyntheticDevice) (entry : SyntheticEntry) :
    VerificationOutcome × SyntheticDevice :=
  let outcome : VerificationOutcome :=
    { device.verificationOutcome .confirmed .applyVerified [] with
      observedPresent := true
      observedRateUps := entry.rateUps
      observedBurstTokens := entry.burstTokens }
  let accounting := device.accounting
  if isNth device.verifyCalls device.config.underreportEveryNthVerify then
    ({ outcome with
        observedRateUps := 0
        observedBurstTokens := 0
        reason := .applyUnderDelivered
        detail := ascii "injected under-delivery readback" },
      { device with
        accounting :=
          { accounting with
            underDeliveries := accounting.underDeliveries + 1
            injectionTriggers := accounting.injectionTriggers + 1 } })
  else if isNth device.verifyCalls device.config.overreportEveryNthVerify then
    ({ outcome with
        observedRateUps := saturatingAdd outcome.observedRateUps 1
        reason := .applyOverDeliveredRevoking
        detail := ascii "injected over-delivery readback" },
      { device with
        accounting :=
          { accounting with
            overDeliveries := accounting.overDeliveries + 1
            injectionTriggers := accounting.injectionTriggers + 1 } })
  else (outcome, device)

def readBack (device : SyntheticDevice) (request : ApplyRequest) :
    VerificationOutcome × SyntheticDevice :=
  let device := { device with verifyCalls := device.verifyCalls + 1 }
  match incarnationOk request.epoch device.highestEpoch request.boot device.admittedBoot with
  | some reason =>
    (device.verificationOutcome .failed reason
      (ascii "device refused a readback from a fenced incarnation"), device)
  | none =>
    if device.config.refuseAllVerifies ||
        isNth device.verifyCalls device.config.refuseEveryNthVerify then
      (device.verificationOutcome .failed .applyVerificationUnknown
          (ascii "injected readback failure"),
        { device with
          accounting :=
            { device.accounting with
              injectionTriggers := device.accounting.injectionTriggers + 1 } })
    else
      let device :=
        { device with
          accounting :=
            { device.accounting with verifications := device.accounting.verifications + 1 } }
      let absent := device.verificationOutcome .confirmed .revokeVerified
        (ascii "device holds no envelope for this binding generation")
      match device.table.find request.envelope.value with
      | none => (absent, device)
      | some entry =>
        if entry.generation ≠ request.envelopeGeneration then (absent, device)
        else device.reportEntry entry

end SyntheticDevice

/-- A call into the device by any coordinator. -/
inductive DeviceCall
  | admitIncarnation (epoch : FabricEpoch) (boot : WorkerBootId)
  | apply (request : ApplyRequest)
  | revoke (request : RevokeRequest)
  | readBack (request : ApplyRequest)

/-- The epoch a request is stamped with; an admission is no request. -/
def DeviceCall.stamp : DeviceCall → Option FabricEpoch
  | .admitIncarnation _ _ => none
  | .apply request | .readBack request => some request.epoch
  | .revoke request => some request.epoch

/-- The boot id a request is stamped with. -/
def DeviceCall.sender : DeviceCall → Option WorkerBootId
  | .admitIncarnation _ _ => none
  | .apply request | .readBack request => some request.boot
  | .revoke request => some request.boot

/-- An apply or revoke is completed, or a readback confirmed. -/
def SyntheticDevice.accepts (device : SyntheticDevice) : DeviceCall → Bool
  | .admitIncarnation _ _ => false
  | .apply request => (device.apply request).1.status = .completed
  | .revoke request => (device.revoke request).1.status = .completed
  | .readBack request => (device.readBack request).1.status = .confirmed

/-- The device after a call. -/
def SyntheticDevice.after (device : SyntheticDevice) : DeviceCall → SyntheticDevice
  | .admitIncarnation epoch boot => (device.admitIncarnation epoch boot).2
  | .apply request => (device.apply request).2
  | .revoke request => (device.revoke request).2
  | .readBack request => (device.readBack request).2

def SyntheticDevice.afterAll (device : SyntheticDevice) (calls : List DeviceCall) :
    SyntheticDevice :=
  calls.foldl after device

end RateGovernor.Model.Synthetic
