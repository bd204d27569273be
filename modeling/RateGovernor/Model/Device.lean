import RateGovernor.Model.Execution

namespace RateGovernor.Model.Device

open CheckedMath Identity Calls Execution

/-- What the device is asked to do, as far as its table of entries depends on it. -/
inductive Work
  | apply (attempt : EnforcementAttemptId) (envelope : RateEnvelopeId)
  | revoke (attempt : EnforcementAttemptId) (envelope : RateEnvelopeId)
  deriving DecidableEq

def applyWork (request : ApplyRequest) : Work := .apply request.attempt request.envelope

def revokeWork (request : RevokeRequest) : Work := .revoke request.attempt request.envelope

/-- The table holds at most one entry for an envelope; a revoke of an absent one succeeds too. -/
def Work.execute (table : List U64) : Work → List U64
  | .apply _ envelope => table.insert envelope.value
  | .revoke _ envelope => table.filter (· ≠ envelope.value)

/-- The engine and the one device every session of it reaches: the envelopes the device holds an
entry for, the work it has executed, and the work it has accepted to complete later. -/
structure Plant where
  system : System
  table : List U64 := []
  executed : List Work := []
  accepted : List Work := []

/-- What happens next: something at the engine, or the device executes or gives up some work. -/
inductive Move
  | engine (action : Action)
  | perform (work : Work)
  | withdraw (work : Work)

/-- The work a call has dispatched and waits for. -/
def dispatchedWork : Call → Option Work
  | .applying task _ => some (applyWork task.request)
  | .revoking task _ => some (revokeWork task.request)
  | _ => none

/-- The envelope a call reads back from the device. -/
def probedEnvelope : Call → Option RateEnvelopeId
  | .applyVerifying task _ (some _) => some task.request.envelope
  | .revokeVerifying _ _ probe (some _) _ => some probe.envelope
  | .probing _ probe => some probe.request.envelope
  | _ => none

def Plant.outstanding (plant : Plant) : List Work :=
  plant.system.calls.filterMap dispatchedWork ++ plant.accepted

/-- Completed means executed, a failed dispatch may have been executed or not, and pending work
may still be. Any other answer means that it was not. -/
def truthfulDispatch (executed : List Work) (work : Work) : DispatchStatus → Bool
  | .completed => work ∈ executed
  | .failed | .pending => true
  | .unknown | .rejected | .unsupported => work ∉ executed

def truthfulReadBack (table : List U64) (envelope : RateEnvelopeId)
    (verification : VerificationOutcome) : Bool :=
  verification.status ≠ .confirmed || verification.observedPresent = (envelope.value ∈ table)

/-- The device answers truthfully. What a caller of `complete_apply` or `complete_revoke` reports
is not its answer. -/
def Plant.truthful (plant : Plant) : Event → Bool
  | .dispatched call outcome => match plant.system.calls[call]? >>= dispatchedWork with
    | none => true
    | some work => truthfulDispatch plant.executed work outcome.status
  | .readBack call verification _ => match plant.system.calls[call]? >>= probedEnvelope with
    | none => true
    | some envelope => truthfulReadBack plant.table envelope verification
  | _ => true

/-- The work that stays with the device after a pending answer. -/
def Plant.left (plant : Plant) : Event → List Work
  | .dispatched call outcome =>
    if outcome.status = .pending then (plant.system.calls[call]? >>= dispatchedWork).toList else []
  | _ => []

def Plant.step (plant : Plant) : Move → Option Plant
  | .engine action =>
    if plant.truthful action.event then
      (Execution.step plant.system action).map fun system ↦
        { plant with system, accepted := plant.accepted ++ plant.left action.event }
    else none
  | .perform work =>
    if work ∈ plant.outstanding ∧ work ∉ plant.executed then
      some { plant with
        table := work.execute plant.table, executed := work :: plant.executed }
    else none
  | .withdraw work =>
    if work ∈ plant.accepted then some { plant with accepted := plant.accepted.erase work }
    else none

/-- A new engine, and a device that holds nothing and has been asked for nothing. -/
def Plant.Initial (plant : Plant) : Prop :=
  ∃ system, Fresh system ∧ plant = { system }

end RateGovernor.Model.Device
