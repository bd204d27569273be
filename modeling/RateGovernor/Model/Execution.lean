import RateGovernor.Foundation.GuardedRun
import RateGovernor.Model.Maintenance

namespace RateGovernor.Model.Execution

open CheckedMath Identity Reason Entities Envelope JournalWriter EngineState Durability Authority
open Calls Lifecycle Completion Revocation Maintenance Foundation.GuardedRun

/-- The constructor: the journal's banner is written when there is a journal to write it to. -/
def construct (config : EngineConfig) (backend : Option Backend) (session : Session)
    (journal : Option JournalFile) (io : Io) : Engine × Io :=
  let epoch := if config.initialEpoch.valid then config.initialEpoch else ⟨1⟩
  let config := config.normalized
  let tables : Tables := { epoch }
  let control : Control := match backend with
    | none => {}
    | some _ =>
      { backend, backendSessionEpoch := session.epoch
        backendBound := session.live && session.epoch = epoch }
  let durability : Durability := { journal }
  match journal with
  | none => ({ config, control, tables, durability }, io)
  | some file =>
    if file.isOpen && config.durability = .strict then
      let banner := Staged.record config.boot (.epoch epoch .engineShutdown)
      let committed := commitRecords config tables durability [banner] io
      ({ config, control, tables, durability := committed.durability }, committed.io)
    else ({ config, control, tables, durability }, io)

/-- One engine and the operations that are between two of their critical sections. -/
structure System where
  engine : Engine
  calls : List Call := []

/-- What can happen next: a critical section of a public operation, or something a call waits for
without the lock. Clock readings and backend answers come with the event, and calls are named by
their position. -/
inductive Event
  | putFlow (flow : Flow)
  | putGrant (grant : Grant)
  | putReservation (reservation : Reservation)
  | putPolicy (policy : Policy)
  | putResource (resource : Resource)
  | putBackend (backend : BackendDescriptor)
  | changeGrantState (id : GrantId) (generation : Generation) (state : GrantState)
      (actor : ActorContext)
  | changeReservationState (id : ReservationId) (generation : Generation)
      (state : ReservationState) (actor : ActorContext)
  | changePolicyState (id : PolicyId) (generation : Generation) (state : PolicyState)
      (actor : ActorContext)
  | changeResourceState (id : ResourceId) (generation : Generation) (state : ResourceState)
      (actor : ActorContext)
  | advanceEpoch (epoch : FabricEpoch) (actor : ActorContext) (now : U64)
  | bindBackend (backend : Option Backend) (sessionEpoch : FabricEpoch) (session : Session)
  | openEnvelope (request : EnvelopeRequest) (actor : ActorContext) (now : U64)
  | authorize (id : RateEnvelopeId) (actor : ActorContext) (now : U64)
  | apply (id : RateEnvelopeId) (actor : ActorContext) (now : U64) (session : Session)
  | completeApply (attempt : EnforcementAttemptId) (report : CompletionReport)
      (actor : ActorContext)
  | revoke (id : RateEnvelopeId) (reason : ReasonCode) (actor : ActorContext) (now : U64)
      (session : Session)
  | completeRevoke (attempt : EnforcementAttemptId) (report : CompletionReport)
      (actor : ActorContext)
  | cancelAttempt (attempt : EnforcementAttemptId) (reason : ReasonCode) (actor : ActorContext)
      (now : U64)
  | abandonAttempt (attempt : EnforcementAttemptId) (reason : ReasonCode) (actor : ActorContext)
      (now : U64)
  | consumeBurst (id : RateEnvelopeId) (tokens now : U64)
  | tick (now : U64) (session : Session)
  | revalidateAll (actor : ActorContext) (now : U64)
  | markSessionLost (actor : ActorContext)
  | shutdown (now : U64)
  | dispatched (call : ℕ) (outcome : DispatchOutcome)
  | readClock (call : ℕ) (now : U64)
  | finish (call : ℕ)
  | readBack (call : ℕ) (verification : VerificationOutcome) (now : U64)
  | publish (call : ℕ) (clock : U64)
  | revalidateNext (call : ℕ) (now : U64) (session : Session)

structure Action where
  event : Event
  io : Io := []

/-- A decision whose reply is the list of calls that are then outstanding. -/
abbrev Section := Decision (List Call)

def Decision.map {ρ σ : Type} (f : ρ → σ) (decision : Decision ρ) : Decision σ :=
  { decision with reply := fun status ↦ f (decision.reply status) }

/-- An operation of one section. -/
def once {ρ : Type} (system : System) (decision : Decision ρ) : Section :=
  Decision.map (fun _ ↦ system.calls) decision

/-- The first section of an operation that may go on. -/
def begun {ρ : Type} (system : System) (decision : Decision (ρ × Option Call)) : Section :=
  Decision.map (fun reply ↦ system.calls ++ reply.2.toList) decision

/-- Replaces a call by what it goes on as, or removes it. -/
def replaceCall (calls : List Call) (index : ℕ) : Option Call → List Call
  | none => calls.eraseIdx index
  | some call => calls.set index call

def resumed {ρ : Type} (system : System) (index : ℕ) (decision : Decision (ρ × Option Call)) :
    Section :=
  Decision.map (fun reply ↦ replaceCall system.calls index reply.2) decision

/-- A call moves on with no section: the engine is left alone. -/
def moved (system : System) (index : ℕ) (call : Call) : Section :=
  conclude system.engine.control (system.calls.set index call)

/-- What the readback phase records; with no backend to ask, the effect is unknown. -/
def verificationBy (backend : Option Backend) (verification : VerificationOutcome) :
    VerificationOutcome :=
  if backend.isSome then verification else unboundVerification

section Advance

def onDispatched (system : System) (index : ℕ) (outcome : DispatchOutcome) : Call → Option Section
  | .applying task _ => some (moved system index (.applyReported task (applyReport outcome)))
  | .revoking task _ => some (moved system index (.revokeReported task (revokeReport outcome)))
  | _ => none

def onReadClock (system : System) (index : ℕ) (now : U64) : Call → Option Section
  | .applyReported task report => some (moved system index (.applyFinishing task report now))
  | .revokeReported task report => some (moved system index (.revokeFinishing task report now))
  | _ => none

def onFinish (system : System) (index : ℕ) : Call → Option Section
  | .applyFinishing task report now =>
    some (resumed system index (finishApply system.engine task report now))
  | .revokeFinishing task report now =>
    some (resumed system index (finishRevoke system.engine task report now))
  | _ => none

def onReadBack (system : System) (index : ℕ) (verification : VerificationOutcome) (clock : U64) :
    Call → Option Section
  | .applyVerifying task now backend =>
    some (moved system index
      (.applyPublishing task now backend (verificationBy backend verification)))
  | .revokeVerifying task now _ backend seen =>
    some (moved system index
      (.revokePublishing task now backend (verificationBy backend verification) seen))
  | .probing sweep probe => some (moved system index (.recording sweep probe verification clock))
  | _ => none

def onPublish (system : System) (index : ℕ) (clock : U64) : Call → Option Section
  | .applyPublishing task now _ verification =>
    some (resumed system index (publishApply system.engine task now verification))
  | .revokePublishing task now _ verification seen =>
    some (resumed system index (publishRevoke system.engine task now verification seen))
  | .recording sweep probe verification now =>
    some (resumed system index
      (revalidateRecord system.engine sweep probe verification now clock))
  | _ => none

def onRevalidateNext (system : System) (index : ℕ) (now : U64) (session : Session) :
    Call → Option Section
  | .sweeping sweep => some (resumed system index (revalidateNext system.engine sweep now session))
  | _ => none

end Advance

/-- The section an event runs, where it is enabled. -/
def sectionOf (system : System) : Event → Option Section
  | .putFlow flow => some (once system (putFlow system.engine flow))
  | .putGrant grant => some (once system (putGrant system.engine grant))
  | .putReservation reservation => some (once system (putReservation system.engine reservation))
  | .putPolicy policy => some (once system (putPolicy system.engine policy))
  | .putResource resource => some (once system (putResource system.engine resource))
  | .putBackend backend => some (once system (putBackend system.engine backend))
  | .changeGrantState id generation state actor =>
    some (once system (changeGrantState system.engine id generation state actor))
  | .changeReservationState id generation state actor =>
    some (once system (changeReservationState system.engine id generation state actor))
  | .changePolicyState id generation state actor =>
    some (once system (changePolicyState system.engine id generation state actor))
  | .changeResourceState id generation state actor =>
    some (once system (changeResourceState system.engine id generation state actor))
  | .advanceEpoch epoch actor now =>
    some (once system (advanceEpoch system.engine epoch actor now))
  | .bindBackend backend sessionEpoch session =>
    some (once system (bindBackend system.engine backend sessionEpoch session))
  | .openEnvelope request actor now =>
    some (begun system (openEnvelope system.engine request actor now))
  | .authorize id actor now => some (begun system (authorize system.engine id actor now))
  | .apply id actor now session => some (begun system (apply system.engine id actor now session))
  | .completeApply attempt report actor =>
    some (begun system (completeApply system.engine attempt report actor))
  | .revoke id reason actor now session =>
    some (begun system (revoke system.engine id reason actor now session))
  | .completeRevoke attempt report actor =>
    some (begun system (completeRevoke system.engine attempt report actor))
  | .cancelAttempt attempt reason actor now =>
    some (once system (cancelAttempt system.engine attempt reason actor now))
  | .abandonAttempt attempt reason actor now =>
    some (once system (abandonAttempt system.engine attempt reason actor now))
  | .consumeBurst id tokens now => some (begun system (consumeBurst system.engine id tokens now))
  | .tick now session => some (once system (tick system.engine now session))
  | .revalidateAll actor now => some (begun system (revalidateAll system.engine actor now))
  | .markSessionLost actor => some (once system (markSessionLost system.engine actor))
  | .shutdown now => some (once system (shutdown system.engine now))
  | .dispatched call outcome => system.calls[call]? >>= onDispatched system call outcome
  | .readClock call now => system.calls[call]? >>= onReadClock system call now
  | .finish call => system.calls[call]? >>= onFinish system call
  | .readBack call verification now => system.calls[call]? >>= onReadBack system call verification now
  | .publish call clock => system.calls[call]? >>= onPublish system call clock
  | .revalidateNext call now session => system.calls[call]? >>= onRevalidateNext system call now session

def performed (system : System) (io : Io) (decision : Section) : System :=
  let result := decision.perform system.engine io
  { engine := result.1, calls := result.2.1 }

def step (system : System) (action : Action) : Option System :=
  (sectionOf system action.event).map (performed system action.io)

/-- A system whose engine has just been constructed. -/
def Fresh (system : System) : Prop :=
  ∃ config backend session journal io,
    system = { engine := (construct config backend session journal io).1 }

end RateGovernor.Model.Execution
