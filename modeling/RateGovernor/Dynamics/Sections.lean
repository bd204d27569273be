import RateGovernor.Dynamics.Install

namespace RateGovernor.Dynamics.Sections

open Model.CheckedMath Model.Identity Model.Reason Model.Entities Model.Envelope Model.EngineState
open Model.Durability Model.Authority Model.Calls Model.Lifecycle Model.Completion
open Model.Revocation Model.Maintenance Model.Execution Foundation.KeyedTable

section Admission

/-- What `apply` has checked when it derives the plan. -/
structure ApplyAdmitted (s : System) (id : RateEnvelopeId) (now : U64) (session : Session)
    (envelope : RateEnvelope) (backend : Backend) : Prop where
  running : s.engine.control.shuttingDown = false
  found : s.engine.tables.envelopes.find id.value = some envelope
  live : envelope.state ≠ .revoked
  cooled : envelope.cooldownUntilNs = 0 ∨ envelope.cooldownUntilNs ≤ now
  idle : inflightWithKey s.engine.tables
    (computeIdempotencyKey envelope.id envelope.generation .apply) = none
  bound : s.engine.control.backend = some backend
  admitted : s.engine.control.backendBound = true
  identity : backend.describe.id = envelope.backend
  generation : backend.describe.generation = envelope.backendGeneration

structure RevokeAdmitted (s : System) (id : RateEnvelopeId) (envelope : RateEnvelope)
    (backend : Backend) : Prop where
  running : s.engine.control.shuttingDown = false
  found : s.engine.tables.envelopes.find id.value = some envelope
  live : envelope.state ≠ .revoked
  idle : inflightWithKey s.engine.tables
    (computeIdempotencyKey envelope.id envelope.generation .revoke) = none
  bound : s.engine.control.backend = some backend
  admitted : s.engine.control.backendBound = true

/-- An apply completion that has found its attempt and its envelope. -/
structure ApplyFinishing (s : System) (i : ℕ) (task : ApplyTask) (report : CompletionReport)
    (now : U64) (attempt : EnforcementAttempt) (envelope : RateEnvelope) : Prop where
  call : s.calls[i]? = some (.applyFinishing task report now)
  storedAttempt : s.engine.tables.attempts.find task.attempt.value = some attempt
  storedEnvelope : s.engine.tables.envelopes.find task.envelope.value = some envelope
  kind : attempt.kind = .apply
  unverified : attempt.state ≠ .verified
  fresh : attempt.state ≠ .duplicateIgnored

/-- An apply completion for an attempt in flight whose authorities are current. -/
structure ApplyAccepted (s : System) (i : ℕ) (task : ApplyTask) (report : CompletionReport)
    (now : U64) (attempt : EnforcementAttempt) (envelope : RateEnvelope) : Prop
    extends ApplyFinishing s i task report now attempt envelope where
  inflight : attemptInflight attempt.state = true
  boot : fencingBoot attempt report = false
  epoch : fencingEpoch s.engine.tables.epoch attempt report = false
  current : authorityStatus s.engine.tables envelope now = .none

theorem not_ended_of_inflight {attempt : EnforcementAttempt}
    (h : attemptInflight attempt.state = true) :
    attempt.state ≠ .verified ∧ attempt.state ≠ .duplicateIgnored := by
  constructor <;> (intro hstate; rw [hstate] at h; cases h)

theorem finishApply_accepted {engine : Engine} {task : ApplyTask} {report : CompletionReport}
    {now : U64} {attempt : EnforcementAttempt} {envelope : RateEnvelope}
    (hattempt : engine.tables.attempts.find task.attempt.value = some attempt)
    (henvelope : engine.tables.envelopes.find task.envelope.value = some envelope)
    (hkind : attempt.kind = .apply) (hlive : attemptInflight attempt.state = true)
    (hboot : fencingBoot attempt report = false)
    (hepoch : fencingEpoch engine.tables.epoch attempt report = false)
    (hcurrent : authorityStatus engine.tables envelope now = .none) :
    finishApply engine task report now = acceptApply engine task envelope attempt report now := by
  obtain ⟨hverified, hduplicate⟩ := not_ended_of_inflight hlive
  unfold finishApply
  rw [hattempt, henvelope]
  simp only [hkind, hlive, hboot, hepoch, hcurrent, hverified, hduplicate, ne_eq, not_true,
    if_false, decide_false, Bool.not_true, Bool.or_self, Bool.false_eq_true]

structure ApplyPublishing (s : System) (i : ℕ) (task : ApplyTask) (now : U64)
    (backend : Option Backend) (verification : VerificationOutcome)
    (attempt : EnforcementAttempt) (envelope : RateEnvelope) : Prop where
  call : s.calls[i]? = some (.applyPublishing task now backend verification)
  storedAttempt : s.engine.tables.attempts.find task.attempt.value = some attempt
  storedEnvelope : s.engine.tables.envelopes.find task.envelope.value = some envelope

/-- A readback that is judged: its attempt is acknowledged and its authorities are current. -/
structure ApplyJudged (s : System) (i : ℕ) (task : ApplyTask) (now : U64)
    (backend : Option Backend) (verification : VerificationOutcome)
    (attempt : EnforcementAttempt) (envelope : RateEnvelope) : Prop
    extends ApplyPublishing s i task now backend verification attempt envelope where
  acknowledged : attempt.state = .acknowledged
  current : authorityStatus s.engine.tables envelope now = .none
  epoch : attempt.fingerprint.epoch = s.engine.tables.epoch

structure RevokeFinishing (s : System) (i : ℕ) (task : RevokeTask) (report : CompletionReport)
    (now : U64) (attempt : EnforcementAttempt) (envelope : RateEnvelope) : Prop where
  call : s.calls[i]? = some (.revokeFinishing task report now)
  storedAttempt : s.engine.tables.attempts.find task.attempt.value = some attempt
  storedEnvelope : s.engine.tables.envelopes.find task.envelope.value = some envelope
  kind : attempt.kind = .revoke
  unverified : attempt.state ≠ .verified
  fresh : attempt.state ≠ .duplicateIgnored

structure RevokePublishing (s : System) (i : ℕ) (task : RevokeTask) (now : U64)
    (backend : Option Backend) (verification : VerificationOutcome) (seen : EnvelopeState)
    (attempt : EnforcementAttempt) (envelope : RateEnvelope) : Prop where
  call : s.calls[i]? = some (.revokePublishing task now backend verification seen)
  storedAttempt : s.engine.tables.attempts.find task.attempt.value = some attempt
  storedEnvelope : s.engine.tables.envelopes.find task.envelope.value = some envelope

/-- A revalidation readback whose envelope still wants one. -/
structure Revalidating (s : System) (i : ℕ) (sweep : Sweep) (probe : Probe)
    (verification : VerificationOutcome) (now clock : U64) (envelope : RateEnvelope) : Prop where
  call : s.calls[i]? = some (.recording sweep probe verification now)
  storedEnvelope : s.engine.tables.envelopes.find probe.id.value = some envelope
  wanted : needsRevalidation envelope clock = true

/-- An attempt that is in flight, and the envelope it names. -/
structure InFlight (s : System) (id : EnforcementAttemptId) (attempt : EnforcementAttempt) : Prop where
  storedAttempt : s.engine.tables.attempts.find id.value = some attempt
  inflight : attemptInflight attempt.state = true

end Admission

def planNow (s : System) (envelope : RateEnvelope) (now : U64) : EffectivePlan :=
  (derivePlanLocked s.engine envelope now).plan

def maintained (tables : Tables) (envelope : RateEnvelope) (now : U64) : RateEnvelope :=
  let cooled := cooldownStage (refillStage envelope now).1 now
  { staleStage cooled (authorityStatus tables cooled now) with updatedNs := now }

/-- The objects each event can stage, and what the section has checked when it does. -/
inductive Stages (s : System) : Event → Staged → Prop
  | flow {flow : Flow} (newer : ∀ old, s.engine.tables.flows.find flow.id.value = some old →
      old.generation.value < flow.generation.value) : Stages s (.putFlow flow) (.flow flow)
  | grant {grant : Grant} (newer : ∀ old, s.engine.tables.grants.find grant.id.value = some old →
      old.generation.value < grant.generation.value) :
      Stages s (.putGrant grant) (.grant .grantPut grant)
  | reservation {reservation : Reservation}
      (newer : ∀ old, s.engine.tables.reservations.find reservation.id.value = some old →
        old.generation.value < reservation.generation.value) :
      Stages s (.putReservation reservation) (.reservation .reservationPut reservation)
  | policy {policy : Policy}
      (newer : ∀ old, s.engine.tables.policies.find policy.id.value = some old →
        old.generation.value < policy.generation.value) :
      Stages s (.putPolicy policy) (.policy .policyPut policy)
  | resource {resource : Resource}
      (newer : ∀ old, s.engine.tables.resources.find resource.id.value = some old →
        old.generation.value < resource.generation.value) :
      Stages s (.putResource resource) (.resource .resourcePut resource)
  | backend {backend : BackendDescriptor}
      (newer : ∀ old, s.engine.tables.backends.find backend.id.value = some old →
        old.generation.value < backend.generation.value) :
      Stages s (.putBackend backend) (.backend backend)
  | grantState {id : GrantId} {state : GrantState} {actor : ActorContext} {old : Grant}
      (found : s.engine.tables.grants.find id.value = some old) :
      Stages s (.changeGrantState id old.generation state actor) (.grant .grantStateChange
        { old with generation := ⟨old.generation.value + 1⟩, state, provenance := actor.provenance })
  | reservationState {id : ReservationId} {state : ReservationState} {actor : ActorContext}
      {old : Reservation} (found : s.engine.tables.reservations.find id.value = some old) :
      Stages s (.changeReservationState id old.generation state actor)
        (.reservation .reservationStateChange { old with
          generation := ⟨old.generation.value + 1⟩, state, provenance := actor.provenance })
  | policyState {id : PolicyId} {state : PolicyState} {actor : ActorContext} {old : Policy}
      (found : s.engine.tables.policies.find id.value = some old) :
      Stages s (.changePolicyState id old.generation state actor) (.policy .policyStateChange
        { old with generation := ⟨old.generation.value + 1⟩, state, provenance := actor.provenance })
  | resourceState {id : ResourceId} {state : ResourceState} {actor : ActorContext} {old : Resource}
      (found : s.engine.tables.resources.find id.value = some old) :
      Stages s (.changeResourceState id old.generation state actor)
        (.resource .resourceStateChange { old with
          generation := ⟨old.generation.value + 1⟩, state, provenance := actor.provenance })
  | epoch {epoch : FabricEpoch} {actor : ActorContext} {now : U64} (valid : epoch.valid = true)
      (newer : s.engine.tables.epoch.value < epoch.value) :
      Stages s (.advanceEpoch epoch actor now) (.epoch epoch .envelopeStaleFabricEpochAdvanced)
  | epochDemoted {epoch : FabricEpoch} {actor : ActorContext} {now : U64}
      {old envelope : RateEnvelope} (found : s.engine.tables.envelopes.find old.id.value = some old)
      (demoted : epochDemoted now old = some envelope) :
      Stages s (.advanceEpoch epoch actor now) (.envelope .envelopeStateChange envelope)
  | opened {request : EnvelopeRequest} {actor : ActorContext} {now : U64}
      (room : s.engine.tables.envelopes.size < s.engine.config.maxEnvelopes.toNat) :
      Stages s (.openEnvelope request actor now)
        (.envelope .envelopeOpened (openedEnvelope s.engine request now))
  | unauthorized {id : RateEnvelopeId} {actor : ActorContext} {now : U64} {envelope : RateEnvelope}
      {reason : ReasonCode} (found : s.engine.tables.envelopes.find id.value = some envelope)
      (epoch : s.engine.tables.epoch.valid = true)
      (refused : (derivePlanLocked s.engine envelope now).authorized = false) :
      Stages s (.authorize id actor now)
        (.envelope .envelopeStateChange (unauthorizedEnvelope envelope reason now))
  | authorized {id : RateEnvelopeId} {actor : ActorContext} {now : U64} {envelope : RateEnvelope}
      (found : s.engine.tables.envelopes.find id.value = some envelope)
      (plan : (derivePlanLocked s.engine envelope now).authorized = true) :
      Stages s (.authorize id actor now)
        (.envelope .envelopeAuthorized (authorizedEnvelope envelope (planNow s envelope now) now))
  | denied {id : RateEnvelopeId} {actor : ActorContext} {now : U64} {session : Session}
      {envelope : RateEnvelope} {backend : Backend} {reason : ReasonCode}
      (admitted : ApplyAdmitted s id now session envelope backend) :
      Stages s (.apply id actor now session)
        (.envelope .envelopeStateChange (deniedEnvelope envelope reason now))
  | planned {id : RateEnvelopeId} {actor : ActorContext} {now : U64} {session : Session}
      {envelope : RateEnvelope} {backend : Backend}
      (admitted : ApplyAdmitted s id now session envelope backend)
      (plan : (derivePlanLocked s.engine envelope now).authorized = true) :
      Stages s (.apply id actor now session)
        (.envelope .envelopeAuthorized (plannedEnvelope envelope (planNow s envelope now)))
  | createdApply {id : RateEnvelopeId} {actor : ActorContext} {now : U64} {session : Session}
      {envelope : RateEnvelope} {backend : Backend}
      (admitted : ApplyAdmitted s id now session envelope backend)
      (plan : (derivePlanLocked s.engine envelope now).authorized = true) :
      Stages s (.apply id actor now session)
        (.created (applyAttempt s.engine (plannedEnvelope envelope (planNow s envelope now))
          session.boot now))
  | dispatching {id : RateEnvelopeId} {actor : ActorContext} {now : U64} {session : Session}
      {envelope : RateEnvelope} {backend : Backend}
      (admitted : ApplyAdmitted s id now session envelope backend)
      (plan : (derivePlanLocked s.engine envelope now).authorized = true) :
      Stages s (.apply id actor now session) (.envelope .envelopeStateChange
        (dispatchingEnvelope (plannedEnvelope envelope (planNow s envelope now)) now))
  | lateFinishAttempt {i : ℕ} {task : ApplyTask} {report : CompletionReport} {now : U64}
      {attempt : EnforcementAttempt} {envelope : RateEnvelope} {reason : ReasonCode} {detail : Text}
      (finishing : ApplyFinishing s i task report now attempt envelope) :
      Stages s (.finish i) (.attempt .attemptTerminated
        (lateAttempt s.engine.config attempt reason report.acknowledged detail now))
  | lateFinishEnvelope {i : ℕ} {task : ApplyTask} {report : CompletionReport} {now : U64}
      {attempt : EnforcementAttempt} {envelope : RateEnvelope} {reason : ReasonCode}
      (finishing : ApplyFinishing s i task report now attempt envelope) :
      Stages s (.finish i) (.envelope .envelopeStateChange
        (lateEnvelope envelope reason report.acknowledged now))
  | dispatchedAttempt {i : ℕ} {task : ApplyTask} {report : CompletionReport} {now : U64}
      {attempt : EnforcementAttempt} {envelope : RateEnvelope}
      (accepted : ApplyAccepted s i task report now attempt envelope) :
      Stages s (.finish i) (.attempt .attemptDispatched (dispatchedAttempt attempt))
  | refusedApplyAttempt {i : ℕ} {task : ApplyTask} {report : CompletionReport} {now : U64}
      {attempt : EnforcementAttempt} {envelope : RateEnvelope}
      (accepted : ApplyAccepted s i task report now attempt envelope)
      (refused : report.acknowledged = false) :
      Stages s (.finish i)
        (.attempt .attemptTerminated (refusedApplyAttempt attempt report now))
  | refusedApplyEnvelope {i : ℕ} {task : ApplyTask} {report : CompletionReport} {now : U64}
      {attempt : EnforcementAttempt} {envelope : RateEnvelope}
      (accepted : ApplyAccepted s i task report now attempt envelope)
      (refused : report.acknowledged = false) (answered : report.status ≠ .pending) :
      Stages s (.finish i)
        (.envelope .envelopeStateChange (refusedApplyEnvelope envelope report now))
  | acknowledgedApply {i : ℕ} {task : ApplyTask} {report : CompletionReport} {now : U64}
      {attempt : EnforcementAttempt} {envelope : RateEnvelope}
      (accepted : ApplyAccepted s i task report now attempt envelope) :
      Stages s (.finish i)
        (.attempt .attemptAcknowledged (acknowledgedApply attempt report now))
  | latePublishAttempt {i : ℕ} {task : ApplyTask} {now clock : U64} {backend : Option Backend}
      {verification : VerificationOutcome} {attempt : EnforcementAttempt} {envelope : RateEnvelope}
      {reason : ReasonCode} {detail : Text}
      (publishing : ApplyPublishing s i task now backend verification attempt envelope) :
      Stages s (.publish i clock) (.attempt .attemptTerminated
        (lateAttempt s.engine.config attempt reason verification.observedPresent detail now))
  | latePublishEnvelope {i : ℕ} {task : ApplyTask} {now clock : U64} {backend : Option Backend}
      {verification : VerificationOutcome} {attempt : EnforcementAttempt} {envelope : RateEnvelope}
      {reason : ReasonCode}
      (publishing : ApplyPublishing s i task now backend verification attempt envelope) :
      Stages s (.publish i clock) (.envelope .envelopeStateChange
        (lateEnvelope envelope reason verification.observedPresent now))
  | judgedApplyAttempt {i : ℕ} {task : ApplyTask} {now clock : U64} {backend : Option Backend}
      {verification : VerificationOutcome} {attempt : EnforcementAttempt} {envelope : RateEnvelope}
      (judged : ApplyJudged s i task now backend verification attempt envelope) :
      Stages s (.publish i clock) (.attempt .attemptVerified (withDetail
        (judgeApply s.engine envelope attempt task.request verification now).attempt
        verification.detail))
  | judgedApplyEnvelope {i : ℕ} {task : ApplyTask} {now clock : U64} {backend : Option Backend}
      {verification : VerificationOutcome} {attempt : EnforcementAttempt} {envelope : RateEnvelope}
      (judged : ApplyJudged s i task now backend verification attempt envelope) :
      Stages s (.publish i clock) (.envelope .envelopeEffectRecorded
        (judgeApply s.engine envelope attempt task.request verification now).envelope)
  | createdRevoke {id : RateEnvelopeId} {reason : ReasonCode} {actor : ActorContext} {now : U64}
      {session : Session} {envelope : RateEnvelope} {backend : Backend}
      (admitted : RevokeAdmitted s id envelope backend) :
      Stages s (.revoke id reason actor now session)
        (.created (revokeAttempt s.engine envelope reason session.boot now))
  | revoking {id : RateEnvelopeId} {reason : ReasonCode} {actor : ActorContext} {now : U64}
      {session : Session} {envelope : RateEnvelope} {backend : Backend}
      (admitted : RevokeAdmitted s id envelope backend) :
      Stages s (.revoke id reason actor now session) (.envelope .envelopeStateChange
        (revokingEnvelope envelope
          (revokeAttempt s.engine envelope reason session.boot now).reason now))
  | lateFinishRevoke {i : ℕ} {task : RevokeTask} {report : CompletionReport} {now : U64}
      {attempt : EnforcementAttempt} {envelope : RateEnvelope} {reason : ReasonCode} {detail : Text}
      (finishing : RevokeFinishing s i task report now attempt envelope) :
      Stages s (.finish i) (.attempt .attemptTerminated (lateRevoke attempt reason detail now))
  | refusedRevokeAttempt {i : ℕ} {task : RevokeTask} {report : CompletionReport} {now : U64}
      {attempt : EnforcementAttempt} {envelope : RateEnvelope}
      (finishing : RevokeFinishing s i task report now attempt envelope)
      (inflight : attemptInflight attempt.state = true) (refused : report.acknowledged = false) :
      Stages s (.finish i)
        (.attempt .attemptTerminated (refusedRevokeAttempt attempt report now))
  | refusedRevokeEnvelope {i : ℕ} {task : RevokeTask} {report : CompletionReport} {now : U64}
      {attempt : EnforcementAttempt} {envelope : RateEnvelope}
      (finishing : RevokeFinishing s i task report now attempt envelope)
      (inflight : attemptInflight attempt.state = true) (refused : report.acknowledged = false) :
      Stages s (.finish i)
        (.envelope .envelopeStateChange (refusedRevokeEnvelope envelope report now))
  | acknowledgedRevoke {i : ℕ} {task : RevokeTask} {report : CompletionReport} {now : U64}
      {attempt : EnforcementAttempt} {envelope : RateEnvelope}
      (finishing : RevokeFinishing s i task report now attempt envelope)
      (inflight : attemptInflight attempt.state = true) :
      Stages s (.finish i)
        (.attempt .attemptAcknowledged (acknowledgedRevoke attempt report now))
  | latePublishRevoke {i : ℕ} {task : RevokeTask} {now clock : U64} {backend : Option Backend}
      {verification : VerificationOutcome} {seen : EnvelopeState} {attempt : EnforcementAttempt}
      {envelope : RateEnvelope} {reason : ReasonCode} {detail : Text}
      (publishing : RevokePublishing s i task now backend verification seen attempt envelope) :
      Stages s (.publish i clock)
        (.attempt .attemptTerminated (lateRevoke attempt reason detail now))
  | judgedRevokeAttempt {i : ℕ} {task : RevokeTask} {now clock : U64} {backend : Option Backend}
      {verification : VerificationOutcome} {seen : EnvelopeState} {attempt : EnforcementAttempt}
      {envelope : RateEnvelope}
      (publishing : RevokePublishing s i task now backend verification seen attempt envelope)
      (acknowledged : attempt.state = .acknowledged) :
      Stages s (.publish i clock) (.attempt .attemptVerified
        (withDetail (judgedRevokeAttempt attempt verification now) verification.detail))
  | judgedRevokeEnvelope {i : ℕ} {task : RevokeTask} {now clock : U64} {backend : Option Backend}
      {verification : VerificationOutcome} {seen : EnvelopeState} {attempt : EnforcementAttempt}
      {envelope : RateEnvelope}
      (publishing : RevokePublishing s i task now backend verification seen attempt envelope)
      (acknowledged : attempt.state = .acknowledged) :
      Stages s (.publish i clock) (.envelope .envelopeEffectRecorded
        (judgedRevokeEnvelope envelope (judgedRevokeAttempt attempt verification now).reason
          verification now))
  | cancelled {id : EnforcementAttemptId} {reason : ReasonCode} {actor : ActorContext} {now : U64}
      {attempt : EnforcementAttempt} (found : InFlight s id attempt) :
      Stages s (.cancelAttempt id reason actor now)
        (.attempt .attemptTerminated (cancelledAttempt attempt reason now))
  | abandonedAttempt {id : EnforcementAttemptId} {reason : ReasonCode} {actor : ActorContext}
      {now : U64} {attempt : EnforcementAttempt} (found : InFlight s id attempt) :
      Stages s (.abandonAttempt id reason actor now)
        (.attempt .attemptTerminated (abandonedAttempt attempt reason now))
  | abandonedEnvelope {id : EnforcementAttemptId} {reason : ReasonCode} {actor : ActorContext}
      {now : U64} {attempt : EnforcementAttempt} {envelope : RateEnvelope}
      (found : InFlight s id attempt)
      (named : s.engine.tables.envelopes.find attempt.envelope.value = some envelope) :
      Stages s (.abandonAttempt id reason actor now) (.envelope .envelopeStateChange
        (doubtedEnvelope envelope (abandonedAttempt attempt reason now).reason now))
  | consumed {id : RateEnvelopeId} {tokens now : U64} {envelope : RateEnvelope} {bucket} {updated}
      (found : s.engine.tables.envelopes.find id.value = some envelope)
      (active : envelope.state = .applied ∨ envelope.state = .degraded) :
      Stages s (.consumeBurst id tokens now)
        (.envelope .envelopeCounters { envelope with bucket, updatedNs := updated })
  | sessionLost {actor : ActorContext} {old envelope : RateEnvelope}
      (found : s.engine.tables.envelopes.find old.id.value = some old)
      (lost : sessionLostEnvelope old = some envelope) :
      Stages s (.markSessionLost actor) (.envelope .envelopeStateChange envelope)
  | tickLost {now : U64} {session : Session} {old envelope : RateEnvelope}
      (found : s.engine.tables.envelopes.find old.id.value = some old)
      (lost : sessionLostEnvelope old = some envelope) :
      Stages s (.tick now session) (.envelope .envelopeStateChange envelope)
  | tickMaintained {now : U64} {session : Session} {envelope : RateEnvelope}
      (found : s.engine.tables.envelopes.find envelope.id.value = some envelope) :
      Stages s (.tick now session)
        (.envelope .envelopeStateChange (maintained s.engine.tables envelope now))
  | tickExpiredAttempt {now : U64} {session : Session} {attempt : EnforcementAttempt}
      (found : s.engine.tables.attempts.find attempt.id.value = some attempt)
      (passed : deadlinePassed attempt now = true) :
      Stages s (.tick now session)
        (.attempt .attemptTerminated (expiredAttempt attempt now))
  | tickExpiredEnvelope {now : U64} {session : Session} {attempt : EnforcementAttempt}
      {envelope : RateEnvelope}
      (found : s.engine.tables.attempts.find attempt.id.value = some attempt)
      (passed : deadlinePassed attempt now = true)
      (named : s.engine.tables.envelopes.find attempt.envelope.value = some envelope) :
      Stages s (.tick now session) (.envelope .envelopeStateChange
        (doubtedEnvelope envelope .attemptDeadlineExceeded now))
  | revalidated {i : ℕ} {sweep : Sweep} {probe : Probe} {verification : VerificationOutcome}
      {now clock : U64} {envelope : RateEnvelope}
      (revalidating : Revalidating s i sweep probe verification now clock envelope) :
      Stages s (.publish i clock) (.envelope .envelopeStateChange
        (judgeRevalidation sweep probe envelope verification now).envelope)
  | shutdownAttempt {now : U64} {attempt : EnforcementAttempt}
      (found : InFlight s attempt.id attempt) :
      Stages s (.shutdown now) (.attempt .attemptTerminated (shutdownAttempt attempt now))
  | shutdownEnvelope {now : U64} {attempt : EnforcementAttempt} {envelope : RateEnvelope}
      (found : InFlight s attempt.id attempt)
      (named : s.engine.tables.envelopes.find attempt.envelope.value = some envelope) :
      Stages s (.shutdown now)
        (.envelope .envelopeStateChange (doubtedEnvelope envelope .engineShutdown now))

end RateGovernor.Dynamics.Sections
