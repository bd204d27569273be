import RateGovernor.Dynamics.Start

namespace RateGovernor.Safety.Evidence

open Model.CheckedMath Model.Identity Model.Reason Model.Entities Model.Envelope Model.EngineState
open Model.JournalWriter Model.Calls Model.Lifecycle Model.Completion Model.Revocation
open Model.Maintenance Model.Authority Model.Execution Foundation.KeyedTable Foundation.GuardedRun
open Dynamics.Sections Dynamics.Turns Dynamics.Evolution Dynamics.Bindings Dynamics.Issue
open Dynamics.Start

variable {s t : System} {event : Event} {action : Action} {envelope old : RateEnvelope} {k : U64}

def Matches (backend : Backend) (bound : Binding) : Prop :=
  backend.describe.id = bound.backend ∧ backend.describe.generation = bound.backendGeneration

/-- The sections that commit an envelope as applied, revoked or requeued because of a readback,
the envelope they commit, and the backend the readback was asked of. -/
inductive Credits (s : System) : Event → RateEnvelope → Option Backend → Prop
  | apply {i : ℕ} {task : ApplyTask} {now clock : U64} {backend : Option Backend}
      {verification : VerificationOutcome} {attempt : EnforcementAttempt} {envelope : RateEnvelope}
      (judged : ApplyJudged s i task now backend verification attempt envelope)
      (applied : (judgeApply s.engine envelope attempt task.request verification now).envelope.state =
        .applied) :
      Credits s (.publish i clock)
        (judgeApply s.engine envelope attempt task.request verification now).envelope backend
  | revoke {i : ℕ} {task : RevokeTask} {now clock : U64} {backend : Option Backend}
      {verification : VerificationOutcome} {seen : EnvelopeState} {attempt : EnforcementAttempt}
      {envelope : RateEnvelope} {reason : ReasonCode}
      (publishing : RevokePublishing s i task now backend verification seen attempt envelope)
      (acknowledged : attempt.state = .acknowledged)
      (revoked : (judgedRevokeEnvelope envelope reason verification now).state = .revoked) :
      Credits s (.publish i clock) (judgedRevokeEnvelope envelope reason verification now) backend
  | revalidation {i : ℕ} {sweep : Sweep} {probe : Probe} {verification : VerificationOutcome}
      {now clock : U64} {envelope : RateEnvelope}
      (revalidating : Revalidating s i sweep probe verification now clock envelope)
      (supported : verification.status ≠ .unsupported) (answered : verification.status ≠ .failed)
      (credited : (judgeRevalidation sweep probe envelope verification now).envelope.state =
          .applied ∨
        (judgeRevalidation sweep probe envelope verification now).envelope.state = .authorized ∧
        (judgeRevalidation sweep probe envelope verification now).envelope.appliedRateUps = 0) :
      Credits s (.publish i clock)
        (judgeRevalidation sweep probe envelope verification now).envelope (some sweep.backend)

/-- The sections that pick up the bound backend for a readback, and the envelopes it will be
asked about. -/
inductive PicksUp (s : System) : Event → RateEnvelope → Prop
  | apply {i : ℕ} {task : ApplyTask} {report : CompletionReport} {now : U64}
      {attempt : EnforcementAttempt} {envelope : RateEnvelope}
      (accepted : ApplyAccepted s i task report now attempt envelope)
      (acknowledged : report.acknowledged = true) : PicksUp s (.finish i) envelope
  | revoke {i : ℕ} {task : RevokeTask} {report : CompletionReport} {now : U64}
      {attempt : EnforcementAttempt} {envelope : RateEnvelope}
      (finishing : RevokeFinishing s i task report now attempt envelope)
      (inflight : attemptInflight attempt.state = true) (acknowledged : report.acknowledged = true) :
      PicksUp s (.finish i) envelope
  | revalidation {actor : ActorContext} {now : U64} {id : U64} {envelope : RateEnvelope}
      (admitted : s.engine.control.backendBound = true)
      (stored : s.engine.tables.envelopes.find id = some envelope)
      (live : envelope.state ≠ .revoked) (wanted : needsRevalidation envelope now = true)
      (allowed : checkActor s.engine actor = none) :
      PicksUp s (.revalidateAll actor now) envelope

/-- The backend that is picked up is always the envelope's own. -/
def PicksOwnBackend (s : System) (action : Action) : Prop :=
  ∀ envelope backend, PicksUp s action.event envelope → s.engine.control.backend = some backend →
    Matches backend (binding envelope)

section Calls

def MatchesAt (tables : Tables) (k : U64) (backend : Backend) : Prop :=
  ∃ envelope, tables.envelopes.find k = some envelope ∧ Matches backend (binding envelope)

def SweepMatches (tables : Tables) (sweep : Sweep) : Prop :=
  ∀ id ∈ sweep.candidates, MatchesAt tables id sweep.backend

/-- A call asks the envelope's own backend, and with no backend to ask it records a failure. -/
def CallMatches (tables : Tables) : Call → Prop
  | .applyVerifying task _ backend => ∀ b, backend = some b → MatchesAt tables task.envelope.value b
  | .applyPublishing task _ backend verification =>
    (∀ b, backend = some b → MatchesAt tables task.envelope.value b) ∧
      (backend = none → verification.status = .failed)
  | .revokeVerifying task _ _ backend _ =>
    ∀ b, backend = some b → MatchesAt tables task.envelope.value b
  | .revokePublishing task _ backend verification _ =>
    (∀ b, backend = some b → MatchesAt tables task.envelope.value b) ∧
      (backend = none → verification.status = .failed)
  | .sweeping sweep => SweepMatches tables sweep
  | .probing sweep probe => SweepMatches tables sweep ∧ MatchesAt tables probe.id.value sweep.backend
  | .recording sweep probe _ _ =>
    SweepMatches tables sweep ∧ MatchesAt tables probe.id.value sweep.backend
  | _ => True

structure Inv (s : System) : Prop where
  ids : IdsAhead s
  calls : ∀ call ∈ s.calls, CallMatches s.engine.tables call

theorem inv_of_fresh (h : Fresh s) : Inv s where
  ids := idsAhead_of_fresh h
  calls call hmem := by
    rw [(empty_of_fresh h).2] at hmem
    cases hmem

theorem status_of_unbound (verification : VerificationOutcome) :
    (verificationBy none verification).status = .failed := rfl

theorem matches_of_begins {status} {call : Call} (h : Inv s)
    (hok : ∀ envelope backend, PicksUp s event envelope →
      s.engine.control.backend = some backend → Matches backend (binding envelope))
    (hbegins : Begins s event status call) : CallMatches s.engine.tables call := by
  have moved {i : ℕ} {call : Call} (hfound : s.calls[i]? = some call) :
      CallMatches s.engine.tables call :=
    h.calls _ (List.mem_of_getElem? hfound)
  cases hbegins with
  | applyAcknowledged accepted hacknowledged =>
    intro b hb
    exact ⟨_, accepted.storedEnvelope, hok _ _ (.apply accepted hacknowledged) hb⟩
  | applyVerified hfound =>
    have hcall := moved hfound
    refine ⟨hcall, ?_⟩
    rintro rfl
    exact status_of_unbound _
  | revokeAcknowledged finishing hinflight hacknowledged =>
    intro b hb
    exact ⟨_, finishing.storedEnvelope, hok _ _ (.revoke finishing hinflight hacknowledged) hb⟩
  | revokeVerified hfound =>
    have hcall := moved hfound
    refine ⟨hcall, ?_⟩
    rintro rfl
    exact status_of_unbound _
  | selected hbound hadmitted hwanted hallowed =>
    intro id hid
    obtain ⟨envelope, hfind, hlive, hneeds⟩ := hwanted id hid
    exact ⟨envelope, hfind, hok _ _ (.revalidation hadmitted hfind hlive hneeds hallowed) hbound⟩
  | skipped hfound hnext =>
    have hcall := moved hfound
    intro id hid
    exact hcall id (by rw [hnext]; exact List.mem_cons_of_mem _ hid)
  | probing hfound hnext hcandidate =>
    have hcall := moved hfound
    refine ⟨fun id hid ↦ hcall id (by rw [hnext]; exact List.mem_cons_of_mem _ hid), ?_⟩
    have hkey := Registry.key_of_find hcandidate
    obtain ⟨envelope, hfind, hmatches⟩ := hcall _ (by rw [hnext]; exact List.mem_cons_self)
    rw [hcandidate] at hfind
    cases hfind
    rw [← hkey] at hcandidate
    exact ⟨_, hcandidate, hmatches⟩
  | probed hfound =>
    have hcall := moved hfound
    exact hcall
  | recorded hfound =>
    have hcall := moved hfound
    exact hcall.1
  | _ => trivial

theorem MatchesAt.step {backend : Backend} (hids : IdsAhead s) (hstep : step s action = some t)
    (h : MatchesAt s.engine.tables k backend) : MatchesAt t.engine.tables k backend := by
  obtain ⟨envelope, hfind, hmatches⟩ := h
  obtain ⟨envelope', hfind', hbinding⟩ := binding_step hids hstep hfind
  refine ⟨envelope', hfind', ?_⟩
  rw [hbinding]
  exact hmatches

theorem inv_step (h : Inv s) (hok : PicksOwnBackend s action) (hstep : step s action = some t) :
    Inv t where
  ids := idsAhead_step h.ids hstep
  calls call hmem := by
    have hcall : CallMatches s.engine.tables call := by
      obtain hold | ⟨status, hbegins⟩ := calls_step hstep hmem
      · exact h.calls call hold
      · exact matches_of_begins h hok hbegins
    have later {k : U64} {backend : Backend} (h' : MatchesAt s.engine.tables k backend) :=
      h'.step h.ids hstep
    cases call with
    | applyVerifying | revokeVerifying => exact fun b hb ↦ later (hcall b hb)
    | applyPublishing | revokePublishing => exact ⟨fun b hb ↦ later (hcall.1 b hb), hcall.2⟩
    | sweeping => exact fun id hid ↦ later (hcall id hid)
    | probing | recording => exact ⟨fun id hid ↦ later (hcall.1 id hid), later hcall.2⟩
    | _ => trivial

end Calls

section Claim

theorem status_of_applied {engine : Engine} {attempt : EnforcementAttempt} {request : ApplyRequest}
    {verification : VerificationOutcome} {now : U64}
    (h : (judgeApply engine old attempt request verification now).envelope.state = .applied) :
    verification.status ≠ .failed := by
  intro hfailed
  simp only [judgeApply, hfailed, reduceCtorEq, if_false, if_true, unconfirmed] at h

theorem status_of_revoked {reason : ReasonCode} {verification : VerificationOutcome} {now : U64}
    (h : (judgedRevokeEnvelope old reason verification now).state = .revoked) :
    verification.status ≠ .failed := by
  intro hfailed
  simp only [judgedRevokeEnvelope, revokeConfirmed, hfailed, reduceCtorEq, decide_false,
    Bool.false_and, Bool.false_eq_true, if_false] at h

/-- In every run in which each readback is asked of a backend that is the envelope's own when it
is picked up, no other backend's evidence is ever credited. -/
theorem credited_by_own_backend {start : System} {backend : Option Backend} (hfresh : Fresh start)
    (hrun : Reaches step PicksOwnBackend start s) (h : Credits s event envelope backend) :
    ∃ b, backend = some b ∧ b.describe.id = envelope.backend ∧
      b.describe.generation = envelope.backendGeneration := by
  have hinv : Inv s :=
    hrun.invariant (inv_of_fresh hfresh) fun _ _ _ hinv hok hstep ↦ inv_step hinv hok hstep
  have same {k : U64} {stored : RateEnvelope} {b : Backend}
      (hat : MatchesAt s.engine.tables k b)
      (hfind : s.engine.tables.envelopes.find k = some stored) : Matches b (binding stored) := by
    obtain ⟨found, hfound, hmatches⟩ := hat
    rw [hfind] at hfound
    cases hfound
    exact hmatches
  cases h with
  | apply judged happlied =>
    obtain ⟨hmatches, hunbound⟩ := hinv.calls _ (List.mem_of_getElem? judged.call)
    cases backend with
    | none => exact absurd (hunbound rfl) (status_of_applied happlied)
    | some b =>
      refine ⟨b, rfl, ?_⟩
      have hown := same (hmatches b rfl) judged.storedEnvelope
      rw [← binding_judgeApply] at hown
      exact hown
  | revoke publishing _ hrevoked =>
    obtain ⟨hmatches, hunbound⟩ := hinv.calls _ (List.mem_of_getElem? publishing.call)
    cases backend with
    | none => exact absurd (hunbound rfl) (status_of_revoked hrevoked)
    | some b =>
      refine ⟨b, rfl, ?_⟩
      have hown := same (hmatches b rfl) publishing.storedEnvelope
      rw [← binding_judgedRevokeEnvelope] at hown
      exact hown
  | revalidation revalidating =>
    obtain ⟨-, hmatches⟩ := hinv.calls _ (List.mem_of_getElem? revalidating.call)
    have hown := same hmatches revalidating.storedEnvelope
    rw [← binding_judgeRevalidation] at hown
    exact ⟨_, rfl, hown⟩

end Claim

section Sample

def credited (s : System) (i : ℕ) : Option (RateEnvelope × Option Backend) :=
  match s.calls[i]? with
  | some (.applyPublishing task now backend verification) =>
    match s.engine.tables.attempts.find task.attempt.value,
        s.engine.tables.envelopes.find task.envelope.value with
    | some attempt, some envelope =>
      let updated := (judgeApply s.engine envelope attempt task.request verification now).envelope
      if attempt.state = .acknowledged ∧ authorityStatus s.engine.tables envelope now = .none ∧
          attempt.fingerprint.epoch = s.engine.tables.epoch ∧ updated.state = .applied then
        some (updated, backend)
      else none
    | _, _ => none
  | some (.revokePublishing task now backend verification _) =>
    match s.engine.tables.attempts.find task.attempt.value,
        s.engine.tables.envelopes.find task.envelope.value with
    | some attempt, some envelope =>
      let updated := judgedRevokeEnvelope envelope
        (judgedRevokeAttempt attempt verification now).reason verification now
      if attempt.state = .acknowledged ∧ updated.state = .revoked then some (updated, backend)
      else none
    | _, _ => none
  | _ => none

theorem credits_of_credited {i : ℕ} {backend : Option Backend} (clock : U64)
    (h : credited s i = some (envelope, backend)) : Credits s (.publish i clock) envelope backend := by
  unfold credited at h
  split at h
  · next hcall =>
    split at h
    · next hattempt henvelope =>
      simp only at h
      split at h
      · next hjudged =>
        obtain ⟨hacknowledged, hcurrent, hepoch, happlied⟩ := hjudged
        cases h
        exact .apply ⟨⟨hcall, hattempt, henvelope⟩, hacknowledged, hcurrent, hepoch⟩ happlied
      · cases h
    · cases h
  · next hcall =>
    split at h
    · next hattempt henvelope =>
      simp only at h
      split at h
      · next hjudged =>
        cases h
        exact .revoke ⟨hcall, hattempt, henvelope⟩ hjudged.1 hjudged.2
      · cases h
    · cases h
  · cases h

def OwnsAll (s : System) : Prop :=
  ∀ backend ∈ s.engine.control.backend, ∀ envelope ∈ s.engine.tables.envelopes.entries,
    backend.describe.id = envelope.backend ∧
      backend.describe.generation = envelope.backendGeneration

instance (s : System) : Decidable (OwnsAll s) :=
  match h : s.engine.control.backend with
  | none => isTrue fun backend hmem ↦ by rw [h] at hmem; cases hmem
  | some backend =>
    decidable_of_iff (∀ envelope ∈ s.engine.tables.envelopes.entries,
        backend.describe.id = envelope.backend ∧
          backend.describe.generation = envelope.backendGeneration)
      ⟨fun hall b hmem ↦ by rw [h] at hmem; cases hmem; exact hall,
        fun hall ↦ hall backend (by rw [h]; rfl)⟩

theorem picksOwnBackend_of_ownsAll (h : OwnsAll s) : PicksOwnBackend s action := by
  have owns {k : U64} {stored : RateEnvelope} {b : Backend}
      (hfind : s.engine.tables.envelopes.find k = some stored)
      (hb : s.engine.control.backend = some b) : Matches b (binding stored) :=
    h b hb stored (Registry.mem_entries_of_find hfind)
  intro stored b hpicks hb
  generalize action.event = event at hpicks
  cases hpicks with
  | apply accepted => exact owns accepted.storedEnvelope hb
  | revoke finishing => exact owns finishing.storedEnvelope hb
  | revalidation _ hstored => exact owns hstored hb

theorem credited_after_dispatchSample : ∃ s envelope b,
    Reaches step PicksOwnBackend sampleStart s ∧
    Credits s (.publish 0 6) envelope (some b) ∧ b.describe.id = envelope.backend ∧
    b.describe.generation = envelope.backendGeneration := by
  have hguarded : Guarded step (fun s _ ↦ OwnsAll s) sampleStart applySample.dropLast := by
    decide +kernel
  obtain ⟨s, stored, hrun, -, h⟩ : ∃ s stored, run step sampleStart applySample.dropLast = some s ∧
      s.engine.tables.envelopes.find 1 = some stored ∧ (credited s 0).isSome = true :=
    of_observe (by decide +kernel)
  obtain ⟨⟨envelope, backend⟩, hcredited⟩ := Option.isSome_iff_exists.1 h
  have hreaches : Reaches step PicksOwnBackend sampleStart s :=
    (reaches_of_run hguarded hrun).mono fun _ _ ↦ picksOwnBackend_of_ownsAll
  have hcredits := credits_of_credited 6 hcredited
  obtain ⟨b, rfl, hown⟩ := credited_by_own_backend fresh_sampleStart hreaches hcredits
  exact ⟨s, envelope, b, hreaches, hcredits, hown⟩

/-- An envelope of another backend is opened, revoked and acknowledged by the bound one. -/
def foreignSample : List Action :=
  [⟨.openEnvelope { sampleRequest with backend := ⟨2⟩ } actor 5, []⟩,
    ⟨.revoke ⟨1⟩ .none actor 6 {}, []⟩, ⟨.dispatched 0 { status := .completed }, []⟩,
    ⟨.readClock 0 7, []⟩, ⟨.finish 0, []⟩, ⟨.readBack 0 sampleAbsent 7, []⟩]

def creditsOther (s : System) (i : ℕ) : Bool :=
  match credited s i with
  | some (envelope, some backend) =>
    envelope.id.value = 1 && backend.describe.id ≠ envelope.backend
  | _ => false

/-- The readback of a backend the envelope is not bound to commits it as revoked. -/
theorem foreign_evidence_credited : ¬ ∀ s t event io envelope backend, Reachable s →
    Credits s event envelope backend → step s ⟨event, io⟩ = some t →
    (∃ committed, t.engine.tables.envelopes.find envelope.id.value = some committed ∧
      committed.state = .revoked) →
    ∃ b, backend = some b ∧ b.describe.id = envelope.backend ∧
      b.describe.generation = envelope.backendGeneration := by
  intro h
  obtain ⟨s, stored, hrun, -, hother⟩ : ∃ s stored, run step sampleStart foreignSample = some s ∧
      s.engine.tables.envelopes.find 1 = some stored ∧ creditsOther s 0 = true :=
    of_observe (by decide +kernel)
  obtain ⟨t, committed, hrun', hfind, hrevoked⟩ : ∃ t committed,
      run step sampleStart (foreignSample ++ [⟨.publish 0 7, []⟩]) = some t ∧
      t.engine.tables.envelopes.find 1 = some committed ∧
      decide (committed.state = .revoked) = true := of_observe (by decide +kernel)
  rw [run_append hrun, run_singleton] at hrun'
  unfold creditsOther at hother
  split at hother
  · next envelope backend hcredited =>
    simp only [ne_eq, Bool.and_eq_true, decide_eq_true_eq] at hother
    rw [← hother.1] at hfind
    obtain ⟨b, hb, hid, -⟩ := h s t (.publish 0 7) [] envelope (some backend)
      (reachable_of_run fresh_sampleStart hrun) (credits_of_credited 7 hcredited) hrun'
      ⟨committed, hfind, of_decide_eq_true hrevoked⟩
    cases hb
    exact absurd hid (by simpa using hother.2)
  · cases hother

end Sample

end RateGovernor.Safety.Evidence
