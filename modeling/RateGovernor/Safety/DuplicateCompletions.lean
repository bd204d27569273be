import RateGovernor.Dynamics.Start

namespace RateGovernor.Safety.DuplicateCompletions

open Model.CheckedMath Model.Identity Model.Reason Model.Entities Model.Envelope Model.EngineState
open Model.JournalWriter Model.Durability Model.Calls Model.Lifecycle Model.Completion
open Model.Authority Model.Execution Foundation.KeyedTable Foundation.GuardedRun
open Dynamics.Install Dynamics.Sections Dynamics.Turns Dynamics.Evolution Dynamics.Bindings
open Dynamics.Halting Dynamics.Start

/-- An apply attempt in flight, its envelope, and a report of its completion: what the calls of
one scenario share. -/
structure Scenario where
  attempt : EnforcementAttempt
  envelope : RateEnvelope
  report : CompletionReport
  backend : Backend

variable {c : Scenario} {origin s t : System} {action : Action} {actions : List Action}

/-- The report is an acknowledgement of the attempt that is not fenced, and no call is running. -/
structure Scenario.Starts (c : Scenario) (s : System) : Prop where
  attempt : s.engine.tables.attempts.find c.attempt.id.value = some c.attempt
  envelope : s.engine.tables.envelopes.find c.attempt.envelope.value = some c.envelope
  kind : c.attempt.kind = .apply
  inflight : attemptInflight c.attempt.state = true
  acknowledged : c.report.acknowledged = true
  answered : c.report.status ≠ .pending
  boot : fencingBoot c.attempt c.report = false
  epoch : fencingEpoch s.engine.tables.epoch c.attempt c.report = false
  backend : s.engine.control.backend = some c.backend
  idle : s.calls = []

def Scenario.Exact (c : Scenario) (verification : VerificationOutcome) : Prop :=
  verification.status ≠ .unsupported ∧ verification.status ≠ .failed ∧
    verification.observedPresent = true ∧
    verification.observedRateUps = c.envelope.plan.ceilingUps ∧
    verification.observedBurstTokens = c.envelope.plan.burstTokens

/-- The events of any number of concurrent `complete_apply` calls that carry the report: every
clock reading finds the authorities current, and every readback is exact. -/
def Scenario.AdmitsEvent (c : Scenario) (origin : System) : Event → Prop
  | .completeApply id report _ => id = c.attempt.id ∧ report = c.report
  | .readClock _ now => authorityStatus origin.engine.tables c.envelope now = .none
  | .readBack _ verification _ => c.Exact verification
  | .finish _ | .publish _ _ => True
  | _ => False

/-- A step of these calls whose commit succeeds. -/
def Scenario.Admits (c : Scenario) (origin : System) (s : System) (action : Action) : Prop :=
  c.AdmitsEvent origin action.event ∧
    ∀ decision, sectionOf s action.event = some decision → decision.records ≠ [] →
    (decision.commit s.engine action.io).status = none

/-- The state a single call produces. -/
def Scenario.Settled (c : Scenario) (s : System) : Prop :=
  ∃ attempt envelope, s.engine.tables.attempts.find c.attempt.id.value = some attempt ∧
    s.engine.tables.envelopes.find c.attempt.envelope.value = some envelope ∧
    attempt.state = .verified ∧ envelope.state = .applied ∧ envelope.effectVerified = true ∧
    envelope.requiresRevalidation = false

section Phases

/-- How far the calls have got: before the first readback is published, with so many calls past
their acknowledgement; after it, with so many still to publish; or after one too many has. -/
inductive Phase
  | before (acknowledged : ℕ)
  | verified (acknowledged : ℕ)
  | spoiled

def isFinish : Event → Bool
  | .finish _ => true
  | _ => false

def isPublish : Event → Bool
  | .publish _ _ => true
  | _ => false

def pastAcknowledgement : Call → Bool
  | .applyVerifying _ _ _ | .applyPublishing _ _ _ _ => true
  | _ => false

/-- The part of the tables and of the objects that completions leave alone. -/
structure Scenario.Frame (c : Scenario) (origin s : System) (attempt : EnforcementAttempt)
    (envelope : RateEnvelope) : Prop where
  backend : s.engine.control.backend = some c.backend
  authorities : ∃ envelopes attempts, s.engine.tables =
    { origin.engine.tables with envelopes := envelopes, attempts := attempts }
  storedAttempt : s.engine.tables.attempts.find c.attempt.id.value = some attempt
  storedEnvelope : s.engine.tables.envelopes.find c.attempt.envelope.value = some envelope
  identity : attempt.id = c.attempt.id ∧ attempt.envelope = c.attempt.envelope ∧
    attempt.kind = .apply ∧ attempt.fingerprint = c.attempt.fingerprint ∧
    attempt.boot = c.attempt.boot
  binding : binding envelope = binding c.envelope
  plan : envelope.hasPlan = c.envelope.hasPlan ∧ envelope.plan = c.envelope.plan

def Scenario.Task (c : Scenario) (task : ApplyTask) : Prop :=
  task.attempt = c.attempt.id ∧ task.envelope = c.attempt.envelope ∧
    task.request.rateUps = c.envelope.plan.ceilingUps ∧
    task.request.burstTokens = c.envelope.plan.burstTokens

/-- The calls of the scenario: each with its task, its report, and clock readings and readbacks as
they are assumed. -/
def Scenario.Owns (c : Scenario) (origin : System) : Call → Prop
  | .applyReported task report => c.Task task ∧ report = c.report
  | .applyFinishing task report now => c.Task task ∧ report = c.report ∧
    authorityStatus origin.engine.tables c.envelope now = .none
  | .applyVerifying task now backend => c.Task task ∧ backend = some c.backend ∧
    authorityStatus origin.engine.tables c.envelope now = .none
  | .applyPublishing task now backend verification => c.Task task ∧ backend = some c.backend ∧
    authorityStatus origin.engine.tables c.envelope now = .none ∧ c.Exact verification
  | _ => False

def Phase.Holds (calls : List Call) (attempt : EnforcementAttempt) (envelope : RateEnvelope) :
    Phase → Prop
  | .before n => attemptInflight attempt.state = true ∧ (n ≠ 0 → attempt.state = .acknowledged) ∧
    calls.countP pastAcknowledgement = n
  | .verified n => attempt.state = .verified ∧ envelope.state = .applied ∧
    envelope.effectVerified = true ∧ envelope.requiresRevalidation = false ∧
    calls.countP pastAcknowledgement = n
  | .spoiled => attempt.state = .lateRejected

structure Scenario.Sim (c : Scenario) (origin : System) (phase : Phase) (s : System) : Prop where
  calls : ∀ call ∈ s.calls, c.Owns origin call
  state : ∃ attempt envelope, c.Frame origin s attempt envelope ∧
    phase.Holds s.calls attempt envelope

def Phase.next : Phase → Event → Phase
  | .before n, event =>
    if isPublish event then .verified (n - 1) else if isFinish event then .before (n + 1)
    else .before n
  | .verified n, event => if isPublish event then .spoiled else .verified n
  | .spoiled, _ => .spoiled

end Phases

section Frame

variable {attempt : EnforcementAttempt} {envelope : RateEnvelope} {now : U64}

theorem Scenario.Frame.authorityStatus (h : c.Frame origin s attempt envelope) (now : U64) :
    authorityStatus s.engine.tables envelope now =
      authorityStatus origin.engine.tables c.envelope now := by
  obtain ⟨envelopes, attempts, htables⟩ := h.authorities
  have hb := h.binding
  simp only [Dynamics.Bindings.binding, Binding.mk.injEq] at hb
  obtain ⟨-, -, hflow, hflowGen, hresource, hresourceGen, hgrant, hgrantGen, hhas, hreservation,
    hreservationGen, hpolicy, hpolicyGen, hbackend, hbackendGen⟩ := hb
  rw [htables]
  unfold Model.Lifecycle.authorityStatus grantStatus policyStatus reservationStatus backendStatus
  simp only [hflow, hflowGen, hresource, hresourceGen, hgrant, hgrantGen, hhas, hreservation,
    hreservationGen, hpolicy, hpolicyGen, hbackend, hbackendGen, h.plan.1, h.plan.2]

theorem Scenario.Frame.write (h : c.Frame origin s attempt envelope) {control : Control}
    {durability : Durability} {calls : List Call} {attempt' : EnforcementAttempt}
    {envelope' : RateEnvelope} (hcontrol : control.backend = s.engine.control.backend)
    (hattempt : attempt'.id = attempt.id ∧ attempt'.envelope = attempt.envelope ∧
      attempt'.kind = attempt.kind ∧ attempt'.fingerprint = attempt.fingerprint ∧
      attempt'.boot = attempt.boot)
    (hbinding : Dynamics.Bindings.binding envelope' = Dynamics.Bindings.binding envelope)
    (hplan : envelope'.hasPlan = envelope.hasPlan ∧ envelope'.plan = envelope.plan) :
    c.Frame origin
      { engine := { s.engine with
          control
          tables := { s.engine.tables with
            attempts := s.engine.tables.attempts.put attempt'
            envelopes := s.engine.tables.envelopes.put envelope' }
          durability }
        calls } attempt' envelope' := by
  obtain ⟨envelopes, attempts, htables⟩ := h.authorities
  refine ⟨hcontrol.trans h.backend, ⟨s.engine.tables.envelopes.put envelope',
    s.engine.tables.attempts.put attempt', by rw [htables]⟩, ?_, ?_, ?_, hbinding.trans h.binding,
    hplan.1.trans h.plan.1, hplan.2.trans h.plan.2⟩
  · have hkey : attempt'.id.value = c.attempt.id.value := by rw [hattempt.1, h.identity.1]
    rw [← hkey]
    exact Registry.find_put_self _ attempt'
  · have hkey : envelope'.id.value = c.attempt.envelope.value :=
      staged_id h.storedEnvelope hbinding
    rw [← hkey]
    exact Registry.find_put_self _ envelope'
  · obtain ⟨hid, hnamed, hkind, hfingerprint, hboot⟩ := h.identity
    exact ⟨hattempt.1.trans hid, hattempt.2.1.trans hnamed, hattempt.2.2.1.trans hkind,
      hattempt.2.2.2.1.trans hfingerprint, hattempt.2.2.2.2.trans hboot⟩

theorem Scenario.Frame.writeAttempt (h : c.Frame origin s attempt envelope)
    {durability : Durability} {calls : List Call} {attempt' : EnforcementAttempt}
    (hattempt : attempt'.id = attempt.id ∧ attempt'.envelope = attempt.envelope ∧
      attempt'.kind = attempt.kind ∧ attempt'.fingerprint = attempt.fingerprint ∧
      attempt'.boot = attempt.boot) :
    c.Frame origin
      { engine := { s.engine with
          control := s.engine.control
          tables := { s.engine.tables with
            attempts := s.engine.tables.attempts.put attempt' }
          durability }
        calls } attempt' envelope := by
  have hput : s.engine.tables.envelopes.put envelope = s.engine.tables.envelopes := by
    apply Registry.put_of_find
    rw [Registry.key_of_find h.storedEnvelope]
    exact h.storedEnvelope
  rw [show s.engine.tables = { s.engine.tables with
    envelopes := s.engine.tables.envelopes.put envelope } by rw [hput]]
  exact h.write rfl hattempt rfl ⟨rfl, rfl⟩

theorem Scenario.Frame.keep (h : c.Frame origin s attempt envelope) {control : Control}
    {durability : Durability} {calls : List Call}
    (hcontrol : control.backend = s.engine.control.backend) :
    c.Frame origin { engine := { s.engine with control, durability }, calls } attempt envelope :=
  ⟨hcontrol.trans h.backend, h.authorities, h.storedAttempt, h.storedEnvelope, h.identity,
    h.binding, h.plan⟩

end Frame

section Calls

variable {calls : List Call} {i : ℕ} {call : Call}

theorem countP_replaceCall (p : Call → Bool) (next : Option Call) (h : calls[i]? = some call) :
    (replaceCall calls i next).countP p + (p call).toNat =
      calls.countP p + (next.elim 0 fun next ↦ (p next).toNat) := by
  induction calls generalizing i with
  | nil => cases h
  | cons head tail ih =>
    cases i with
    | zero =>
      cases h
      cases next with
      | none =>
        simp only [replaceCall, List.eraseIdx_cons_zero, List.countP_cons, Option.elim_none]
        cases p call <;> rfl
      | some next =>
        simp only [replaceCall, List.set_cons_zero, List.countP_cons, Option.elim_some]
        cases p call <;> cases p next <;> rfl
    | succ i =>
      have ih := ih (i := i) h
      cases next with
      | none =>
        simp only [replaceCall, Option.elim_none] at ih
        simp only [replaceCall, List.eraseIdx_cons_succ, List.countP_cons, Option.elim_none]
        omega
      | some next =>
        simp only [replaceCall, Option.elim_some] at ih
        simp only [replaceCall, List.set_cons_succ, List.countP_cons, Option.elim_some]
        omega

theorem effect_of_step (hstep : step s action = some t)
    (hcommit : ∀ decision, sectionOf s action.event = some decision → decision.records ≠ [] →
      (decision.commit s.engine action.io).status = none) :
    ∃ decision durability, sectionOf s action.event = some decision ∧
      t = { engine := { s.engine with
              control := decision.settled
              tables := installed s.engine.config s.engine.tables decision.records
              durability }
            calls := decision.reply none } := by
  obtain ⟨decision, hsection, hturn⟩ := turn_of_step hstep
  cases hturn with
  | quiet hrecords =>
    refine ⟨decision, s.engine.durability, hsection, ?_⟩
    rw [hrecords]
    rfl
  | failed hrecords hstatus =>
    rw [hcommit decision hsection hrecords] at hstatus
    cases hstatus
  | committed => exact ⟨decision, _, hsection, rfl⟩

end Calls

section Sections

variable {attempt : EnforcementAttempt} {envelope : RateEnvelope} {task : ApplyTask} {now : U64}
  {verification : VerificationOutcome}

/-- The frame with the facts about the report that outlive the start. -/
structure Scenario.Running (c : Scenario) (origin s : System) (attempt : EnforcementAttempt)
    (envelope : RateEnvelope) : Prop extends c.Frame origin s attempt envelope where
  acknowledged : c.report.acknowledged = true
  answered : c.report.status ≠ .pending
  boot : fencingBoot attempt c.report = false
  epoch : fencingEpoch s.engine.tables.epoch attempt c.report = false

theorem Scenario.Starts.running (h : c.Starts origin) (hframe : c.Frame origin s attempt envelope) :
    c.Running origin s attempt envelope := by
  obtain ⟨envelopes, attempts, htables⟩ := hframe.authorities
  refine { hframe with acknowledged := h.acknowledged, answered := h.answered, boot := ?_,
                       epoch := ?_ }
  · have hboot := h.boot
    unfold fencingBoot at hboot ⊢
    rw [hframe.identity.2.2.2.2]
    exact hboot
  · have hepoch := h.epoch
    unfold fencingEpoch at hepoch ⊢
    rw [hframe.identity.2.2.2.1, htables]
    exact hepoch

theorem finishApply_inflight (h : c.Running origin s attempt envelope) (htask : c.Task task)
    (hinflight : attemptInflight attempt.state = true)
    (hcurrent : authorityStatus origin.engine.tables c.envelope now = .none) :
    ∃ result, finishApply s.engine task c.report now =
      publish s.engine.control s.engine.control
        [.attempt .attemptAcknowledged (acknowledgedApply attempt c.report now)] result
        (some (.applyVerifying task now s.engine.control.backend)) := by
  have hverified : attempt.state ≠ .verified := by
    intro heq
    rw [heq] at hinflight
    cases hinflight
  have hignored : attempt.state ≠ .duplicateIgnored := by
    intro heq
    rw [heq] at hinflight
    cases hinflight
  unfold finishApply acceptApply
  rw [htask.1, htask.2.1, h.storedAttempt, h.storedEnvelope]
  simp only [h.identity.2.2.1, h.toFrame.authorityStatus, hcurrent, h.acknowledged, h.answered,
    h.boot, h.epoch, hinflight, hverified, hignored, ne_eq, not_true_eq_false, if_false,
    decide_false, Bool.or_self, Bool.not_true, Bool.false_eq_true]
  exact ⟨_, rfl⟩

theorem finishApply_verified (h : c.Running origin s attempt envelope) (htask : c.Task task)
    (hverified : attempt.state = .verified) :
    ∃ counters result, finishApply s.engine task c.report now =
      conclude { s.engine.control with counters } (result, none) := by
  unfold finishApply
  rw [htask.1, htask.2.1, h.storedAttempt, h.storedEnvelope]
  simp only [h.identity.2.2.1, hverified, ne_eq, not_true_eq_false, if_false, decide_true,
    Bool.true_or, if_true]
  exact ⟨_, _, rfl⟩

theorem finishApply_lateRejected (h : c.Running origin s attempt envelope) (htask : c.Task task)
    (hlate : attempt.state = .lateRejected) :
    ∃ reason detail, finishApply s.engine task c.report now =
      rejectLate s.engine envelope attempt reason true detail now := by
  unfold finishApply
  rw [htask.1, htask.2.1, h.storedAttempt, h.storedEnvelope]
  simp only [h.identity.2.2.1, hlate, h.acknowledged, h.boot, h.epoch, attemptInflight, ne_eq,
    not_true_eq_false, if_false, reduceCtorEq, decide_false, Bool.or_self, Bool.not_false,
    Bool.or_false, Bool.false_eq_true, if_true]
  exact ⟨_, _, rfl⟩

theorem publishApply_acknowledged (h : c.Running origin s attempt envelope) (htask : c.Task task)
    (hacknowledged : attempt.state = .acknowledged)
    (hcurrent : authorityStatus origin.engine.tables c.envelope now = .none)
    (hexact : c.Exact verification) :
    ∃ counters result attempt' envelope', publishApply s.engine task now verification =
        publish { s.engine.control with counters } { s.engine.control with counters }
          [.attempt .attemptVerified attempt', .envelope .envelopeEffectRecorded envelope'] result
          none ∧
      (attempt'.id = attempt.id ∧ attempt'.envelope = attempt.envelope ∧
        attempt'.kind = attempt.kind ∧ attempt'.fingerprint = attempt.fingerprint ∧
        attempt'.boot = attempt.boot) ∧ attempt'.state = .verified ∧
      Dynamics.Bindings.binding envelope' = Dynamics.Bindings.binding envelope ∧
      (envelope'.hasPlan = envelope.hasPlan ∧ envelope'.plan = envelope.plan) ∧
      envelope'.state = .applied ∧ envelope'.effectVerified = true ∧
      envelope'.requiresRevalidation = false := by
  obtain ⟨hsupported, hanswered, hpresent, hrate, hburst⟩ := hexact
  have hepoch : attempt.fingerprint.epoch = s.engine.tables.epoch := by
    have hfence := h.epoch
    simp only [fencingEpoch, ne_eq, Bool.or_eq_false_iff, decide_eq_false_iff_not,
      Decidable.not_not] at hfence
    exact hfence.1
  have hmatch : verification.observedRateUps = task.request.rateUps ∧
      verification.observedBurstTokens = task.request.burstTokens :=
    ⟨hrate.trans htask.2.2.1.symm, hburst.trans htask.2.2.2.symm⟩
  unfold publishApply
  rw [htask.1, htask.2.1, h.storedAttempt, h.storedEnvelope]
  simp only [hacknowledged, h.toFrame.authorityStatus, hcurrent, hepoch, ne_eq, not_true_eq_false,
    if_false, decide_false, Bool.or_self, Bool.false_eq_true, judgeApply, hsupported, hanswered,
    hpresent, Bool.not_true, hmatch.1, hmatch.2, decide_true, Bool.and_self, if_true]
  exact ⟨_, _, _, _, rfl, ⟨rfl, rfl, rfl, rfl, rfl⟩, rfl, rfl, ⟨rfl, rfl⟩, rfl, rfl, rfl⟩

theorem publishApply_late (h : c.Running origin s attempt envelope) (htask : c.Task task)
    (hlate : attempt.state ≠ .acknowledged) (hexact : c.Exact verification) :
    ∃ reason detail, publishApply s.engine task now verification =
      rejectLate s.engine envelope attempt reason true detail now := by
  unfold publishApply
  rw [htask.1, htask.2.1, h.storedAttempt, h.storedEnvelope]
  simp only [hlate, hexact.2.2.1, ne_eq, not_false_eq_true, if_true]
  exact ⟨_, _, rfl⟩

end Sections

section Steps

variable {phase : Phase} {attempt : EnforcementAttempt} {envelope : RateEnvelope} {i : ℕ}
  {task : ApplyTask} {now : U64} {verification : VerificationOutcome} {durability : Durability}

theorem Scenario.Task.request (h : c.Frame origin s attempt envelope) (id : EnforcementAttemptId)
    (hid : id = c.attempt.id) : c.Task ⟨attempt.envelope, id, makeApplyRequest envelope attempt⟩ :=
  ⟨hid, h.identity.2.1, by rw [← h.plan.2]; rfl, by rw [← h.plan.2]; rfl⟩

theorem Scenario.Sim.moved (h : c.Sim origin phase s) {call next : Call}
    (hcall : s.calls[i]? = some call) (hnext : c.Owns origin next)
    (hpast : pastAcknowledgement next = pastAcknowledgement call) :
    c.Sim origin phase { engine := { s.engine with
      control := s.engine.control, tables := s.engine.tables, durability }
                         calls := s.calls.set i next } := by
  obtain ⟨attempt, envelope, hframe, hholds⟩ := h.state
  have hcount : (s.calls.set i next).countP pastAcknowledgement =
      s.calls.countP pastAcknowledgement := by
    have hreplace := countP_replaceCall pastAcknowledgement (some next) hcall
    simp only [replaceCall, Option.elim_some, hpast] at hreplace
    omega
  refine ⟨?_, attempt, envelope, hframe.keep rfl, ?_⟩
  · intro other hmem
    obtain hmem | rfl := List.mem_or_eq_of_mem_set hmem
    · exact h.calls other hmem
    · exact hnext
  · cases phase with
    | before n => exact ⟨hholds.1, hholds.2.1, hcount.trans hholds.2.2⟩
    | verified n =>
      exact ⟨hholds.1, hholds.2.1, hholds.2.2.1, hholds.2.2.2.1, hcount.trans hholds.2.2.2.2⟩
    | spoiled => exact hholds

theorem Scenario.Sim.late (h : c.Sim origin phase s) (hframe : c.Frame origin s attempt envelope)
    (hstate : attempt.state ≠ .ambiguous) (reason : ReasonCode) (detail : Text) (now : U64) :
    c.Sim origin .spoiled
      { engine := { s.engine with
          control := (rejectLate s.engine envelope attempt reason true detail now).settled
          tables := installed s.engine.config s.engine.tables
            (rejectLate s.engine envelope attempt reason true detail now).records
          durability }
        calls := (resumed s i (rejectLate s.engine envelope attempt reason true detail now)).reply
          none } := by
  refine ⟨?_, _, _, hframe.write rfl ⟨rfl, rfl, rfl, rfl, rfl⟩
    (binding_lateEnvelope _ _ _ _) ?_, ?_⟩
  · intro call hmem
    dsimp only at hmem
    obtain hmem | hnext := mem_resumed hmem
    · exact h.calls call hmem
    · rw [rejectLate_next] at hnext
      cases hnext
  · unfold lateEnvelope
    simp only [Bool.not_true, Bool.false_eq_true, if_false]
    split <;> exact ⟨rfl, rfl⟩
  · simp only [Phase.Holds, lateAttempt, ne_eq, hstate, not_false_eq_true, if_true]

theorem sim_completeApply {id : EnforcementAttemptId} {actor : ActorContext}
    (h : c.Sim origin phase s) (hid : id = c.attempt.id) :
    c.Sim origin phase
      { engine := { s.engine with
          control := (begun s (completeApply s.engine id c.report actor)).settled
          tables := installed s.engine.config s.engine.tables
            (begun s (completeApply s.engine id c.report actor)).records
          durability }
        calls := (begun s (completeApply s.engine id c.report actor)).reply none } := by
  obtain ⟨attempt, envelope, hframe, hholds⟩ := h.state
  unfold completeApply
  simp only
  split
  · refine ⟨fun call hmem ↦ h.calls call (by simpa [begun, Decision.map, refuse, conclude] using hmem),
      attempt, envelope, hframe.keep rfl, ?_⟩
    simpa [begun, Decision.map, refuse, conclude] using hholds
  · rw [hid, hframe.storedAttempt]
    simp only [hframe.identity.2.2.1, hframe.identity.2.1, hframe.storedEnvelope, ne_eq,
      not_true_eq_false, if_false]
    refine ⟨?_, attempt, envelope, hframe.keep rfl, ?_⟩
    · intro call hmem
      obtain hmem | hmem := List.mem_append.1 hmem
      · exact h.calls call hmem
      · cases List.mem_singleton.1 hmem
        have htask := Scenario.Task.request hframe c.attempt.id rfl
        rw [hframe.identity.2.1] at htask
        exact ⟨htask, rfl⟩
    · have hcount (rest : Call) (hrest : pastAcknowledgement rest = false) :
          (s.calls ++ [rest]).countP pastAcknowledgement =
            s.calls.countP pastAcknowledgement := by
        rw [List.countP_append, List.countP_singleton, hrest]
        rfl
      cases phase with
      | before n => exact ⟨hholds.1, hholds.2.1, (hcount _ rfl).trans hholds.2.2⟩
      | verified n =>
        exact ⟨hholds.1, hholds.2.1, hholds.2.2.1, hholds.2.2.2.1,
          (hcount _ rfl).trans hholds.2.2.2.2⟩
      | spoiled => exact hholds

/-- An acknowledging section: in flight the attempt is acknowledged, once verified the call is a
duplicate, and after that it is late. -/
theorem sim_finish (hstart : c.Starts origin) (h : c.Sim origin phase s)
    (hcall : s.calls[i]? = some (.applyFinishing task c.report now)) (htask : c.Task task)
    (hcurrent : authorityStatus origin.engine.tables c.envelope now = .none) :
    c.Sim origin (phase.next (.finish i))
      { engine := { s.engine with
          control := (resumed s i (finishApply s.engine task c.report now)).settled
          tables := installed s.engine.config s.engine.tables
            (resumed s i (finishApply s.engine task c.report now)).records
          durability }
        calls := (resumed s i (finishApply s.engine task c.report now)).reply none } := by
  obtain ⟨attempt, envelope, hframe, hholds⟩ := h.state
  have hrunning := hstart.running hframe
  cases phase with
  | before n =>
    obtain ⟨result, heq⟩ := finishApply_inflight hrunning htask hholds.1 hcurrent
    have hnext : c.Owns origin (.applyVerifying task now s.engine.control.backend) :=
      ⟨htask, hframe.backend, hcurrent⟩
    rw [heq]
    refine ⟨?_, acknowledgedApply attempt c.report now, envelope, ?_, rfl, fun _ ↦ rfl, ?_⟩
    · intro call hmem
      obtain hmem | rfl := List.mem_or_eq_of_mem_set hmem
      · exact h.calls call hmem
      · exact hnext
    · exact hframe.writeAttempt ⟨rfl, rfl, rfl, rfl, rfl⟩
    · have hreplace := countP_replaceCall pastAcknowledgement
        (some (.applyVerifying task now s.engine.control.backend)) hcall
      have hcount := hholds.2.2
      simp only [replaceCall, Option.elim_some, pastAcknowledgement, Bool.toNat_true,
        Bool.toNat_false] at hreplace
      show (s.calls.set i _).countP pastAcknowledgement = n + 1
      omega
  | verified n =>
    obtain ⟨counters, result, heq⟩ := finishApply_verified hrunning htask hholds.1
    rw [heq]
    refine ⟨?_, attempt, envelope, hframe.keep rfl, hholds.1, hholds.2.1, hholds.2.2.1,
      hholds.2.2.2.1, ?_⟩
    · intro call hmem
      exact h.calls call (List.mem_of_mem_eraseIdx hmem)
    · have hreplace := countP_replaceCall pastAcknowledgement none hcall
      have hcount := hholds.2.2.2.2
      simp only [replaceCall, Option.elim_none, pastAcknowledgement, Bool.toNat_false] at hreplace
      show (s.calls.eraseIdx i).countP pastAcknowledgement = n
      omega
  | spoiled =>
    obtain ⟨reason, detail, heq⟩ := finishApply_lateRejected hrunning htask hholds
    rw [heq]
    exact h.late hframe (by rw [show attempt.state = _ from hholds]; exact nofun) reason detail now

/-- A publishing section: the first one verifies the attempt, and any later one spoils it. -/
theorem sim_publish (hstart : c.Starts origin) (h : c.Sim origin phase s) {clock : U64}
    {backend : Option Backend}
    (hcall : s.calls[i]? = some (.applyPublishing task now backend verification))
    (htask : c.Task task) (hcurrent : authorityStatus origin.engine.tables c.envelope now = .none)
    (hexact : c.Exact verification) :
    c.Sim origin (phase.next (.publish i clock))
      { engine := { s.engine with
          control := (resumed s i (publishApply s.engine task now verification)).settled
          tables := installed s.engine.config s.engine.tables
            (resumed s i (publishApply s.engine task now verification)).records
          durability }
        calls := (resumed s i (publishApply s.engine task now verification)).reply none } := by
  obtain ⟨attempt, envelope, hframe, hholds⟩ := h.state
  have hrunning := hstart.running hframe
  cases phase with
  | before n =>
    have hcount : 0 < s.calls.countP pastAcknowledgement :=
      List.countP_pos_iff.2 ⟨_, List.mem_of_getElem? hcall, rfl⟩
    rw [hholds.2.2] at hcount
    obtain ⟨counters, result, attempt', envelope', heq, hidentity, hverified, hbinding, hplan,
      happlied, heffect, hsettled⟩ := publishApply_acknowledged hrunning htask
        (hholds.2.1 (Nat.pos_iff_ne_zero.1 hcount)) hcurrent hexact
    rw [heq]
    refine ⟨?_, attempt', envelope', hframe.write rfl hidentity hbinding hplan, hverified,
      happlied, heffect, hsettled, ?_⟩
    · intro call hmem
      exact h.calls call (List.mem_of_mem_eraseIdx hmem)
    · have hreplace := countP_replaceCall pastAcknowledgement none hcall
      have hn := hholds.2.2
      simp only [replaceCall, Option.elim_none, pastAcknowledgement, Bool.toNat_true] at hreplace
      show (s.calls.eraseIdx i).countP pastAcknowledgement = n - 1
      omega
  | verified n =>
    have hlate : attempt.state ≠ .acknowledged := by rw [hholds.1]; exact nofun
    obtain ⟨reason, detail, heq⟩ := publishApply_late hrunning htask hlate hexact
    rw [heq]
    exact h.late hframe (by rw [hholds.1]; exact nofun) reason detail now
  | spoiled =>
    have hstate : attempt.state = .lateRejected := hholds
    obtain ⟨reason, detail, heq⟩ :=
      publishApply_late hrunning htask (by rw [hstate]; exact nofun) hexact
    rw [heq]
    exact h.late hframe (by rw [hstate]; exact nofun) reason detail now

/-- One step of the calls, and the phase it leads to. -/
theorem sim_step (hstart : c.Starts origin) (h : c.Sim origin phase s)
    (hok : c.Admits origin s action) (hstep : step s action = some t) :
    c.Sim origin (phase.next action.event) t := by
  obtain ⟨hevent, hcommit⟩ := hok
  obtain ⟨decision, durability, hsection, rfl⟩ := effect_of_step hstep hcommit
  have unmoved (hp : isPublish action.event = false) (hf : isFinish action.event = false) :
      phase.next action.event = phase := by
    cases phase <;> simp only [Phase.next, hp, hf, Bool.false_eq_true, if_false]
  obtain ⟨event, io⟩ := action
  dsimp only [Scenario.AdmitsEvent] at hevent hsection unmoved ⊢
  cases event with
  | completeApply id report actor =>
    obtain ⟨hid, rfl⟩ := hevent
    rw [unmoved rfl rfl]
    cases hsection
    exact sim_completeApply h hid
  | readClock i now =>
    rw [unmoved rfl rfl]
    obtain ⟨found, hfound, hsection⟩ := Option.bind_eq_some_iff.1 hsection
    have howns := h.calls _ (List.mem_of_getElem? hfound)
    cases found <;> cases hsection
    · exact h.moved hfound ⟨howns.1, howns.2, hevent⟩ rfl
    · exact howns.elim
  | finish i =>
    obtain ⟨found, hfound, hsection⟩ := Option.bind_eq_some_iff.1 hsection
    have howns := h.calls _ (List.mem_of_getElem? hfound)
    cases found <;> cases hsection
    · obtain ⟨htask, rfl, hcurrent⟩ := howns
      exact sim_finish hstart h hfound htask hcurrent
    · exact howns.elim
  | readBack i verification clock =>
    rw [unmoved rfl rfl]
    obtain ⟨found, hfound, hsection⟩ := Option.bind_eq_some_iff.1 hsection
    have howns := h.calls _ (List.mem_of_getElem? hfound)
    cases found <;> cases hsection
    · obtain ⟨htask, rfl, hcurrent⟩ := howns
      exact h.moved hfound ⟨htask, rfl, hcurrent, hevent⟩ rfl
    · exact howns.elim
    · exact howns.elim
  | publish i clock =>
    obtain ⟨found, hfound, hsection⟩ := Option.bind_eq_some_iff.1 hsection
    have howns := h.calls _ (List.mem_of_getElem? hfound)
    cases found <;> cases hsection
    · obtain ⟨htask, -, hcurrent, hexact⟩ := howns
      exact sim_publish hstart h hfound htask hcurrent hexact
    · exact howns.elim
    · exact howns.elim
  | _ => exact hevent.elim

end Steps

section Runs

variable {n : ℕ}

theorem count_pos_of_publish {phase : Phase} (h : c.Sim origin phase s)
    (hstep : step s action = some t) (hpublish : isPublish action.event = true) :
    0 < s.calls.countP pastAcknowledgement := by
  obtain ⟨decision, hsection, -⟩ := turn_of_step hstep
  obtain ⟨event, io⟩ := action
  cases event with
  | publish i clock =>
    obtain ⟨found, hfound, hsection⟩ := Option.bind_eq_some_iff.1 hsection
    have howns := h.calls _ (List.mem_of_getElem? hfound)
    refine List.countP_pos_iff.2 ⟨found, List.mem_of_getElem? hfound, ?_⟩
    cases found <;> cases hsection
    · rfl
    · exact howns.elim
    · exact howns.elim
  | _ => cases hpublish

theorem not_settled_of_spoiled (hstart : c.Starts origin) (h : c.Sim origin .spoiled s)
    (hok : Guarded step (c.Admits origin) s actions) (hrun : run step s actions = some t) :
    ¬ c.Settled t := by
  induction actions generalizing s with
  | nil =>
    cases hrun
    obtain ⟨attempt, envelope, hframe, hholds⟩ := h.state
    rintro ⟨attempt', envelope', hattempt, -, hverified, -⟩
    rw [hframe.storedAttempt] at hattempt
    cases hattempt
    rw [show attempt.state = _ from hholds] at hverified
    cases hverified
  | cons action actions ih =>
    cases hstep : step s action with
    | none =>
      simp only [run, hstep] at hrun
      cases hrun
    | some u =>
      obtain ⟨hadmits, hrest⟩ := hok
      simp only [run, hstep] at hrun hrest
      exact ih (sim_step hstart h hadmits hstep) hrest hrun

theorem settled_iff_of_verified (hstart : c.Starts origin) (h : c.Sim origin (.verified n) s)
    (hok : Guarded step (c.Admits origin) s actions) (hrun : run step s actions = some t)
    (hdone : t.calls = []) : c.Settled t ↔ n = 0 := by
  induction actions generalizing s with
  | nil =>
    cases hrun
    obtain ⟨attempt, envelope, hframe, hverified, happlied, heffect, hrevalidation, hcount⟩ := h.state
    rw [hdone] at hcount
    exact ⟨fun _ ↦ hcount.symm, fun _ ↦ ⟨attempt, envelope, hframe.storedAttempt,
      hframe.storedEnvelope, hverified, happlied, heffect, hrevalidation⟩⟩
  | cons action actions ih =>
    cases hstep : step s action with
    | none =>
      simp only [run, hstep] at hrun
      cases hrun
    | some u =>
      obtain ⟨hadmits, hrest⟩ := hok
      simp only [run, hstep] at hrun hrest
      have hnext := sim_step hstart h hadmits hstep
      cases hpublish : isPublish action.event with
      | false =>
        simp only [Phase.next, hpublish, Bool.false_eq_true, if_false] at hnext
        exact ih hnext hrest hrun
      | true =>
        simp only [Phase.next, hpublish, if_true] at hnext
        have hpos := count_pos_of_publish h hstep hpublish
        obtain ⟨attempt, envelope, hframe, hholds⟩ := h.state
        rw [hholds.2.2.2.2] at hpos
        exact iff_of_false (not_settled_of_spoiled hstart hnext hrest hrun)
          (Nat.pos_iff_ne_zero.1 hpos)

/-- How many calls acknowledge before the first one publishes. -/
def acknowledgedBefore (actions : List Action) : ℕ :=
  (actions.takeWhile fun action ↦ !isPublish action.event).countP fun action ↦
    isFinish action.event

theorem settled_iff_of_before (hstart : c.Starts origin) (h : c.Sim origin (.before n) s)
    (hok : Guarded step (c.Admits origin) s actions) (hrun : run step s actions = some t)
    (hdone : t.calls = []) : c.Settled t ↔ n + acknowledgedBefore actions = 1 := by
  induction actions generalizing s n with
  | nil =>
    cases hrun
    obtain ⟨attempt, envelope, hframe, hinflight, -, hcount⟩ := h.state
    rw [hdone] at hcount
    refine iff_of_false ?_ (by rw [← hcount]; exact nofun)
    rintro ⟨attempt', envelope', hattempt, -, hverified, -⟩
    rw [hframe.storedAttempt] at hattempt
    cases hattempt
    rw [hverified] at hinflight
    cases hinflight
  | cons action actions ih =>
    cases hstep : step s action with
    | none =>
      simp only [run, hstep] at hrun
      cases hrun
    | some u =>
      obtain ⟨hadmits, hrest⟩ := hok
      simp only [run, hstep] at hrun hrest
      have hnext := sim_step hstart h hadmits hstep
      cases hpublish : isPublish action.event with
      | true =>
        simp only [Phase.next, hpublish, if_true] at hnext
        have hpos := count_pos_of_publish h hstep hpublish
        obtain ⟨attempt, envelope, hframe, hholds⟩ := h.state
        rw [hholds.2.2] at hpos
        rw [settled_iff_of_verified hstart hnext hrest hrun hdone]
        simp only [acknowledgedBefore, List.takeWhile_cons, hpublish, Bool.not_true,
          Bool.false_eq_true, if_false, List.countP_nil]
        omega
      | false =>
        have hcount : acknowledgedBefore (action :: actions) =
            acknowledgedBefore actions + if isFinish action.event then 1 else 0 := by
          simp only [acknowledgedBefore, List.takeWhile_cons, hpublish, Bool.not_false, if_true,
            List.countP_cons]
        rw [hcount]
        cases hfinish : isFinish action.event with
        | true =>
          simp only [Phase.next, hpublish, hfinish, Bool.false_eq_true, if_false, if_true] at hnext
          rw [ih hnext hrest hrun]
          simp only [if_true]
          omega
        | false =>
          simp only [Phase.next, hpublish, hfinish, Bool.false_eq_true, if_false] at hnext
          rw [ih hnext hrest hrun]
          simp only [Bool.false_eq_true, if_false, Nat.add_zero]

/-- However many completions of one attempt run, and in whatever order, they leave what a single
one leaves exactly when only one call acknowledges before the first one publishes. -/
theorem settled_iff_one_acknowledged (hstart : c.Starts s)
    (hok : Guarded step (c.Admits s) s actions) (hrun : run step s actions = some t)
    (hdone : t.calls = []) : c.Settled t ↔ acknowledgedBefore actions = 1 := by
  have hsim : c.Sim s (.before 0) s := by
    refine ⟨fun call hmem ↦ ?_, c.attempt, c.envelope, ?_, hstart.inflight, fun h ↦ absurd rfl h, ?_⟩
    · rw [hstart.idle] at hmem
      cases hmem
    · exact ⟨hstart.backend, ⟨_, _, rfl⟩, hstart.attempt, hstart.envelope,
        ⟨rfl, rfl, hstart.kind, rfl, rfl⟩, rfl, rfl, rfl⟩
    · rw [hstart.idle]
      rfl
  rw [settled_iff_of_before hstart hsim hok hrun hdone, Nat.zero_add]

end Runs

section Sample

theorem guarded_of_none (hconfig : s.engine.config.durability = .none)
    (h : ∀ action ∈ actions, c.AdmitsEvent origin action.event) :
    Guarded step (c.Admits origin) s actions := by
  induction actions generalizing s with
  | nil => trivial
  | cons action actions ih =>
    refine ⟨⟨h _ List.mem_cons_self, fun _ _ _ ↦ commit_of_none _ hconfig⟩, ?_⟩
    split
    · trivial
    · next t hstep =>
      refine ih ?_ fun _ hmem ↦ h _ (List.mem_cons_of_mem _ hmem)
      rw [config_step hstep]
      exact hconfig

/-- An apply the backend will complete asynchronously: the attempt is in flight, no call runs. -/
def pendingSample : List Action :=
  dispatchSample ++ [⟨.dispatched 0 { status := .pending }, []⟩, ⟨.readClock 0 6, []⟩,
    ⟨.finish 0, []⟩]

def pendingState : System := (run step sampleStart pendingSample).getD sampleStart

def sampleReport : CompletionReport := { status := .completed, acknowledged := true }

def sampleScenario : Scenario where
  attempt := (pendingState.engine.tables.attempts.find 1).getD {}
  envelope := (pendingState.engine.tables.envelopes.find 1).getD {}
  report := sampleReport
  backend := pendingState.engine.control.backend.getD ⟨sampleBackend⟩

theorem getD_of_isSome {α : Type} {o : Option α} (a : α) (h : o.isSome = true) :
    o = some (o.getD a) := by
  cases o with
  | none => cases h
  | some b => rfl

theorem run_pendingSample : run step sampleStart pendingSample = some pendingState :=
  getD_of_isSome _ (by decide +kernel)

theorem sampleScenario_starts : sampleScenario.Starts pendingState where
  attempt := by
    rw [show sampleScenario.attempt.id.value = 1 by decide +kernel]
    exact getD_of_isSome {} (by decide +kernel)
  envelope := by
    rw [show sampleScenario.attempt.envelope.value = 1 by decide +kernel]
    exact getD_of_isSome {} (by decide +kernel)
  kind := by decide +kernel
  inflight := by decide +kernel
  acknowledged := rfl
  answered := by decide
  boot := by decide +kernel
  epoch := by decide +kernel
  backend := getD_of_isSome (⟨sampleBackend⟩ : Backend) (by decide +kernel)
  idle := List.isEmpty_iff.1 (by decide +kernel)

/-- Two completions, one after the other. -/
def inTurn : List Action :=
  [⟨.completeApply ⟨1⟩ sampleReport actor, []⟩, ⟨.readClock 0 7, []⟩, ⟨.finish 0, []⟩,
    ⟨.readBack 0 samplePresent 7, []⟩, ⟨.publish 0 7, []⟩,
    ⟨.completeApply ⟨1⟩ sampleReport actor, []⟩, ⟨.readClock 0 7, []⟩, ⟨.finish 0, []⟩]

def overlapping : List Action :=
  [⟨.completeApply ⟨1⟩ sampleReport actor, []⟩, ⟨.completeApply ⟨1⟩ sampleReport actor, []⟩,
    ⟨.readClock 0 7, []⟩, ⟨.readClock 1 7, []⟩, ⟨.finish 0, []⟩, ⟨.finish 1, []⟩,
    ⟨.readBack 0 samplePresent 7, []⟩, ⟨.readBack 1 samplePresent 7, []⟩, ⟨.publish 0 7, []⟩,
    ⟨.publish 0 7, []⟩]

theorem sampleScenario_admits : ∀ action ∈ inTurn ++ overlapping,
    sampleScenario.AdmitsEvent pendingState action.event := by
  have hid : (⟨1⟩ : EnforcementAttemptId) = sampleScenario.attempt.id := by decide +kernel
  have hcurrent : authorityStatus pendingState.engine.tables sampleScenario.envelope 7 = .none := by
    decide +kernel
  have hexact : sampleScenario.Exact samplePresent := by
    unfold Scenario.Exact
    decide +kernel
  simp only [inTurn, overlapping, List.cons_append, List.nil_append, List.forall_mem_cons,
    List.not_mem_nil, false_implies, implies_true, Scenario.AdmitsEvent, and_true, true_and]
  exact ⟨⟨hid, rfl⟩, hcurrent, hexact, ⟨hid, rfl⟩, hcurrent, ⟨hid, rfl⟩, ⟨hid, rfl⟩, hcurrent,
    hcurrent, hexact, hexact⟩

def sampleAfter (actions : List Action) : System :=
  (run step pendingState actions).getD pendingState

theorem guarded_sample (h : ∀ action ∈ actions, action ∈ inTurn ++ overlapping) :
    Guarded step (sampleScenario.Admits pendingState) pendingState actions :=
  guarded_of_none (by decide +kernel) fun action hmem ↦ sampleScenario_admits action (h action hmem)

theorem settled_after_inTurn : sampleScenario.Settled (sampleAfter inTurn) := by
  have hrun : run step pendingState inTurn = some (sampleAfter inTurn) :=
    getD_of_isSome _ (by decide +kernel)
  refine (settled_iff_one_acknowledged sampleScenario_starts
    (guarded_sample fun action h ↦ List.mem_append_left _ h) hrun
    (List.isEmpty_iff.1 (by decide +kernel))).2 ?_
  decide

/-- Overlapping completions of one attempt end with the attempt rejected as late. -/
theorem overlapping_not_idempotent : ¬ ∀ (c : Scenario) (s t : System) (actions : List Action),
    Reachable s → c.Starts s → Guarded step (c.Admits s) s actions →
    run step s actions = some t → t.calls = [] →
    (∃ action ∈ actions, isPublish action.event = true) → c.Settled t := by
  intro h
  have hrun : run step pendingState overlapping = some (sampleAfter overlapping) :=
    getD_of_isSome _ (by decide +kernel)
  obtain ⟨attempt, envelope, hattempt, -, hverified, -⟩ := h sampleScenario pendingState _
    overlapping (reachable_of_run fresh_sampleStart run_pendingSample) sampleScenario_starts
    (guarded_sample fun action h ↦ List.mem_append_right _ h) hrun
    (List.isEmpty_iff.1 (by decide +kernel)) (by decide)
  have hlate : (((sampleAfter overlapping).engine.tables.attempts.find
      sampleScenario.attempt.id.value).map (·.state)) = some .lateRejected := by
    decide +kernel
  rw [hattempt, Option.map_some, hverified] at hlate
  cases hlate

end Sample

end RateGovernor.Safety.DuplicateCompletions
