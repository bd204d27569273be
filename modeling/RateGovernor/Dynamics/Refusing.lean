import RateGovernor.Dynamics.Driving
import RateGovernor.Dynamics.Shelving
import RateGovernor.Dynamics.Start
import RateGovernor.Dynamics.Tallying

namespace RateGovernor.Dynamics.Refusing

open Model.CheckedMath Model.Identity Model.Reason Model.Entities Model.Envelope
open Model.EngineState Model.Durability Model.Authority Model.Calls Model.Lifecycle
open Model.Completion Model.Execution Foundation.KeyedTable Foundation.GuardedRun
open Install Sections Staging Turns Attempts Halting Driving Shelving Start Tallying

variable {s t : System} {id : RateEnvelopeId} {actor : ActorContext} {session : Session} {now : U64}
  {envelope : RateEnvelope} {backend : Backend}

def refusal : DispatchOutcome := { status := .rejected }

/-- An apply in a system without other calls, and the answer that refuses it. -/
def refusedApply (id : RateEnvelopeId) (actor : ActorContext) (session : Session) (now : U64) :
    List Action :=
  [⟨.apply id actor now session, []⟩, ⟨.dispatched 0 refusal, []⟩, ⟨.readClock 0 now, []⟩,
    ⟨.finish 0, []⟩]

/-- An engine without a journal would dispatch an apply of the envelope at this instant, and nothing
else is going on. -/
structure Appliable (s : System) (id : RateEnvelopeId) (actor : ActorContext) (session : Session)
    (now : U64) (envelope : RateEnvelope) (backend : Backend) : Prop where
  calls : s.calls = []
  unjournalled : s.engine.config.durability = .none
  running : s.engine.control.shuttingDown = false
  actor : checkActor s.engine actor = none
  session : session.live = true
  bound : s.engine.control.backend = some backend
  admitted : s.engine.control.backendBound = true
  room : s.engine.config.maxEnvelopes * s.engine.config.maxAttemptsPerEnvelope ≠ 0
  found : s.engine.tables.envelopes.find id.value = some envelope
  live : envelope.state ≠ .revoked
  cooled : envelope.cooldownUntilNs = 0
  identity : backend.describe.id = envelope.backend
  generation : backend.describe.generation = envelope.backendGeneration
  plan : (derivePlanLocked s.engine envelope now).authorized = true
  unchanged : bindingUnchanged envelope (derivePlanLocked s.engine envelope now).plan = true
  current : authorityStatus s.engine.tables envelope now = .none
  epoch : envelope.plan.fingerprint.epoch = s.engine.tables.epoch
  calm : envelope.plan.hysteresis.cooldownNs = 0
  idle : ∀ k a, s.engine.tables.attempts.find k = some a → attemptInflight a.state = false

/-- Every attempt the tables list was issued by this counter. -/
structure Below (tables : Tables) (next : U64) : Prop where
  listed : ∀ e, ∀ k ∈ tables.attemptList e, k < next
  ordered : ∀ k ∈ tables.attemptOrder, k < next

theorem inflightWithKey_of_idle {tables : Tables} {key : U64}
    (h : ∀ k a, tables.attempts.find k = some a → attemptInflight a.state = false) :
    inflightWithKey tables key = none := by
  refine List.find?_eq_none.2 fun a hmem ↦ ?_
  rw [h a.id.value a (Registry.mem_entries.1 hmem), Bool.and_false]
  exact Bool.false_ne_true

/-- The attempt and the envelope that the first section of the apply writes. -/
def sentAttempt (s : System) (envelope : RateEnvelope) (session : Session) (now : U64) :
    EnforcementAttempt :=
  applyAttempt s.engine envelope session.boot now

def sentTask (s : System) (envelope : RateEnvelope) (session : Session) (now : U64) :
    ApplyTask :=
  ⟨envelope.id, (sentAttempt s envelope session now).id,
    makeApplyRequest (dispatchingEnvelope envelope now) (sentAttempt s envelope session now)⟩

structure Dispatched (s : System) (envelope : RateEnvelope) (session : Session) (now : U64)
    (engine : Engine) : Prop where
  config : engine.config = s.engine.config
  control : engine.control = Control.count (takeAttemptId s.engine.control) fun c ↦
    { c with appliesDispatched := c.appliesDispatched + 1 }
  tables : engine.tables = installed s.engine.config s.engine.tables
    [.created (sentAttempt s envelope session now),
      .envelope .envelopeStateChange (dispatchingEnvelope envelope now)]

theorem dispatched_of_appliable (h : Appliable s id actor session now envelope backend) :
    ∃ decision, sectionOf s (.apply id actor now session) = some decision ∧
      Dispatched s envelope session now (performed s [] decision).engine ∧
      (performed s [] decision).calls =
        [.applying (sentTask s envelope session now) backend] := by
  have hidle : inflightWithKey s.engine.tables
      (computeIdempotencyKey envelope.id envelope.generation .apply) = none :=
    inflightWithKey_of_idle h.idle
  have happly : apply s.engine id actor now session =
      dispatchApply s.engine envelope backend session now := by
    rw [Model.Lifecycle.apply]
    simp only [h.running, h.actor, h.found, h.live, h.cooled, hidle, h.bound, h.admitted, h.session,
      h.identity, h.generation, Bool.false_eq_true, if_false, Bool.not_true, ne_eq,
      not_true_eq_false, decide_false, Bool.false_and, Bool.or_self]
  have hplanned : plannedEnvelope envelope (derivePlanLocked s.engine envelope now).plan =
      envelope := if_pos h.unchanged
  refine ⟨_, rfl, ?_⟩
  have hsettled := @performed_settled s [] (begun s (apply s.engine id actor now session))
    fun _ ↦ commit_of_none [] h.unjournalled
  rw [happly] at hsettled ⊢
  generalize performed s [] _ = t at hsettled ⊢
  obtain ⟨hconfig, hcontrol, htables, hcalls⟩ := hsettled
  simp only [begun, Decision.map, dispatchApply, h.plan, h.unchanged, hplanned, Bool.not_true,
    Bool.false_eq_true, if_false, if_true, publish, List.nil_append] at hcontrol htables hcalls
  refine ⟨⟨hconfig, hcontrol, htables⟩, ?_⟩
  rw [hcalls, h.calls]
  rfl

section Answered

variable {engine : Engine}

/-- The report of a refusal, and what the last section of the apply writes for it. -/
def refusalReport : CompletionReport := applyReport refusal

def refusedEnvelope (envelope : RateEnvelope) (now : U64) : RateEnvelope :=
  refusedApplyEnvelope (dispatchingEnvelope envelope now) refusalReport now

theorem tables_of_dispatched (h : Dispatched s envelope session now engine) :
    ∃ attempts order lists,
      (s.engine.tables.retainAttempt s.engine.config (sentAttempt s envelope session now)) =
        { s.engine.tables with
          attempts, attemptOrder := order, attemptsByEnvelope := lists } ∧
      engine.tables = { s.engine.tables with
        attempts, attemptOrder := order, attemptsByEnvelope := lists
        envelopes := s.engine.tables.envelopes.put (dispatchingEnvelope envelope now) } ∧
      ∀ k a, attempts.find k = some a →
        a = sentAttempt s envelope session now ∨ s.engine.tables.attempts.find k = some a := by
  obtain ⟨attempts, order, lists, heq, hsub⟩ := retainAttempt_tables s.engine.config
    s.engine.tables (sentAttempt s envelope session now)
  refine ⟨attempts, order, lists, heq, ?_, hsub⟩
  have htables := h.tables
  simp only [installed, List.foldl_cons, List.foldl_nil, Tables.install, heq] at htables
  exact htables

theorem find_sentAttempt (h : Appliable s id actor session now envelope backend)
    (hlisted : s.engine.control.nextAttemptId ∉ s.engine.tables.attemptList envelope.id)
    (hordered : s.engine.control.nextAttemptId ∉ s.engine.tables.attemptOrder)
    (hsent : Dispatched s envelope session now engine) :
    engine.tables.attempts.find s.engine.control.nextAttemptId =
      some (sentAttempt s envelope session now) := by
  obtain ⟨attempts, order, lists, heq, htables, -⟩ := tables_of_dispatched hsent
  have hroom : (s.engine.tables.retainAttempt s.engine.config
      (sentAttempt s envelope session now)).attempts.find
        (sentAttempt s envelope session now).id.value = some (sentAttempt s envelope session now) :=
    find_retain_of_room h.room rfl hlisted hordered
  rw [heq] at hroom
  rw [htables]
  exact hroom

theorem finishApply_of_dispatched (h : Appliable s id actor session now envelope backend)
    (hlisted : s.engine.control.nextAttemptId ∉ s.engine.tables.attemptList envelope.id)
    (hordered : s.engine.control.nextAttemptId ∉ s.engine.tables.attemptOrder)
    (hsent : Dispatched s envelope session now engine) :
    finishApply engine (sentTask s envelope session now) refusalReport now =
      acceptApply engine (sentTask s envelope session now) (dispatchingEnvelope envelope now)
        (sentAttempt s envelope session now) refusalReport now := by
  have hattempt : engine.tables.attempts.find (sentTask s envelope session now).attempt.value =
      some (sentAttempt s envelope session now) := find_sentAttempt h hlisted hordered hsent
  obtain ⟨attempts, order, lists, -, htables, -⟩ := tables_of_dispatched hsent
  have henvelope : engine.tables.envelopes.find (sentTask s envelope session now).envelope.value =
      some (dispatchingEnvelope envelope now) := by
    rw [htables]
    exact Registry.find_put_self _ (dispatchingEnvelope envelope now)
  have hcurrent : authorityStatus engine.tables (dispatchingEnvelope envelope now) now = .none := by
    rw [htables]
    exact h.current
  have hepoch : fencingEpoch engine.tables.epoch (sentAttempt s envelope session now)
      refusalReport = false := by
    have hsame : (sentAttempt s envelope session now).fingerprint.epoch = engine.tables.epoch := by
      rw [htables]
      exact h.epoch
    simp only [fencingEpoch, hsame, ne_eq, not_true_eq_false, decide_false, Bool.false_or]
    rfl
  have hboot : fencingBoot (sentAttempt s envelope session now) refusalReport = false := rfl
  have hstate : (sentAttempt s envelope session now).state = .created := rfl
  have hkind : (sentAttempt s envelope session now).kind = .apply := rfl
  have hlive : attemptInflight .created = true := rfl
  rw [finishApply, hattempt, henvelope]
  simp only [hkind, hstate, hlive, hboot, hepoch, hcurrent, ne_eq, not_true_eq_false, if_false,
    reduceCtorEq, Bool.not_true, Bool.or_self, Bool.false_eq_true]
  rfl

structure Refused (s : System) (envelope : RateEnvelope) (now : U64) (t : System) : Prop where
  calls : t.calls = []
  config : t.engine.config = s.engine.config
  control : t.engine.control = Control.count
    (Control.count (takeAttemptId s.engine.control) fun c ↦
      { c with appliesDispatched := c.appliesDispatched + 1 }) fun c ↦
        { c with appliesDegraded := c.appliesDegraded + 1 }
  tables : ∃ attempts order lists, t.engine.tables = { s.engine.tables with
      attempts, attemptOrder := order, attemptsByEnvelope := lists
      envelopes := (s.engine.tables.envelopes.put (dispatchingEnvelope envelope now)).put
        (refusedEnvelope envelope now) }
  idle : ∀ k a, t.engine.tables.attempts.find k = some a → attemptInflight a.state = false
  listed : ∀ e, ∀ k ∈ t.engine.tables.attemptList e,
    k ∈ s.engine.tables.attemptList e ∨ k = s.engine.control.nextAttemptId
  ordered : ∀ k ∈ t.engine.tables.attemptOrder,
    k ∈ s.engine.tables.attemptOrder ∨ k = s.engine.control.nextAttemptId

theorem refused_of_settled (h : Appliable s id actor session now envelope backend)
    (hsent : Dispatched s envelope session now engine)
    (hsettled : Settled { engine, calls := [.applyFinishing (sentTask s envelope session now)
        refusalReport now] }
      (resumed { engine, calls := [.applyFinishing (sentTask s envelope session now)
        refusalReport now] } 0
        (acceptApply engine (sentTask s envelope session now) (dispatchingEnvelope envelope now)
          (sentAttempt s envelope session now) refusalReport now)) t) :
    Refused s envelope now t := by
  obtain ⟨hconfig, hcontrol, htables, hcalls⟩ := hsettled
  obtain ⟨attempts, order, lists, heq, htables', hsub⟩ := tables_of_dispatched hsent
  have hrecords : t.engine.tables = { s.engine.tables with
      attempts := attempts.put (refusedApplyAttempt (sentAttempt s envelope session now)
        refusalReport now)
      attemptOrder := order, attemptsByEnvelope := lists
      envelopes := (s.engine.tables.envelopes.put (dispatchingEnvelope envelope now)).put
        (refusedEnvelope envelope now) } := by
    refine htables.trans ?_
    rw [htables']
    rfl
  refine ⟨hcalls, hconfig.trans hsent.config, ?_, ⟨_, _, _, hrecords⟩, fun k a hfind ↦ ?_,
    fun e k hmem ↦ ?_, fun k hmem ↦ ?_⟩
  · refine hcontrol.trans ?_
    rw [← hsent.control]
    rfl
  · rw [hrecords] at hfind
    simp only [Registry.find_put] at hfind
    split at hfind
    · cases hfind
      rfl
    · next hother =>
      obtain rfl | hold := hsub k a hfind
      · exact absurd (Registry.key_of_find hfind) hother
      · exact h.idle k a hold
  · have hlist : k ∈ (s.engine.tables.retainAttempt s.engine.config
        (sentAttempt s envelope session now)).attemptList e := by
      rw [heq]
      rw [hrecords] at hmem
      exact hmem
    exact mem_list_retain hlist
  · have horder : k ∈ (s.engine.tables.retainAttempt s.engine.config
        (sentAttempt s envelope session now)).attemptOrder := by
      rw [heq]
      rw [hrecords] at hmem
      exact hmem
    exact mem_order_retain horder

theorem drive_refusedApply (h : Appliable s id actor session now envelope backend)
    (hlisted : s.engine.control.nextAttemptId ∉ s.engine.tables.attemptList envelope.id)
    (hordered : s.engine.control.nextAttemptId ∉ s.engine.tables.attemptOrder) :
    Refused s envelope now (drive step s (refusedApply id actor session now)) := by
  obtain ⟨decision, hsection, hsent, hcalls⟩ := dispatched_of_appliable h
  rw [refusedApply, drive_section hsection]
  generalize performed s [] decision = t at hsent hcalls
  have hsectionAnswer : sectionOf t (.dispatched 0 refusal) = some (moved t 0
      (.applyReported (sentTask s envelope session now) refusalReport)) := by
    simp only [sectionOf, hcalls, List.getElem?_cons_zero, Option.bind_eq_bind, Option.bind_some]
    rfl
  obtain ⟨hanswer, -⟩ := @drive_moved t ⟨.dispatched 0 refusal, []⟩
    [⟨.readClock 0 now, []⟩, ⟨.finish 0, []⟩] (.applying (sentTask s envelope session now) backend)
    (.applyReported (sentTask s envelope session now) refusalReport) [] hcalls hsectionAnswer
  rw [hanswer]
  obtain ⟨hclock, -⟩ := @drive_moved { engine := t.engine, calls := [.applyReported
      (sentTask s envelope session now) refusalReport] } ⟨.readClock 0 now, []⟩ [⟨.finish 0, []⟩]
    (.applyReported (sentTask s envelope session now) refusalReport)
    (.applyFinishing (sentTask s envelope session now) refusalReport now) [] rfl rfl
  refine hclock ▸ ?_
  have hfinish := finishApply_of_dispatched h hlisted hordered hsent
  have hsettled := @performed_settled
    { engine := t.engine, calls := [.applyFinishing (sentTask s envelope session now)
      refusalReport now] } []
    (resumed { engine := t.engine, calls := [.applyFinishing (sentTask s envelope session now)
      refusalReport now] } 0
      (finishApply t.engine (sentTask s envelope session now) refusalReport now))
    fun _ ↦ commit_of_none [] (hsent.config ▸ h.unjournalled)
  rw [hfinish] at hsettled
  have hrefused := refused_of_settled h hsent hsettled
  rw [← hfinish] at hrefused
  exact hrefused

end Answered

section Repeating

variable {n : ℕ}

theorem appliable_of_refused (h : Appliable s id actor session now envelope backend)
    (hrefused : Refused s envelope now t) :
    Appliable t id actor session now (refusedEnvelope envelope now) backend := by
  obtain ⟨hcalls, hconfig, hcontrol, ⟨attempts, order, lists, htables⟩, hidle, -, -⟩ := hrefused
  have hkey := Registry.key_of_find h.found
  have hplan : derivePlanLocked t.engine (refusedEnvelope envelope now) now =
      derivePlanLocked s.engine envelope now := by
    unfold derivePlanLocked
    rw [hconfig, htables]
    rfl
  refine
    { calls := hcalls
      unjournalled := ?_
      running := ?_
      actor := ?_
      session := h.session
      bound := ?_
      admitted := ?_
      room := ?_
      found := ?_
      live := nofun
      cooled := ?_
      identity := h.identity
      generation := h.generation
      plan := ?_
      unchanged := ?_
      current := ?_
      epoch := ?_
      calm := h.calm
      idle := hidle }
  · rw [hconfig]
    exact h.unjournalled
  · rw [hcontrol]
    exact h.running
  · have hactor := h.actor
    unfold checkActor at hactor ⊢
    rw [hconfig, htables]
    exact hactor
  · rw [hcontrol]
    exact h.bound
  · rw [hcontrol]
    exact h.admitted
  · rw [hconfig]
    exact h.room
  · rw [htables, ← hkey]
    exact Registry.find_put_self _ (refusedEnvelope envelope now)
  · simp only [refusedEnvelope, refusedApplyEnvelope, dispatchingEnvelope, h.calm, ne_eq,
      not_true_eq_false, decide_false, Bool.and_false, Bool.false_eq_true, if_false]
    exact h.cooled
  · rw [hplan]
    exact h.plan
  · rw [hplan]
    exact h.unchanged
  · rw [htables]
    exact h.current
  · rw [htables]
    exact h.epoch

theorem below_of_refused (hroom : s.engine.control.nextAttemptId.toNat < 0xFFFFFFFFFFFFFFFF)
    (h : Below s.engine.tables s.engine.control.nextAttemptId)
    (hrefused : Refused s envelope now t) :
    Below t.engine.tables t.engine.control.nextAttemptId := by
  have hnext : t.engine.control.nextAttemptId = s.engine.control.nextAttemptId + 1 :=
    congrArg (·.nextAttemptId) hrefused.control
  have hlt : s.engine.control.nextAttemptId < s.engine.control.nextAttemptId + 1 := by
    rw [UInt64.lt_iff_toNat_lt, toNat_succ hroom]
    exact Nat.lt_succ_self _
  rw [hnext]
  constructor
  · intro e k hmem
    obtain hold | rfl := hrefused.listed e k hmem
    · exact UInt64.lt_trans (h.listed e k hold) hlt
    · exact hlt
  · intro k hmem
    obtain hold | rfl := hrefused.ordered k hmem
    · exact UInt64.lt_trans (h.ordered k hold) hlt
    · exact hlt

def refusals (id : RateEnvelopeId) (actor : ActorContext) (session : Session) (now : U64) (n : ℕ) :
    List Action :=
  (List.replicate n (refusedApply id actor session now)).flatten

theorem drive_refusals (h : Appliable s id actor session now envelope backend)
    (hbelow : Below s.engine.tables s.engine.control.nextAttemptId)
    (hroom : s.engine.control.nextAttemptId.toNat + n ≤ 0xFFFFFFFFFFFFFFFF) :
    let t := drive step s (refusals id actor session now n)
    (∃ envelope, Appliable t id actor session now envelope backend) ∧
      Below t.engine.tables t.engine.control.nextAttemptId ∧
      t.engine.control.nextAttemptId.toNat = s.engine.control.nextAttemptId.toNat + n ∧
      tally t.engine.control.counters = { tally s.engine.control.counters with
        dispatched := (tally s.engine.control.counters).dispatched + UInt64.ofNat n
        degraded := (tally s.engine.control.counters).degraded + UInt64.ofNat n } := by
  induction n with
  | zero =>
    refine ⟨⟨envelope, h⟩, hbelow, rfl, ?_⟩
    have hzero : UInt64.ofNat 0 = 0 := rfl
    rw [hzero, UInt64.add_zero, UInt64.add_zero]
    rfl
  | succ n ih =>
    obtain ⟨⟨envelope', happliable⟩, hbelow', hnext, htally⟩ := ih (by omega)
    have hrefusals : refusals id actor session now (n + 1) =
        refusals id actor session now n ++ refusedApply id actor session now := by
      simp only [refusals, List.replicate_succ', List.flatten_append, List.flatten_singleton]
    simp only [hrefusals, drive_append]
    generalize drive step s (refusals id actor session now n) = t at *
    have hrefused := drive_refusedApply happliable
      (fun hmem ↦ UInt64.lt_irrefl _ (hbelow'.listed _ _ hmem))
      (fun hmem ↦ UInt64.lt_irrefl _ (hbelow'.ordered _ hmem))
    generalize drive step t (refusedApply id actor session now) = u at hrefused
    have hlt : t.engine.control.nextAttemptId.toNat < 0xFFFFFFFFFFFFFFFF := by omega
    have hissued : u.engine.control.nextAttemptId = t.engine.control.nextAttemptId + 1 :=
      congrArg (·.nextAttemptId) hrefused.control
    have hcounted : tally u.engine.control.counters = { tally t.engine.control.counters with
        dispatched := (tally t.engine.control.counters).dispatched + 1
        degraded := (tally t.engine.control.counters).degraded + 1 } :=
      congrArg (fun control ↦ tally control.counters) hrefused.control
    refine ⟨⟨_, appliable_of_refused happliable hrefused⟩, below_of_refused hlt hbelow' hrefused,
      ?_, ?_⟩
    · rw [hissued, toNat_succ hlt, hnext]
      omega
    · rw [hcounted, htally, UInt64.ofNat_add]
      simp only [UInt64.add_assoc]
      rfl

/-- One more apply than the identities there are: the refusals stay counted, and one more dispatch
than they are is counted. -/
theorem drive_exhausted (h : Appliable s id actor session now envelope backend)
    (hbelow : Below s.engine.tables s.engine.control.nextAttemptId)
    (hroom : s.engine.control.nextAttemptId.toNat + n = 0xFFFFFFFFFFFFFFFF) :
    ∃ actions, tally (drive step s actions).engine.control.counters =
      { tally s.engine.control.counters with
        dispatched := (tally s.engine.control.counters).dispatched + UInt64.ofNat n + 1 + 1
        degraded := (tally s.engine.control.counters).degraded + UInt64.ofNat n + 1 } := by
  obtain ⟨⟨worn, hworn⟩, hbelow', -, htally⟩ := drive_refusals h hbelow (Nat.le_of_eq hroom)
  refine ⟨refusals id actor session now n ++ refusedApply id actor session now ++
    [⟨.apply id actor now session, []⟩], ?_⟩
  rw [drive_append, drive_append]
  generalize drive step s (refusals id actor session now n) = t at *
  have hrefused := drive_refusedApply hworn
    (fun hmem ↦ UInt64.lt_irrefl _ (hbelow'.listed _ _ hmem))
    (fun hmem ↦ UInt64.lt_irrefl _ (hbelow'.ordered _ hmem))
  generalize drive step t (refusedApply id actor session now) = u at hrefused ⊢
  have hcounted : tally u.engine.control.counters = { tally t.engine.control.counters with
      dispatched := (tally t.engine.control.counters).dispatched + 1
      degraded := (tally t.engine.control.counters).degraded + 1 } :=
    congrArg (fun control ↦ tally control.counters) hrefused.control
  obtain ⟨decision, hsection, hsent, -⟩ :=
    dispatched_of_appliable (appliable_of_refused hworn hrefused)
  have hsentOnce : tally (performed u [] decision).engine.control.counters =
      { tally u.engine.control.counters with
        dispatched := (tally u.engine.control.counters).dispatched + 1 } :=
    congrArg (fun control ↦ tally control.counters) hsent.control
  rw [drive_section hsection]
  refine hsentOnce.trans ?_
  rw [hcounted, htally]

end Repeating

end RateGovernor.Dynamics.Refusing
