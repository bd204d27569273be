import RateGovernor.Dynamics.Buckets
import RateGovernor.Dynamics.Clocks
import RateGovernor.Dynamics.Cooling
import RateGovernor.Dynamics.Rereading
import RateGovernor.Safety.Tasking

namespace RateGovernor.Safety.RefusedCooldown

open Model.CheckedMath Model.Identity Model.Reason Model.Entities Model.Envelope Model.EngineState
open Model.Journal Model.JournalWriter Model.Calls Model.Lifecycle Model.Completion Model.Execution
open Model.Recovery Foundation.ByteCodec Foundation.KeyedTable Foundation.GuardedRun
open Dynamics.Install Dynamics.Turns Dynamics.Evolution Dynamics.Bindings Dynamics.Attempts
open Dynamics.Clocks Dynamics.Cooling Dynamics.Buckets Dynamics.Staging Dynamics.Start
open Dynamics.Commits Dynamics.Compacting Dynamics.Snapshots Dynamics.Rereading OneInFlight Tasking
open Dynamics.Sections hiding InFlight

variable {s t start : System} {c d u : Clocked} {timed timed' : Timed} {event : Event}
  {action : Action} {envelope : RateEnvelope} {attempt : EnforcementAttempt} {task : ApplyTask}
  {k limit reading cooldown : U64} {i : ℕ}

section Cooling

def RevokedAt (s : System) (k : U64) : Prop :=
  ∃ envelope, s.engine.tables.envelopes.find k = some envelope ∧ envelope.state = .revoked

/-- The envelope cools down at least until the instant, with no apply in flight. -/
structure CoolsUntil (s : System) (k limit : U64) : Prop where
  cooling : ∃ envelope, s.engine.tables.envelopes.find k = some envelope ∧
    limit ≤ envelope.cooldownUntilNs
  idle : ∀ k' attempt, InFlight s k' attempt → attempt.kind = .apply →
    attempt.envelope.value ≠ k

theorem not_created_of_cooling (h : CoolsUntil s k limit)
    (hearly : ∀ now, readingOf event = some now → now < limit)
    (hcreated : Stages s event (.created attempt)) (hkind : attempt.kind = .apply) :
    attempt.envelope.value ≠ k := by
  intro hk
  obtain ⟨envelope, hfind, huntil⟩ := h.cooling
  cases hcreated with
  | @createdApply id actor now session admittedEnvelope backend admitted =>
    have hid : (plannedEnvelope admittedEnvelope (planNow s admittedEnvelope now)).id =
        admittedEnvelope.id := congrArg Binding.id (binding_plannedEnvelope _ _)
    have hsame : admittedEnvelope.id.value = k := by
      rw [← hid]
      exact hk
    have hkey := Registry.key_of_find admitted.found
    have hfound := admitted.found
    rw [← hkey, hsame, hfind] at hfound
    cases hfound
    have hlt := UInt64.lt_of_lt_of_le (hearly now rfl) huntil
    obtain hzero | hpassed := admitted.cooled
    · rw [hzero] at hlt
      exact absurd hlt (Nat.not_lt_zero _)
    · exact absurd hlt (UInt64.not_lt.2 hpassed)
  | createdRevoke => cases hkind

theorem not_cooling_of_task {call : Call} (h : CoolsUntil s k limit) (hconsistent : Consistent s)
    (hmem : call ∈ s.calls) (htask : applyTask call = some task)
    (hfind : s.engine.tables.attempts.find task.attempt.value = some attempt)
    (hlive : attemptInflight attempt.state = true) : task.envelope.value ≠ k := by
  obtain ⟨hnamed, hkind⟩ := hconsistent.tied call hmem task htask attempt hfind
  rw [← hnamed]
  exact h.idle _ attempt ⟨hfind, hlive⟩ hkind

theorem cooling_step (h : CoolsUntil s k limit) (hconsistent : Consistent s)
    (hfresh : reuses s action.event = false)
    (hearly : ∀ now, readingOf action.event = some now → now < limit)
    (hstep : step s action = some t) : RevokedAt t k ∨ CoolsUntil t k limit := by
  obtain ⟨envelope, hfind, huntil⟩ := h.cooling
  obtain ⟨kept, hkept, hbecomes⟩ := binding_kept hfresh hstep hfind
  have hidle : ∀ k' attempt, InFlight t k' attempt → attempt.kind = .apply →
      attempt.envelope.value ≠ k := by
    intro k' attempt hlive hkind
    obtain hcreated | ⟨old, hold, hsame, -⟩ := inflight_before hstep hlive
    · exact not_created_of_cooling h hearly hcreated hkind
    · simp only [identity, AttemptIdentity.mk.injEq] at hsame
      obtain ⟨-, hnamed, -, hsort, -, -⟩ := hsame
      rw [hnamed]
      exact h.idle k' old hold (hsort.symm.trans hkind)
  have cools (hsame : SameCooldown envelope kept) : CoolsUntil t k limit :=
    ⟨⟨kept, hkept, hsame ▸ huntil⟩, hidle⟩
  obtain rfl | ⟨-, type, hstages, htype⟩ := hbecomes
  · exact .inr (cools rfl)
  · have hkey := Registry.key_of_find hkept
    have hown := Registry.key_of_find hfind
    have hstored : s.engine.tables.envelopes.find kept.id.value = some envelope := by
      rw [hkey]
      exact hfind
    cases recools_of_stages hstages htype hstored with
    | kept hsame => exact .inr (cools hsame)
    | expired hticked hpassed =>
      have hlt := hearly _ (congrArg readingOf hticked)
      exact absurd (UInt64.lt_of_lt_of_le hlt huntil) (UInt64.not_lt.2 hpassed)
    | refused accepted =>
      have hnot := not_cooling_of_task h hconsistent (List.mem_of_getElem? accepted.call) rfl
        accepted.storedAttempt accepted.inflight
      have hstored := Registry.key_of_find accepted.storedEnvelope
      exact absurd (hstored.symm.trans hown) hnot
    | confirmed judged =>
      have hlive : attemptInflight .acknowledged = true := rfl
      rw [← judged.acknowledged] at hlive
      have hnot := not_cooling_of_task h hconsistent (List.mem_of_getElem? judged.call) rfl
        judged.storedAttempt hlive
      have hstored := Registry.key_of_find judged.storedEnvelope
      exact absurd (hstored.symm.trans hown) hnot
    | revoked hstate => exact .inl ⟨kept, hkept, hstate⟩

end Cooling

section Refusals

/-- The call's completion records at the reading that its apply was not acknowledged, for an
envelope whose plan has the cooldown. -/
structure Refuses (s t : System) (i : ℕ) (k reading cooldown : U64) : Prop where
  recorded : ∃ task report attempt ended,
    s.calls[i]? = some (.applyFinishing task report reading) ∧ report.acknowledged = false ∧
    task.envelope.value = k ∧
    s.engine.tables.attempts.find task.attempt.value = some attempt ∧
    attemptInflight attempt.state = true ∧
    t.engine.tables.attempts.find task.attempt.value = some ended ∧
    (ended.state = .failed ∨ ended.state = .ambiguous)
  planned : ∃ envelope, s.engine.tables.envelopes.find k = some envelope ∧
    envelope.hasPlan = true ∧ envelope.plan.hysteresis.cooldownNs = cooldown
  positive : cooldown ≠ 0

theorem not_inflight_of_refused (h : attempt.state = .failed ∨ attempt.state = .ambiguous) :
    attemptInflight attempt.state = false := by
  obtain h | h := h <;> (rw [h]; rfl)

theorem tables_of_refuses (hevent : action.event = .finish i) (hstep : step s action = some t)
    {task : ApplyTask} {report : CompletionReport} {ended : EnforcementAttempt}
    (hcall : s.calls[i]? = some (.applyFinishing task report reading))
    (hattempt : s.engine.tables.attempts.find task.attempt.value = some attempt)
    (hlive : attemptInflight attempt.state = true)
    (hended : t.engine.tables.attempts.find task.attempt.value = some ended)
    (hover : attemptInflight ended.state = false) :
    t.engine.tables = installed s.engine.config s.engine.tables
      (finishApply s.engine task report reading).records := by
  have changed (htables : t.engine.tables = s.engine.tables) : False := by
    rw [htables, hattempt] at hended
    cases hended
    rw [hlive] at hover
    cases hover
  obtain ⟨decision, hsection, hturn⟩ := turn_of_step hstep
  have hdecision : sectionOf s (.finish i) =
      some (resumed s i (finishApply s.engine task report reading)) := by
    simp only [sectionOf, hcall, Option.bind_eq_bind, Option.bind_some, onFinish]
  rw [hevent, hdecision] at hsection
  cases hsection
  cases hturn with
  | quiet => exact (changed rfl).elim
  | failed => exact (changed rfl).elim
  | committed => rfl

theorem cooling_of_refuses (h : Consistent s) (hevent : action.event = .finish i)
    (hstep : step s action = some t) (hrefuses : Refuses s t i k reading cooldown) :
    CoolsUntil t k (saturatingAdd reading cooldown) := by
  obtain ⟨task, report, attempt, ended, hcall, hrefused, hnamed, hattempt, hlive, hended, hstate⟩ :=
    hrefuses.recorded
  obtain ⟨envelope, henvelope, hplan, hcooldown⟩ := hrefuses.planned
  have hover := not_inflight_of_refused hstate
  have htables := tables_of_refuses hevent hstep hcall hattempt hlive hended hover
  have hstored {attempt' : EnforcementAttempt}
      (hput : t.engine.tables.attempts = s.engine.tables.attempts.put attempt')
      (hid : attempt'.id = attempt.id) : attempt' = ended := by
    have hkey := Registry.key_of_find hattempt
    rw [← hid] at hkey
    rw [hput, ← hkey, Registry.find_put_self] at hended
    exact Option.some.inj hended
  refine ⟨?_, fun k' other hother hkind hk ↦ ?_⟩
  · obtain hnone | ⟨found, owner, finishing, ⟨reason, detail, heq⟩ | ⟨accepted, heq⟩⟩ :=
      finishApply_cases hcall
    · obtain ⟨counters, result, heq⟩ := hnone
      rw [heq] at htables
      have hsame : t.engine.tables.attempts = s.engine.tables.attempts := congrArg _ htables
      rw [hsame, hattempt] at hended
      cases hended
      rw [hlive] at hover
      cases hover
    · cases hattempt.symm.trans finishing.storedAttempt
      rw [heq] at htables
      have hlate := hstored (congrArg Tables.attempts htables) rfl
      rw [← hlate] at hstate
      simp only [lateAttempt] at hstate
      split at hstate
      · obtain hstate | hstate := hstate <;> cases hstate
      · next hambiguous =>
        rw [not_not.1 hambiguous] at hlive
        cases hlive
    · cases hattempt.symm.trans accepted.storedAttempt
      have howner := accepted.storedEnvelope
      rw [hnamed, henvelope] at howner
      cases howner
      rw [heq, acceptApply] at htables
      simp only at htables
      split at htables
      · have hpending := hstored (congrArg Tables.attempts htables) rfl
        rw [← hpending] at hover
        cases hover
      · rw [if_pos (by rw [hrefused]; rfl)] at htables
        have hput : t.engine.tables.envelopes =
            s.engine.tables.envelopes.put (refusedApplyEnvelope envelope report reading) :=
          congrArg Tables.envelopes htables
        have hkey := Registry.key_of_find henvelope
        refine ⟨refusedApplyEnvelope envelope report reading, ?_, ?_⟩
        · rw [hput, ← hkey]
          exact Registry.find_put_self _ (refusedApplyEnvelope envelope report reading)
        · simp only [refusedApplyEnvelope, hplan, hcooldown, ne_eq, hrefuses.positive,
            not_false_eq_true, decide_true, Bool.and_self, if_true]
          exact UInt64.le_refl _
  · obtain hcreated | ⟨old, hold, hsame, -⟩ := inflight_before hstep hother
    · rw [hevent] at hcreated
      cases hcreated
    · simp only [identity, AttemptIdentity.mk.injEq] at hsame
      obtain ⟨-, hsameEnvelope, -, hsort, -, -⟩ := hsame
      obtain ⟨hown, hsort'⟩ := h.tied _ (List.mem_of_getElem? hcall) task rfl attempt hattempt
      have henvelopes : old.envelope = attempt.envelope := by
        rw [hown, ← hsameEnvelope]
        exact StrongId.eq_of_value (hk.trans hnamed.symm)
      have halone := h.lone hold ⟨hattempt, hlive⟩ henvelopes
        (hsort.symm.trans (hkind.trans hsort'.symm))
      obtain ⟨hfind, hflies⟩ := hother
      rw [halone, hended] at hfind
      cases hfind
      rw [hover] at hflies
      cases hflies

end Refusals

section Runs

/-- The clock does not run backwards, and no number is given out while it is still in use. -/
def Orderly (c : Clocked) (timed : Timed) : Prop :=
  Timely c timed ∧ reuses c.system timed.event = false

def Unrevoked (k : U64) (c : Clocked) (timed : Timed) : Prop :=
  Orderly c timed ∧ ¬RevokedAt c.system k

theorem consistent_of_reaches (hstart : Starts start)
    (hrun : Reaches clockedStep Orderly { system := start } c) : Consistent c.system :=
  hrun.invariant (I := fun c ↦ Consistent c.system) (consistent_of_starts hstart)
    fun _ _ _ h hok hstep ↦ consistent_step h hok.2 (system_step hstep)

theorem early_of_timely (h : Timely c timed) (hinstant : timed.instant < limit) :
    ∀ now, readingOf timed.event = some now → now < limit :=
  fun now hnow ↦ UInt64.lt_of_le_of_lt (h.read now hnow) hinstant

/-- A cooldown lasts until its end, unless the envelope is revoked before. -/
theorem cools_of_reaches (hconsistent : Consistent d.system) (hcools : CoolsUntil d.system k limit)
    (hlater : Reaches clockedStep (Unrevoked k) d u) (hclock : u.clock < limit) :
    RevokedAt u.system k ∨ CoolsUntil u.system k limit := by
  have hinv : Consistent u.system ∧
      (u.clock < limit → RevokedAt u.system k ∨ CoolsUntil u.system k limit) := by
    refine hlater.invariant (I := fun u ↦ Consistent u.system ∧
      (u.clock < limit → RevokedAt u.system k ∨ CoolsUntil u.system k limit))
      ⟨hconsistent, fun _ ↦ .inr hcools⟩ fun x timed y h hok hstep ↦ ?_
    obtain ⟨⟨htimely, hfresh⟩, hunrevoked⟩ := hok
    have hsystem := system_step hstep
    refine ⟨consistent_step h.1 hfresh hsystem, fun hclock ↦ ?_⟩
    rw [clock_step hstep] at hclock
    have hbefore := h.2 (UInt64.lt_of_le_of_lt htimely.forward hclock)
    exact cooling_step (hbefore.resolve_left hunrevoked) h.1 hfresh (early_of_timely htimely hclock)
      hsystem
  exact hinv.2 hclock

/-- In a run on a clock that does not run backwards, in which no number is given out while it is
still in use: once a refused apply is recorded at a reading, for an envelope whose plan has a
cooldown, no section that runs before the cooldown is over creates an apply for the envelope, unless
the envelope has been revoked. -/
theorem refused_apply_cools (hstart : Starts start)
    (hrun : Reaches clockedStep Orderly { system := start } c) (hok : Orderly c timed)
    (hevent : timed.event = .finish i) (hstep : clockedStep c timed = some d)
    (hrefuses : Refuses c.system d.system i k reading cooldown)
    (hlater : Reaches clockedStep (Unrevoked k) d u) (htimely : Timely u timed')
    (hunrevoked : ¬RevokedAt u.system k)
    (hearly : timed'.instant.toNat < min (reading.toNat + cooldown.toNat) (2 ^ 64 - 1)) :
    ∀ decision, sectionOf u.system timed'.event = some decision →
      ∀ attempt, .created attempt ∈ decision.records → attempt.kind = .apply →
        attempt.envelope.value ≠ k := by
  intro decision hsection attempt hcreated hkind
  have hinstant : timed'.instant < saturatingAdd reading cooldown := by
    rw [UInt64.lt_iff_toNat_lt, toNat_saturatingAdd]
    exact hearly
  have hsystem := system_step hstep
  have hconsistent := consistent_of_reaches hstart hrun
  have hcools := cooling_of_refuses hconsistent hevent hsystem hrefuses
  have hclock := UInt64.lt_of_le_of_lt htimely.forward hinstant
  have hcooling := (cools_of_reaches (consistent_step hconsistent hok.2 hsystem) hcools hlater
    hclock).resolve_left hunrevoked
  exact not_created_of_cooling hcooling (early_of_timely htimely hinstant)
    (stages_of_sectionOf hsection hcreated) hkind

end Runs

section Samples

instance (s : System) (k : U64) : Decidable (RevokedAt s k) :=
  decidable_of_iff ((s.engine.tables.envelopes.find k).any (·.state = .revoked) = true) (by
    simp only [Option.any_eq_true, decide_eq_true_eq]
    exact Iff.rfl)

instance (c : Clocked) (timed : Timed) : Decidable (Orderly c timed) :=
  inferInstanceAs (Decidable (_ ∧ _))

instance (k : U64) (c : Clocked) (timed : Timed) : Decidable (Unrevoked k c timed) :=
  inferInstanceAs (Decidable (_ ∧ _))

def refuses (s t : System) (i : ℕ) (k reading cooldown : U64) : Bool :=
  (match s.calls[i]? with
    | some (Call.applyFinishing task report now) =>
      now = reading && !report.acknowledged && task.envelope.value = k &&
        ((s.engine.tables.attempts.find task.attempt.value).any fun attempt ↦
          attemptInflight attempt.state) &&
        (t.engine.tables.attempts.find task.attempt.value).any fun ended ↦
          ended.state = .failed || ended.state = .ambiguous
    | _ => false) &&
  ((s.engine.tables.envelopes.find k).any fun envelope ↦
    envelope.hasPlan && envelope.plan.hysteresis.cooldownNs = cooldown) &&
  cooldown ≠ 0

theorem refuses_of_test (h : refuses s t i k reading cooldown = true) :
    Refuses s t i k reading cooldown := by
  simp only [refuses, Bool.and_eq_true, decide_eq_true_eq, Option.any_eq_true] at h
  obtain ⟨⟨hrecorded, planned⟩, positive⟩ := h
  refine ⟨?_, planned, positive⟩
  split at hrecorded
  · next task report now hcall =>
    simp only [Bool.and_eq_true, Bool.or_eq_true, Bool.not_eq_true', decide_eq_true_eq,
      Option.any_eq_true] at hrecorded
    obtain ⟨⟨⟨⟨rfl, hrefused⟩, hnamed⟩, attempt, hattempt, hlive⟩, ended, hended, hstate⟩ :=
      hrecorded
    exact ⟨task, report, attempt, ended, hcall, hrefused, hnamed, hattempt, hlive, hended, hstate⟩
  · cases hrecorded

def scenario (start : System) (before : List Timed) (completion : Timed) (after : List Timed)
    (P : Clocked → Clocked → Clocked → Bool) : Bool :=
  ((run clockedStep { system := start } before).bind fun c ↦
    (clockedStep c completion).bind fun d ↦
      (run clockedStep d after).map fun u ↦ P c d u) = some true

theorem of_scenario {before after : List Timed} {completion : Timed}
    {P : Clocked → Clocked → Clocked → Bool}
    (h : scenario start before completion after P = true) : ∃ c d u,
      run clockedStep { system := start } before = some c ∧ clockedStep c completion = some d ∧
      run clockedStep d after = some u ∧ P c d u = true := by
  obtain ⟨c, hbefore, h⟩ := Option.bind_eq_some_iff.1 (of_decide_eq_true h)
  obtain ⟨d, hstep, h⟩ := Option.bind_eq_some_iff.1 h
  obtain ⟨u, hafter, h⟩ := Option.map_eq_some_iff.1 h
  exact ⟨c, d, u, hbefore, hstep, hafter, h⟩

def timedAt (instant : U64) (actions : List Action) : List Timed :=
  actions.map fun action ↦ { toAction := action, instant }

def coolingRegister : List Action :=
  register.set 3 ⟨.putPolicy { samplePolicy with hysteresis := { cooldownNs := 50 } }, []⟩

def refusedSample : List Action :=
  coolingRegister ++
    [⟨.openEnvelope sampleRequest actor 5, []⟩, ⟨.apply ⟨1⟩ actor 5 {}, []⟩,
      ⟨.dispatched 0 { status := .rejected }, []⟩, ⟨.readClock 0 6, []⟩]

def refusal : Timed := { event := .finish 0, instant := 6 }

def meanwhile : List Timed := timedAt 40 [⟨.tick 40 {}, []⟩, ⟨.markSessionLost actor, []⟩]

def earlyApply : Timed := { event := .apply ⟨1⟩ actor 55 {}, instant := 55 }

theorem cools_after_refusal : ∃ c d u,
    Reaches clockedStep Orderly { system := sampleStart } c ∧ clockedStep c refusal = some d ∧
    Refuses c.system d.system 0 1 6 50 ∧ Reaches clockedStep (Unrevoked 1) d u ∧
    ∀ decision, sectionOf u.system earlyApply.event = some decision →
      ∀ attempt, .created attempt ∈ decision.records → attempt.kind = .apply →
        attempt.envelope.value ≠ 1 := by
  have hguarded : Guarded clockedStep Orderly { system := sampleStart }
      (timedAt 6 refusedSample) := by decide +kernel
  obtain ⟨c, d, u, hbefore, hstep, hafter, htest⟩ :=
    @of_scenario sampleStart (timedAt 6 refusedSample) meanwhile refusal
      (fun c d u ↦ refuses c.system d.system 0 1 6 50 && Orderly c refusal &&
        Guarded clockedStep (Unrevoked 1) d meanwhile && Timely u earlyApply &&
        !RevokedAt u.system 1) (by decide +kernel)
  simp only [Bool.and_eq_true, Bool.not_eq_true', decide_eq_true_eq, decide_eq_false_iff_not]
    at htest
  obtain ⟨⟨⟨⟨htest, hok⟩, hlater⟩, htimely⟩, hunrevoked⟩ := htest
  have hrefuses := refuses_of_test htest
  exact ⟨c, d, u, reaches_of_run hguarded hbefore, hstep, hrefuses, reaches_of_run hlater hafter,
    refused_apply_cools (.fresh fresh_sampleStart) (reaches_of_run hguarded hbefore) hok rfl hstep
      hrefuses (reaches_of_run hlater hafter) htimely hunrevoked (by decide)⟩

def spent (id : U64) : EnforcementAttempt :=
  { id := ⟨id⟩, envelope := ⟨1⟩, envelopeGeneration := ⟨1⟩, kind := .apply, state := .verified }

def exhausted : List (JournalRecordType × Bytes) :=
  [spent 1, spent kU64Max].map fun attempt ↦ Staged.record ⟨1⟩ (.created attempt)

def recoveredFrom (entries : List (JournalRecordType × Bytes)) : System :=
  match recoverFrom {} ((content compactedHeader :: entries).map unplaced) (compactedFile entries)
    60 60 [] with
  | .ok engine => { engine }
  | .error _ => sampleStart

theorem starts_recoveredFrom {entries : List (JournalRecordType × Bytes)}
    (hplain : ∀ entry ∈ entries, Plain entry.1)
    (hfits : ∀ entry ∈ entries, entry.2.length ≤ kScanPayloadBound)
    (hsize : (compactedFile entries).length ≤ kJournalMaxScanBytes) :
    Starts (recoveredFrom entries) := by
  have hrecovers := recoverEngine_compacted hplain hfits hsize {} 60 60 []
  unfold recoveredFrom
  split
  · next engine hengine =>
    refine @Starts.recovered false {} (compactedFile entries) 60 60 [] [] engine ?_
    rw [recoverEngineWith, hrecovers, hengine]
    rfl
  · exact .fresh fresh_sampleStart

theorem starts_exhausted : Starts (recoveredFrom exhausted) := by
  refine starts_recoveredFrom (fun entry hmem ↦ ?_) (fun entry hmem ↦ ?_) (by decide +kernel)
  · obtain ⟨attempt, -, rfl⟩ := List.mem_map.1 hmem
    exact ⟨nofun, nofun⟩
  · obtain ⟨attempt, -, rfl⟩ := List.mem_map.1 hmem
    exact record_length_le _ _

def laterActor : ActorContext := { epoch := ⟨2⟩, boot := ⟨1⟩, provenance := operator }

def laterSession : Session := { epoch := ⟨2⟩, boot := ⟨1⟩ }

def overtaken : List Timed :=
  timedAt 71 (coolingRegister ++
    [⟨.bindBackend (some ⟨sampleBackend⟩) ⟨2⟩ laterSession, []⟩,
      ⟨.openEnvelope sampleRequest laterActor 70, []⟩,
      ⟨.openEnvelope sampleRequest laterActor 70, []⟩, ⟨.apply ⟨1⟩ laterActor 70 laterSession, []⟩,
      ⟨.completeApply ⟨1⟩ { acknowledged := true, status := .completed, epoch := ⟨2⟩, boot := ⟨1⟩ }
        laterActor, []⟩,
      ⟨.dispatched 0 { status := .rejected }, []⟩, ⟨.readClock 0 71, []⟩])

/-- The number of the first attempt is given out again, to an apply for another envelope. -/
def renumbered : List Timed :=
  timedAt 73
    [⟨.apply ⟨2⟩ laterActor 72 laterSession, []⟩, ⟨.readClock 0 73, []⟩, ⟨.finish 0, []⟩,
      ⟨.readBack 0 samplePresent 73, []⟩, ⟨.publish 0 73, []⟩]

def laterRefusal : Timed := { event := .finish 0, instant := 71 }

def laterApply : Timed := { event := .apply ⟨1⟩ laterActor 80 laterSession, instant := 80 }

def createsApply (k : U64) : Staged → Bool
  | .created attempt => attempt.kind = .apply && attempt.envelope.value = k
  | _ => false

theorem created_of_test {staged : Staged} (h : createsApply k staged = true) :
    ∃ attempt, staged = .created attempt ∧ attempt.kind = .apply ∧ attempt.envelope.value = k := by
  unfold createsApply at h
  split at h
  · next attempt =>
    simp only [Bool.and_eq_true, decide_eq_true_eq] at h
    exact ⟨attempt, rfl, h⟩
  · cases h

/-- An attempt number that is given out again lets another apply end the cooldown. -/
theorem renumbered_ends_cooldown : ¬∀ start c d u timed timed' i k reading cooldown,
    Starts start → Reaches clockedStep Timely { system := start } c → Timely c timed →
    timed.event = .finish i → clockedStep c timed = some d →
    Refuses c.system d.system i k reading cooldown →
    Reaches clockedStep (fun c timed ↦ Timely c timed ∧ ¬RevokedAt c.system k) d u →
    Timely u timed' → ¬RevokedAt u.system k →
    timed'.instant.toNat < min (reading.toNat + cooldown.toNat) (2 ^ 64 - 1) →
    ∀ decision, sectionOf u.system timed'.event = some decision →
      ∀ attempt, .created attempt ∈ decision.records → attempt.kind = .apply →
        attempt.envelope.value ≠ k := by
  intro h
  have hguarded : Guarded clockedStep Timely { system := recoveredFrom exhausted } overtaken := by
    decide +kernel
  obtain ⟨c, d, u, hbefore, hstep, hafter, htest⟩ :=
    @of_scenario (recoveredFrom exhausted) overtaken renumbered laterRefusal
      (fun c d u ↦ refuses c.system d.system 0 1 71 50 && Timely c laterRefusal &&
        Guarded clockedStep (fun c timed ↦ Timely c timed ∧ ¬RevokedAt c.system 1) d renumbered &&
        Timely u laterApply && !RevokedAt u.system 1 &&
        (sectionOf u.system laterApply.event).any fun decision ↦
          decision.records.any (createsApply 1)) (by decide +kernel)
  simp only [Bool.and_eq_true, Bool.not_eq_true', decide_eq_true_eq, decide_eq_false_iff_not,
    Option.any_eq_true, List.any_eq_true] at htest
  obtain ⟨⟨⟨⟨⟨htest, hok⟩, hlater⟩, htimely⟩, hunrevoked⟩, decision, hsection, staged, hmem,
    hcreated⟩ := htest
  obtain ⟨attempt, rfl, hkind, hnamed⟩ := created_of_test hcreated
  exact h _ c d u laterRefusal laterApply 0 1 71 50 starts_exhausted
    (reaches_of_run hguarded hbefore) hok rfl hstep (refuses_of_test htest)
    (reaches_of_run hlater hafter) htimely hunrevoked (by decide) decision hsection attempt hmem
    hkind hnamed

end Samples

end RateGovernor.Safety.RefusedCooldown
