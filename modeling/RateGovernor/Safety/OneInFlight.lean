import RateGovernor.Dynamics.Filing
import RateGovernor.Dynamics.Demotion

namespace RateGovernor.Safety.OneInFlight

open Model.CheckedMath Model.Identity Model.Entities Model.Envelope Model.EngineState
open Model.Lifecycle Model.Execution Model.Recovery Foundation.KeyedTable Foundation.GuardedRun
open Dynamics.Install Dynamics.Staging Dynamics.Sections Dynamics.Turns Dynamics.Evolution
open Dynamics.Issue Dynamics.Attempts
open Dynamics.Filing Dynamics.Demotion Dynamics.Serials Dynamics.Halting Dynamics.Start

variable {s t start : System} {action : Action} {incident : Incident} {k k' : U64}
  {a a' : EnforcementAttempt}

/-- Where the life of an engine begins: it is constructed, or a recovery from any file hands it
out. -/
inductive Starts : System → Prop
  | fresh {s : System} (constructed : Fresh s) : Starts s
  | recovered {truncate config file demotedNs advancedNs io tailIo engine}
      (done : recoverEngineWith truncate config file demotedNs advancedNs io tailIo = .ok engine) :
      Starts { engine }

/-- The attempt is stored under the number, and Created, Dispatched or Acknowledged. -/
def InFlight (s : System) (k : U64) (a : EnforcementAttempt) : Prop :=
  s.engine.tables.attempts.find k = some a ∧ attemptInflight a.state = true

/-- Attempts in flight are known by the key of what they are for, and no two share one. -/
structure Keyed (s : System) : Prop where
  key : ∀ k a, InFlight s k a → a.idempotencyKey =
    computeIdempotencyKey a.envelope a.envelopeGeneration a.kind
  apart : ∀ k k' a a', InFlight s k a → InFlight s k' a' →
    a.idempotencyKey = a'.idempotencyKey → k = k'

section Engine

theorem keyed_of_none (h : ∀ k a, ¬ InFlight s k a) : Keyed s :=
  ⟨fun k a hlive ↦ absurd hlive (h k a), fun k _ a _ hlive ↦ absurd hlive (h k a)⟩

/-- The incident is a section that creates an attempt with this number. -/
def issues (k : U64) (s : System) : Incident → Prop
  | .act action => ∃ decision attempt, sectionOf s action.event = some decision ∧
      .created attempt ∈ decision.records ∧ attempt.id.value = k
  | .crash _ => False

/-- What is in flight after a step was created by it, or was in flight before. -/
theorem inflight_step (hstep : step s action = some t) (h : InFlight t k a) :
    (issues k s (.act action) ∧ ∃ envelope, Creates s a envelope) ∨
      ∃ old, InFlight s k old ∧ identity a = identity old := by
  obtain ⟨hfind, hlive⟩ := h
  obtain ⟨decision, hsection, hturn⟩ := turn_of_step hstep
  cases hturn with
  | quiet => exact .inr ⟨a, ⟨hfind, hlive⟩, rfl⟩
  | failed => exact .inr ⟨a, ⟨hfind, hlive⟩, rfl⟩
  | committed =>
    obtain ⟨record, hmem, hattempt⟩ | hold := installed_attempts _ _ hfind
    · have hstages := stages_of_sectionOf hsection hmem
      cases record with
      | created value =>
        cases hattempt
        have hk := Registry.key_of_find hfind
        exact .inl ⟨⟨decision, a, hsection, hmem, hk⟩, creates_of_stages hstages⟩
      | attempt type value =>
        cases hattempt
        obtain ⟨old, hold, hmoves⟩ := moves_of_stages hstages
        rw [Registry.key_of_find hfind] at hold
        exact .inr ⟨old, ⟨hold, hmoves.live hlive⟩, hmoves.same⟩
      | _ => cases hattempt
    · exact .inr ⟨a, ⟨hold, hlive⟩, rfl⟩

theorem key_ne_of_creates {envelope : RateEnvelope} (hcreates : Creates s a envelope)
    (h : InFlight s k' a') : a'.idempotencyKey ≠ a.idempotencyKey := by
  intro hkey
  have hidle := List.find?_eq_none.1 hcreates.idle a' (Registry.mem_entries_of_find h.1)
  simp only [hkey, h.2, decide_true, Bool.and_self, not_true_eq_false] at hidle

theorem keyed_step (h : Keyed s) (hstep : step s action = some t) : Keyed t where
  key k a hlive := by
    obtain ⟨-, envelope, hcreates⟩ | ⟨old, hold, hsame⟩ := inflight_step hstep hlive
    · exact hcreates.key
    · have hkey := h.key k old hold
      simp only [identity, AttemptIdentity.mk.injEq] at hsame
      obtain ⟨-, henvelope, hgeneration, hkind, -, hidempotency⟩ := hsame
      rw [hidempotency, henvelope, hgeneration, hkind]
      exact hkey
  apart k k' a a' hlive hlive' hkey := by
    obtain ⟨-, envelope, hcreates⟩ | ⟨old, hold, hsame⟩ := inflight_step hstep hlive
    · obtain ⟨-, envelope', hcreates'⟩ | ⟨old', hold', hsame'⟩ := inflight_step hstep hlive'
      · have hk := Registry.key_of_find hlive.1
        have hk' := Registry.key_of_find hlive'.1
        rw [← hk, ← hk']
        exact hcreates.issued.trans hcreates'.issued.symm
      · have hkey' : a'.idempotencyKey = old'.idempotencyKey :=
          congrArg AttemptIdentity.idempotencyKey hsame'
        exact absurd (hkey'.symm.trans hkey.symm) (key_ne_of_creates hcreates hold')
    · have hold_key : a.idempotencyKey = old.idempotencyKey :=
        congrArg AttemptIdentity.idempotencyKey hsame
      obtain ⟨-, envelope', hcreates'⟩ | ⟨old', hold', hsame'⟩ := inflight_step hstep hlive'
      · exact absurd (hold_key.symm.trans hkey) (key_ne_of_creates hcreates' hold)
      · have hkey' : a'.idempotencyKey = old'.idempotencyKey :=
          congrArg AttemptIdentity.idempotencyKey hsame'
        exact h.apart k k' old old' hold hold' (hold_key.symm.trans (hkey.trans hkey'))

theorem idle_step (hissued : Issued s k) (h : ∀ a, ¬ InFlight s k a)
    (hstep : step s action = some t) (a : EnforcementAttempt) : ¬ InFlight t k a := by
  intro hlive
  obtain hstuck | hlt := hissued
  · obtain ⟨hfind, hinflight⟩ := hlive
    rw [(stuck_step hstuck hstep).2] at hfind
    exact h a ⟨hfind, hinflight⟩
  · have hk := Registry.key_of_find hlive.1
    obtain ⟨-, envelope, hcreates⟩ | ⟨old, hold, -⟩ := inflight_step hstep hlive
    · have hnext := hcreates.issued
      rw [hk] at hnext
      rw [hnext] at hlt
      exact absurd hlt (UInt64.lt_irrefl _)
    · exact h old hold

/-- An attempt in flight is for an envelope that is stored at the generation it names. -/
def Bound (s : System) : Prop :=
  ∀ k a, InFlight s k a → ∃ e, s.engine.tables.envelopes.find a.envelope.value = some e ∧
    a.envelopeGeneration = e.generation

theorem bound_step (hids : IdsAhead s) (h : Bound s) (hstep : step s action = some t) :
    Bound t := by
  intro k a hlive
  refine envelope_kept hids hstep ?_
  obtain ⟨-, envelope, hcreates⟩ | ⟨old, hold, hsame⟩ := inflight_step hstep hlive
  · refine ⟨envelope, ?_, hcreates.generation⟩
    rw [hcreates.envelopeId]
    exact hcreates.found
  · obtain ⟨e, hstored, hgeneration⟩ := h k old hold
    simp only [identity, AttemptIdentity.mk.injEq] at hsame
    obtain ⟨-, henvelope, hsameGeneration, -⟩ := hsame
    rw [henvelope, hsameGeneration]
    exact ⟨e, hstored, hgeneration⟩

end Engine

section Life

theorem idle_of_recovered {crash : Crash} (h : recovered s crash = some t) :
    ¬ InFlight t k a := by
  rintro ⟨hfind, hlive⟩
  obtain ⟨file, hfile, hrecovered⟩ := Option.bind_eq_some_iff.1 h
  split at hrecovered
  · cases hrecovered
  · next engine hok =>
    cases hrecovered
    rw [(handover_of_recoverEngine hok).attempts k a hfind] at hlive
    cases hlive

theorem idle_of_starts (h : Starts s) : ¬ InFlight s k a := by
  rintro ⟨hfind, hlive⟩
  cases h with
  | fresh hfresh =>
    rw [no_attempt_of_fresh hfresh] at hfind
    cases hfind
  | recovered hdone =>
    rw [(handover hdone).attempts k a hfind] at hlive
    cases hlive

theorem keyed_of_reaches (hstart : Starts start) (hrun : Reaches lifeStep anyStep start s) :
    Keyed s := by
  induction hrun with
  | refl => exact keyed_of_none fun _ _ ↦ idle_of_starts hstart
  | @tail t u incident _ _ hstep ih =>
    cases incident with
    | act action => exact keyed_step ih hstep
    | crash crash => exact keyed_of_none fun _ _ ↦ idle_of_recovered hstep

theorem idle_lifeStep (hnew : ¬ issues k s incident) (hstep : lifeStep s incident = some t)
    (h : ∀ a, ¬ InFlight s k a) (a : EnforcementAttempt) : ¬ InFlight t k a := by
  intro hlive
  cases incident with
  | crash crash => exact idle_of_recovered hstep hlive
  | act action =>
    obtain ⟨hissues, -⟩ | ⟨old, hold, -⟩ := inflight_step hstep hlive
    · exact hnew hissues
    · exact h old hold

end Life

section Claim

theorem bound_of_reaches (hfresh : Fresh start) (hrun : Reaches step anyStep start s) :
    Bound s := by
  have hinv : IdsAhead s ∧ Bound s := by
    refine hrun.invariant (I := fun s ↦ IdsAhead s ∧ Bound s)
      ⟨idsAhead_of_fresh hfresh, fun _ _ hlive ↦ absurd hlive (idle_of_starts (.fresh hfresh))⟩ ?_
    exact fun _ _ _ h _ hstep ↦ ⟨idsAhead_step h.1 hstep, bound_step h.1 h.2 hstep⟩
  exact hinv.2

theorem idle_of_terminal (hfind : s.engine.tables.attempts.find k = some a)
    (h : attemptStateIsTerminal a.state = true) (a' : EnforcementAttempt) :
    ¬ InFlight s k a' := by
  rintro ⟨hfind', hlive⟩
  rw [hfind] at hfind'
  cases hfind'
  rw [not_inflight_of_terminal h] at hlive
  cases hlive

/-- Through operations, crashes and recoveries in any order, no two attempts in flight are of the
same kind and for the same envelope, which is known by its number and generation; in a run without
recoveries the number alone decides. An attempt that has reached an end is not in flight again for
as long as its number is not given to a new one, which the counter of an engine does not do before
it wraps. -/
theorem one_inflight (hstart : Starts start) (hrun : Reaches lifeStep anyStep start s) :
    (∀ k k' a a', InFlight s k a → InFlight s k' a' → a.envelope = a'.envelope →
      a.envelopeGeneration = a'.envelopeGeneration → a.kind = a'.kind → k = k') ∧
    (Fresh start → Reaches step anyStep start s → ∀ k k' a a', InFlight s k a →
      InFlight s k' a' → a.envelope = a'.envelope → a.kind = a'.kind → k = k') ∧
    (∀ t k a, s.engine.tables.attempts.find k = some a → attemptStateIsTerminal a.state = true →
      Reaches lifeStep (fun s incident ↦ ¬ issues k s incident) s t → ∀ a', ¬ InFlight t k a') ∧
    (Fresh start → Reaches step (fun s _ ↦ Serviceable s) start s → ∀ t k a,
      s.engine.tables.attempts.find k = some a → attemptStateIsTerminal a.state = true →
      Reaches step (fun s _ ↦ Serviceable s) s t → ∀ a', ¬ InFlight t k a') := by
  have hkeyed := keyed_of_reaches hstart hrun
  have hsingle : ∀ k k' a a', InFlight s k a → InFlight s k' a' → a.envelope = a'.envelope →
      a.envelopeGeneration = a'.envelopeGeneration → a.kind = a'.kind → k = k' := by
    intro k k' a a' hlive hlive' henvelope hgeneration hkind
    refine hkeyed.apart k k' a a' hlive hlive' ?_
    rw [hkeyed.key k a hlive, hkeyed.key k' a' hlive', henvelope, hgeneration, hkind]
  refine ⟨hsingle, ?_, ?_, ?_⟩
  · intro hfresh hsteps k k' a a' hlive hlive' henvelope hkind
    obtain ⟨e, hstored, hgeneration⟩ := bound_of_reaches hfresh hsteps k a hlive
    obtain ⟨e', hstored', hgeneration'⟩ := bound_of_reaches hfresh hsteps k' a' hlive'
    rw [← henvelope, hstored] at hstored'
    cases hstored'
    exact hsingle k k' a a' hlive hlive' henvelope (hgeneration.trans hgeneration'.symm) hkind
  · intro t k a hfind hterminal hlater
    exact hlater.invariant (idle_of_terminal hfind hterminal)
      fun _ _ _ h hnew hstep ↦ idle_lifeStep hnew hstep h
  · intro hfresh hsteps t k a hfind hterminal hlater
    have hserials : SerialsAhead s := hsteps.invariant (serialsAhead_of_fresh hfresh)
      fun _ _ _ h hroom hstep ↦ serialsAhead_step hroom h hstep
    have hidle : Issued t k ∧ ∀ a', ¬ InFlight t k a' := hlater.invariant
      (I := fun t ↦ Issued t k ∧ ∀ a', ¬ InFlight t k a')
      ⟨hserials k a hfind, idle_of_terminal hfind hterminal⟩
      fun _ _ _ h hroom hstep ↦ ⟨issued_step hroom h.1 hstep, idle_step h.1 h.2 hstep⟩
    exact hidle.2

theorem lives_of_reaches (h : Reaches step anyStep start s) :
    Reaches lifeStep anyStep start s := by
  induction h with
  | refl => exact .refl
  | @tail t u action _ _ hstep ih => exact ih.tail (a := .act action) trivial hstep

/-- A dispatched apply is the only one in flight for its envelope. -/
theorem one_inflight_of_dispatchSample : ∃ s a,
    run step sampleStart dispatchSample = some s ∧ InFlight s 1 a ∧
      ∀ k a', InFlight s k a' → a'.envelope = a.envelope → a'.kind = a.kind → k = 1 := by
  obtain ⟨s, hrun, a, hlive⟩ : ∃ s, run step sampleStart dispatchSample = some s ∧
      ∃ a, InFlight s 1 a := ⟨_, rfl, _, rfl, rfl⟩
  have hreaches := reaches_of_run (guarded_anyStep sampleStart dispatchSample) hrun
  obtain ⟨-, hsingle, -⟩ := one_inflight (.fresh fresh_sampleStart) (lives_of_reaches hreaches)
  refine ⟨s, a, hrun, hlive, ?_⟩
  intro k a' hlive' henvelope hkind
  exact hsingle fresh_sampleStart hreaches k 1 a' a hlive' hlive henvelope hkind

end Claim

end RateGovernor.Safety.OneInFlight
