import RateGovernor.Dynamics.Issue

namespace RateGovernor.Dynamics.Start

open Model.CheckedMath Model.Identity Model.Reason Model.Entities Model.Envelope Model.EngineState
open Model.JournalWriter Model.Calls Model.Execution Foundation.KeyedTable Foundation.GuardedRun
open Issue

variable {s t : System} {ok : System → Action → Prop}

theorem tables_construct (config : EngineConfig) (backend : Option Backend) (session : Session)
    (journal : Option JournalFile) (io : Io) :
    (construct config backend session journal io).1.tables =
      { epoch := if config.initialEpoch.valid then config.initialEpoch else ⟨1⟩ } := by
  unfold construct
  simp only
  split
  · rfl
  · split <;> rfl

theorem control_construct (config : EngineConfig) (backend : Option Backend) (session : Session)
    (journal : Option JournalFile) (io : Io) :
    (construct config backend session journal io).1.control.nextEnvelopeId = 1 ∧
      (construct config backend session journal io).1.control.nextAttemptId = 1 := by
  unfold construct
  simp only
  cases backend <;> (split; exact ⟨rfl, rfl⟩; split <;> exact ⟨rfl, rfl⟩)

theorem empty_of_fresh (h : Fresh s) :
    (∃ epoch, s.engine.tables = { epoch }) ∧ s.calls = [] := by
  obtain ⟨config, backend, session, journal, io, rfl⟩ := h
  exact ⟨⟨_, tables_construct config backend session journal io⟩, rfl⟩

theorem no_envelope_of_fresh (h : Fresh s) (k : U64) : s.engine.tables.envelopes.find k = none := by
  obtain ⟨⟨epoch, htables⟩, -⟩ := empty_of_fresh h
  rw [htables]
  exact Registry.find_empty k

theorem no_attempt_of_fresh (h : Fresh s) (k : U64) : s.engine.tables.attempts.find k = none := by
  obtain ⟨⟨epoch, htables⟩, -⟩ := empty_of_fresh h
  rw [htables]
  exact Registry.find_empty k

theorem idsAhead_of_fresh (h : Fresh s) : IdsAhead s := by
  refine .inr fun _ ↦ ⟨?_, ?_⟩
  · intro k envelope hfind
    rw [no_envelope_of_fresh h] at hfind
    cases hfind
  · obtain ⟨config, backend, session, journal, io, rfl⟩ := h
    rw [(control_construct config backend session journal io).1]
    exact Nat.le_add_left 1 _

theorem idsAhead_of_reaches (h : Fresh s) (hrun : Reaches step ok s t) : IdsAhead t :=
  hrun.invariant (idsAhead_of_fresh h) fun _ _ _ hids _ hstep ↦ idsAhead_step hids hstep

/-- A state some interleaving of operations leads to from a fresh engine. -/
def Reachable (s : System) : Prop := ∃ start, Fresh start ∧ Reaches step anyStep start s

theorem Reachable.idsAhead (h : Reachable s) : IdsAhead s := by
  obtain ⟨start, hfresh, hrun⟩ := h
  exact idsAhead_of_reaches hfresh hrun

theorem Reachable.reaches (h : Reachable s) (hrun : Reaches step ok s t) : Reachable t := by
  obtain ⟨start, hfresh, hstart⟩ := h
  exact ⟨start, hfresh, hstart.trans (hrun.mono fun _ _ _ ↦ trivial)⟩

theorem reachable_of_run {actions : List Action} (hfresh : Fresh s)
    (h : run step s actions = some t) : Reachable t :=
  ⟨s, hfresh, reaches_of_run (guarded_anyStep s actions) h⟩

section Observation

variable {actions : List Action} {k : U64} {P : System → RateEnvelope → Bool}

/-- Runs the actions and tests the state they lead to, and the envelope stored there. -/
def observe (s : System) (actions : List Action) (k : U64) (P : System → RateEnvelope → Bool) :
    Bool :=
  match run step s actions with
  | none => false
  | some t => match t.engine.tables.envelopes.find k with
    | none => false
    | some envelope => P t envelope

theorem of_observe (h : observe s actions k P = true) : ∃ t envelope,
    run step s actions = some t ∧ t.engine.tables.envelopes.find k = some envelope ∧
      P t envelope = true := by
  unfold observe at h
  split at h
  · cases h
  · next t hrun =>
    split at h
    · cases h
    · next envelope hfind => exact ⟨t, envelope, hrun, hfind, h⟩

end Observation

section Sample

/-! The objects the concrete runs below are made of. -/

def operator : Provenance := { source := .operator }

def actor : ActorContext := { epoch := ⟨1⟩, boot := ⟨1⟩, provenance := operator }

def sampleFlow : Flow := { id := ⟨1⟩, state := .active, provenance := operator }

def sampleResource : Resource :=
  { id := ⟨1⟩, state := .active, provenance := operator, capacityUps := 100 }

def sampleGrant : Grant :=
  { id := ⟨1⟩, flow := ⟨1⟩, resource := ⟨1⟩, state := .active, provenance := operator,
    ceilingUps := 100, burstTokens := 10 }

def samplePolicy : Policy :=
  { id := ⟨1⟩, state := .active, provenance := operator, ceilingUps := 100, targetUps := 50,
    burstTokens := 10, refill := .continuousTokenBucket }

def sampleBackend : BackendDescriptor :=
  { id := ⟨1⟩, kind := .synthetic, verification := .postApplyReadback, capabilities := 7,
    provenance := operator }

def sampleRequest : EnvelopeRequest :=
  { flow := ⟨1⟩, resource := ⟨1⟩, grant := ⟨1⟩, policy := ⟨1⟩, backend := ⟨1⟩ }

/-- An engine without a journal, bound to a live session of the sample backend. -/
def sampleStart : System :=
  { engine := (construct { durability := .none } (some ⟨sampleBackend⟩)
      { epoch := ⟨1⟩, boot := ⟨1⟩ } none []).1 }

theorem fresh_sampleStart : Fresh sampleStart := ⟨_, _, _, _, _, rfl⟩

def register : List Action :=
  [⟨.putFlow sampleFlow, []⟩, ⟨.putGrant sampleGrant, []⟩, ⟨.putResource sampleResource, []⟩,
    ⟨.putPolicy samplePolicy, []⟩, ⟨.putBackend sampleBackend, []⟩]

def samplePresent : VerificationOutcome :=
  { status := .confirmed, observedPresent := true, observedRateUps := 100,
    observedBurstTokens := 10 }

def sampleAbsent : VerificationOutcome := { status := .confirmed }

/-- Opens an envelope on the registered authorities and dispatches its apply. -/
def dispatchSample : List Action :=
  register ++ [⟨.openEnvelope sampleRequest actor 5, []⟩, ⟨.apply ⟨1⟩ actor 5 {}, []⟩]

def applySample : List Action :=
  dispatchSample ++ [⟨.dispatched 0 { status := .completed }, []⟩, ⟨.readClock 0 6, []⟩,
    ⟨.finish 0, []⟩, ⟨.readBack 0 samplePresent 6, []⟩, ⟨.publish 0 6, []⟩]

end Sample

end RateGovernor.Dynamics.Start
