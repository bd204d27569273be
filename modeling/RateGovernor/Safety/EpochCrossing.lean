import RateGovernor.Dynamics.Readbacks
import RateGovernor.Dynamics.Serials

namespace RateGovernor.Safety.EpochCrossing

open Model.CheckedMath Model.Identity Model.Reason Model.Entities Model.Envelope Model.Journal
open Model.EngineState Model.Durability Model.Calls Model.Completion Model.Execution
open Foundation.KeyedTable Foundation.GuardedRun Dynamics.Sections Dynamics.Staging Dynamics.Turns
open Dynamics.Evolution Dynamics.Attempts Dynamics.Start Dynamics.Serials

/-- A system in which each outstanding call remembers the epoch of its last critical section. -/
structure Traced where
  system : System
  epochs : List FabricEpoch := []

variable {s t : Traced} {action : Action} {event : Event} {i : ℕ} {call : Call}
  {epoch : FabricEpoch}

def Traced.current (s : Traced) : FabricEpoch := s.system.engine.tables.epoch

def remembered (s : Traced) (event : Event) (calls : List Call) : List FabricEpoch :=
  match siteOf event with
  | .opening => if s.system.calls.length < calls.length then s.epochs ++ [s.current] else s.epochs
  | .resuming i =>
    if calls.length < s.system.calls.length then s.epochs.eraseIdx i else s.epochs.set i s.current
  | .waiting _ => s.epochs

def tracedStep (s : Traced) (action : Action) : Option Traced :=
  (step s.system action).map fun t ↦ ⟨t, remembered s action.event t.calls⟩

def recordingAt (s : System) (i : ℕ) : Bool :=
  match s.calls[i]? with
  | some (.recording ..) => true
  | _ => false

/-- The section that follows a readback commits a verified effect or a revocation for it: one that
turns the readback down writes its envelope under another record type. -/
def relies (s : System) (i : ℕ) (clock : U64) : Bool :=
  (sectionOf s (.publish i clock)).any fun decision ↦ decision.records.any fun
    | .envelope type envelope =>
      (type = .envelopeEffectRecorded || recordingAt s i) &&
        (envelope.effectVerified || envelope.state = .revoked)
    | _ => false

def unfenced : Call → Bool
  | .revokeVerifying .. | .revokePublishing .. | .probing .. | .recording .. => true
  | _ => false

def advancing (s : System) : Event → Bool
  | .advanceEpoch epoch _ _ => epoch.valid && s.engine.tables.epoch.value < epoch.value
  | _ => false

/-- No readback of a revocation or a revalidation is out when an advance of the epoch commits. -/
def Fenced (s : System) (action : Action) : Prop :=
  commits s action = true → advancing s action.event = true → s.calls.all (!unfenced ·) = true

instance (s : System) (action : Action) : Decidable (Fenced s action) :=
  inferInstanceAs (Decidable (_ → _))

/-- The epoch is advanced over no such readback, and attempt identities have not run out. -/
def Sheltered (s : Traced) (action : Action) : Prop :=
  Fenced s.system action ∧ Serviceable s.system

instance (s : Traced) (action : Action) : Decidable (Sheltered s action) :=
  inferInstanceAs (Decidable (_ ∧ _))

section Memory

theorem epoch_kept (hstep : step s.system action = some t.system)
    (hfenced : Fenced s.system action) (hmem : call ∈ s.system.calls)
    (hcall : unfenced call = true) : t.current = s.current := by
  obtain hsame | hcommits := same_or_commits hstep
  · exact congrArg Tables.epoch hsame
  obtain hkept | ⟨actor, now, hevent, hvalid, hnewer⟩ := epoch_step hstep
  · exact hkept
  · have hadvancing : advancing s.system action.event = true := by
      rw [hevent]
      exact Bool.and_eq_true_iff.2 ⟨hvalid, decide_eq_true hnewer⟩
    have hall := List.all_eq_true.1 (hfenced hcommits hadvancing) call hmem
    rw [hcall] at hall
    cases hall

theorem epoch_kept_of_site (hstep : step s.system action = some t.system)
    (hsite : siteOf action.event ≠ .opening) : t.current = s.current := by
  obtain hkept | ⟨actor, now, hevent, -⟩ := epoch_step hstep
  · exact hkept
  · rw [hevent] at hsite
    exact absurd rfl hsite

def Stamped (s : Traced) (event : Event) (epoch : FabricEpoch) : Prop :=
  match siteOf event with
  | .waiting i => s.epochs[i]? = some epoch
  | _ => epoch = s.current

def Remembers (s : Traced) (call : Call) (epoch : FabricEpoch) : Prop :=
  ∃ i : ℕ, s.system.calls[i]? = some call ∧ s.epochs[i]? = some epoch

theorem remembered_kept (hsite : siteOf event = .opening) :
    remembered s event (s.system.calls ++ (none : Option Call).toList) = s.epochs := by
  unfold remembered
  rw [hsite]
  simp

theorem remembered_opened (hsite : siteOf event = .opening) (call : Call) :
    remembered s event (s.system.calls ++ (some call).toList) = s.epochs ++ [s.current] := by
  unfold remembered
  rw [hsite]
  simp

theorem remembered_closed (hsite : siteOf event = .resuming i) (hfound : i < s.system.calls.length) :
    remembered s event (replaceCall s.system.calls i none) = s.epochs.eraseIdx i := by
  have hshorter : (replaceCall s.system.calls i none).length < s.system.calls.length := by
    rw [replaceCall, List.length_eraseIdx_of_lt hfound]
    omega
  unfold remembered
  rw [hsite]
  exact if_pos hshorter

theorem remembered_resumed (hsite : siteOf event = .resuming i) (call : Call) :
    remembered s event (replaceCall s.system.calls i (some call)) = s.epochs.set i s.current := by
  unfold remembered
  rw [hsite]
  simp [replaceCall]

theorem remembered_waiting {calls : List Call} (hsite : siteOf event = .waiting i) :
    remembered s event calls = s.epochs := by
  unfold remembered
  rw [hsite]

theorem length_remembered {status : Status} {calls : List Call}
    (hlength : s.epochs.length = s.system.calls.length)
    (h : Outstanding s.system event status calls) :
    (remembered s event calls).length = calls.length := by
  cases h with
  | @opening next hsite =>
    cases next with
    | none =>
      rw [remembered_kept hsite, Option.toList_none, List.append_nil]
      exact hlength
    | some call =>
      rw [remembered_opened hsite, List.length_append, List.length_append, hlength]
      rfl
  | @resuming i next hsite hfound =>
    cases next with
    | none =>
      rw [remembered_closed hsite hfound, replaceCall, List.length_eraseIdx_of_lt hfound,
        List.length_eraseIdx_of_lt (hlength ▸ hfound), hlength]
    | some call =>
      rw [remembered_resumed hsite, replaceCall, List.length_set, List.length_set, hlength]
  | waiting hsite => rw [remembered_waiting hsite, List.length_set, hlength]

/-- A call remembers what it did before the event, or the event began it and stamped it. -/
theorem remembers_of_outstanding {status : Status} {calls : List Call}
    (hlength : s.epochs.length = s.system.calls.length)
    (h : Outstanding s.system event status calls) {j : ℕ} (hcall : calls[j]? = some call)
    (hepoch : (remembered s event calls)[j]? = some epoch) :
    Remembers s call epoch ∨ Begins s.system event status call ∧ Stamped s event epoch := by
  unfold Stamped
  cases h with
  | @opening next hsite hbegins =>
    cases next with
    | none =>
      rw [remembered_kept hsite] at hepoch
      rw [Option.toList_none, List.append_nil] at hcall
      exact .inl ⟨j, hcall, hepoch⟩
    | some next =>
      rw [remembered_opened hsite, List.getElem?_append, hlength] at hepoch
      rw [List.getElem?_append] at hcall
      split at hcall
      · next hold =>
        rw [if_pos hold] at hepoch
        exact .inl ⟨j, hcall, hepoch⟩
      · next hnew =>
        rw [if_neg hnew] at hepoch
        have hcall := Option.mem_toList.1 (List.mem_of_getElem? hcall)
        have hepoch := List.mem_singleton.1 (List.mem_of_getElem? hepoch)
        rw [hsite]
        exact .inr ⟨hbegins call hcall, hepoch⟩
  | @resuming i next hsite hfound hbegins =>
    cases next with
    | none =>
      rw [remembered_closed hsite hfound, List.getElem?_eraseIdx] at hepoch
      rw [replaceCall, List.getElem?_eraseIdx] at hcall
      split at hcall
      · next hbefore =>
        rw [if_pos hbefore] at hepoch
        exact .inl ⟨j, hcall, hepoch⟩
      · next hafter =>
        rw [if_neg hafter] at hepoch
        exact .inl ⟨j + 1, hcall, hepoch⟩
    | some next =>
      rw [remembered_resumed hsite] at hepoch
      rw [replaceCall] at hcall
      by_cases hj : i = j
      · subst hj
        rw [List.getElem?_set_self hfound] at hcall
        rw [List.getElem?_set_self (hlength ▸ hfound)] at hepoch
        rw [hsite]
        exact .inr ⟨hbegins call hcall, (Option.some.inj hepoch).symm⟩
      · rw [List.getElem?_set_ne hj] at hcall hepoch
        exact .inl ⟨j, hcall, hepoch⟩
  | @waiting i next hsite hfound hbegins =>
    rw [remembered_waiting hsite] at hepoch
    by_cases hj : i = j
    · subst hj
      rw [List.getElem?_set_self hfound] at hcall
      cases hcall
      rw [hsite]
      exact .inr ⟨hbegins, hepoch⟩
    · rw [List.getElem?_set_ne hj] at hcall
      exact .inl ⟨j, hcall, hepoch⟩

end Memory

section Invariant

/-- What a call that holds a readback can rely on: the epoch it remembers is the current one, or
is the one its attempt was made for. -/
def Anchored (s : System) (epoch : FabricEpoch) : Call → Prop
  | .revokeVerifying .. | .revokePublishing .. | .probing .. | .recording .. =>
    epoch = s.engine.tables.epoch
  | .applyVerifying task .. | .applyPublishing task .. => Issued s task.attempt.value ∧
    ∀ attempt, s.engine.tables.attempts.find task.attempt.value = some attempt →
      attempt.fingerprint.epoch = epoch
  | _ => True

structure Inv (s : Traced) : Prop where
  serials : SerialsAhead s.system
  length : s.epochs.length = s.system.calls.length
  anchored : ∀ call epoch, Remembers s call epoch → Anchored s.system epoch call

theorem fingerprint_of_identity {a b : EnforcementAttempt} (h : identity a = identity b) :
    a.fingerprint = b.fingerprint :=
  congrArg AttemptIdentity.fingerprint h

theorem anchored_attempt {k : U64} (hissued : Issued s.system k)
    (hepoch : ∀ attempt, s.system.engine.tables.attempts.find k = some attempt →
      attempt.fingerprint.epoch = epoch)
    (hroom : Serviceable s.system) (hstep : step s.system action = some t.system) :
    Issued t.system k ∧ ∀ attempt, t.system.engine.tables.attempts.find k = some attempt →
      attempt.fingerprint.epoch = epoch := by
  refine ⟨issued_step hroom hissued hstep, fun attempt hfind ↦ ?_⟩
  obtain ⟨old, hold, hsame⟩ := stored_of_issued hissued hstep hfind
  rw [fingerprint_of_identity hsame]
  exact hepoch old hold

theorem anchored_kept (hsheltered : Sheltered s action)
    (hstep : step s.system action = some t.system) (hcall : call ∈ s.system.calls)
    (h : Anchored s.system epoch call) : Anchored t.system epoch call := by
  cases call with
  | revokeVerifying => exact h.trans (epoch_kept hstep hsheltered.1 hcall rfl).symm
  | revokePublishing => exact h.trans (epoch_kept hstep hsheltered.1 hcall rfl).symm
  | probing => exact h.trans (epoch_kept hstep hsheltered.1 hcall rfl).symm
  | recording => exact h.trans (epoch_kept hstep hsheltered.1 hcall rfl).symm
  | applyVerifying => exact anchored_attempt h.1 h.2 hsheltered.2 hstep
  | applyPublishing => exact anchored_attempt h.1 h.2 hsheltered.2 hstep
  | _ => trivial

theorem anchored_begun {status : Status} (h : Inv s) (hroom : Serviceable s.system)
    (hstep : step s.system action = some t.system)
    (hbegins : Begins s.system action.event status call) (hstamp : Stamped s action.event epoch) :
    Anchored t.system epoch call := by
  have hsite (hkept : siteOf action.event ≠ .opening) : t.current = s.current :=
    epoch_kept_of_site hstep hkept
  generalize action.event = event at hbegins hstamp hsite
  cases hbegins with
  | @applyAcknowledged i task report now attempt envelope accepted =>
    have hfence := accepted.epoch
    simp only [fencingEpoch, ne_eq, Bool.or_eq_false_iff, decide_eq_false_iff_not,
      Decidable.not_not] at hfence
    refine anchored_attempt (h.serials _ _ accepted.storedAttempt) (fun other hfind ↦ ?_) hroom hstep
    rw [accepted.storedAttempt] at hfind
    cases hfind
    exact hfence.1.trans hstamp.symm
  | applyVerified hfound =>
    have hanchored := h.anchored _ _ ⟨_, hfound, hstamp⟩
    exact anchored_attempt hanchored.1 hanchored.2 hroom hstep
  | revokeAcknowledged => exact hstamp.trans (hsite nofun).symm
  | revokeVerified hfound =>
    exact (h.anchored _ _ ⟨_, hfound, hstamp⟩).trans (hsite nofun).symm
  | probing => exact hstamp.trans (hsite nofun).symm
  | probed hfound => exact (h.anchored _ _ ⟨_, hfound, hstamp⟩).trans (hsite nofun).symm
  | _ => trivial

theorem inv_step (h : Inv s) (hsheltered : Sheltered s action)
    (htraced : tracedStep s action = some t) : Inv t := by
  obtain ⟨system, hstep, rfl⟩ := Option.map_eq_some_iff.1 htraced
  obtain ⟨status, hcalls⟩ := outstanding_step hstep
  refine ⟨serialsAhead_step hsheltered.2 h.serials hstep, length_remembered h.length hcalls, ?_⟩
  rintro call epoch ⟨j, hcall, hepoch⟩
  obtain ⟨k, hold, hremembers⟩ | ⟨hbegins, hstamp⟩ :=
    remembers_of_outstanding h.length hcalls hcall hepoch
  · exact anchored_kept (t := ⟨system, []⟩) hsheltered hstep (List.mem_of_getElem? hold)
      (h.anchored _ _ ⟨k, hold, hremembers⟩)
  · exact anchored_begun (t := ⟨system, []⟩) h hsheltered.2 hstep hbegins hstamp

theorem inv_of_fresh {system : System} (h : Fresh system) : Inv ⟨system, []⟩ := by
  have hcalls := (empty_of_fresh h).2
  refine ⟨serialsAhead_of_fresh h, by simp [hcalls], ?_⟩
  rintro call epoch ⟨i, hcall, -⟩
  simp only [hcalls] at hcall
  cases hcall

end Invariant

theorem staged_of_relies {system : System} {clock : U64} (h : relies system i clock = true) :
    ∃ type envelope, Stages system (.publish i clock) (.envelope type envelope) ∧
      (type = .envelopeEffectRecorded ∨ recordingAt system i = true) := by
  obtain ⟨decision, hsection, hany⟩ := (Option.any_eq_true _ _).1 h
  obtain ⟨record, hmem, hrecord⟩ := List.any_eq_true.1 hany
  cases record with
  | envelope type envelope =>
    simp only [Bool.and_eq_true, Bool.or_eq_true, decide_eq_true_eq] at hrecord
    exact ⟨type, envelope, stages_of_sectionOf hsection hmem, hrecord.1⟩
  | _ => cases hrecord

theorem exists_epoch (h : Inv s) (hcall : s.system.calls[i]? = some call) :
    ∃ epoch, s.epochs[i]? = some epoch ∧ Anchored s.system epoch call := by
  have hlt : i < s.epochs.length := h.length ▸ lt_of_call hcall
  exact ⟨_, List.getElem?_eq_getElem hlt,
    h.anchored call _ ⟨i, hcall, List.getElem?_eq_getElem hlt⟩⟩

theorem epoch_of_relies {clock : U64} (h : Inv s) (hrelies : relies s.system i clock = true) :
    s.epochs[i]? = some s.current := by
  obtain ⟨type, envelope, hstages, htype⟩ := staged_of_relies hrelies
  cases hstages with
  | latePublishEnvelope publishing =>
    obtain htype | hrecording := htype
    · cases htype
    · rw [recordingAt, publishing.call] at hrecording
      cases hrecording
  | judgedApplyEnvelope judged =>
    obtain ⟨epoch, hepoch, -, hanchored⟩ := exists_epoch h judged.call
    rw [hepoch, ← hanchored _ judged.storedAttempt, judged.epoch]
    rfl
  | judgedRevokeEnvelope publishing =>
    obtain ⟨epoch, hepoch, hanchored⟩ := exists_epoch h publishing.call
    exact hepoch.trans (congrArg some hanchored)
  | revalidated revalidating =>
    obtain ⟨epoch, hepoch, hanchored⟩ := exists_epoch h revalidating.call
    exact hepoch.trans (congrArg some hanchored)

/-- What a section commits on the strength of a readback, it commits in the epoch of the section
before that readback. -/
theorem evidence_within_epoch {system : System} {clock : U64} (hfresh : Fresh system)
    (hrun : Reaches tracedStep Sheltered ⟨system, []⟩ s)
    (hrelies : relies s.system i clock = true) : s.epochs[i]? = some s.current :=
  epoch_of_relies (hrun.invariant (inv_of_fresh hfresh) fun _ _ _ h hok hstep ↦
    inv_step h hok hstep) hrelies

section Sample

/-- The readback of the sample apply fails, and a revalidation is about to read it again. -/
def probingSample : List Action :=
  dispatchSample ++ [⟨.dispatched 0 { status := .completed }, []⟩, ⟨.readClock 0 6, []⟩,
    ⟨.finish 0, []⟩, ⟨.readBack 0 { status := .failed } 6, []⟩, ⟨.publish 0 6, []⟩,
    ⟨.revalidateAll actor 7, []⟩, ⟨.revalidateNext 0 7 {}, []⟩]

/-- Whether the state the actions lead to relies on the readback of its first call, with the epoch
that call remembers and the current one. -/
def crossing (actions : List Action) : Option (Bool × Option FabricEpoch × FabricEpoch) :=
  (run tracedStep ⟨sampleStart, []⟩ actions).map fun s ↦
    (relies s.system 0 8, s.epochs[0]?, s.current)

theorem of_crossing {actions : List Action} {seen : Bool × Option FabricEpoch × FabricEpoch}
    (h : crossing actions = some seen) : ∃ s, run tracedStep ⟨sampleStart, []⟩ actions = some s ∧
      relies s.system 0 8 = seen.1 ∧ s.epochs[0]? = seen.2.1 ∧ s.current = seen.2.2 := by
  obtain ⟨s, hrun, rfl⟩ := Option.map_eq_some_iff.1 h
  exact ⟨s, hrun, rfl, rfl, rfl⟩

def rereadSample : List Action := probingSample ++ [⟨.readBack 0 samplePresent 8, []⟩]

theorem within_epoch_after_rereadSample : ∃ s,
    run tracedStep ⟨sampleStart, []⟩ rereadSample = some s ∧ relies s.system 0 8 = true ∧
      s.epochs[0]? = some s.current := by
  obtain ⟨s, hrun, hrelies, -⟩ := of_crossing
    (show crossing rereadSample = some (true, some ⟨1⟩, ⟨1⟩) by decide +kernel)
  have hok : Guarded tracedStep Sheltered ⟨sampleStart, []⟩ rereadSample := by decide +kernel
  exact ⟨s, hrun, hrelies,
    evidence_within_epoch fresh_sampleStart (reaches_of_run hok hrun) hrelies⟩

/-- The epoch advances before the backend answers, and the answer is taken for the new one. -/
def crossedSample : List Action :=
  probingSample ++ [⟨.advanceEpoch ⟨2⟩ actor 8, []⟩, ⟨.readBack 0 samplePresent 8, []⟩]

theorem evidence_crosses_epoch : ¬ ∀ system s i clock, Fresh system →
    Reaches tracedStep anyStep ⟨system, []⟩ s → relies s.system i clock = true →
    s.epochs[i]? = some s.current := by
  intro h
  obtain ⟨s, hrun, hrelies, hepoch, hcurrent⟩ := of_crossing
    (show crossing crossedSample = some (true, some ⟨1⟩, ⟨2⟩) by decide +kernel)
  have hsame := h sampleStart s 0 8 fresh_sampleStart
    (reaches_of_run (guarded_anyStep _ crossedSample) hrun) hrelies
  rw [hepoch, hcurrent] at hsame
  exact absurd hsame (by decide)

end Sample

end RateGovernor.Safety.EpochCrossing
