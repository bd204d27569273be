import RateGovernor.Dynamics.Bindings

namespace RateGovernor.Dynamics.Dispatching

open Model.CheckedMath Model.Identity Model.Reason Model.Entities Model.Envelope Model.EngineState
open Model.Durability Model.Calls Model.Lifecycle Model.Execution Foundation.KeyedTable Install
open Sections Staging Turns Bindings

variable {s t : System} {action : Action} {envelope : RateEnvelope} {task : ApplyTask}
  {backend : Backend}

/-- What `apply` has stored when it hands a task to the backend. -/
structure Dispatches (task : ApplyTask) (envelope : RateEnvelope) (attempt : EnforcementAttempt) :
    Prop where
  id : task.envelope = envelope.id
  request : task.request = makeApplyRequest envelope attempt
  state : envelope.state = .dispatching

theorem Dispatches.requested {attempt : EnforcementAttempt} (h : Dispatches task envelope attempt) :
    task.request.envelope = task.envelope := by
  rw [h.request, h.id]
  rfl

theorem records_of_applying {id : RateEnvelopeId} {actor : ActorContext} {now : U64}
    {session : Session} {status : Status}
    (h : ((apply s.engine id actor now session).reply status).2 = some (.applying task backend)) :
    ∃ records attempt envelope, (apply s.engine id actor now session).records =
        records ++ [.created attempt, .envelope .envelopeStateChange envelope] ∧
      Dispatches task envelope attempt ∧ status = none := by
  obtain hnone | ⟨stored, bound, admitted, heq⟩ := apply_cases s id actor now session
  · exact absurd h (not_next_of_concluded hnone)
  · rw [heq] at h ⊢
    unfold dispatchApply at h ⊢
    simp only at h ⊢
    split at h
    · cases status <;> cases h
    · next hplan =>
      obtain ⟨rfl, hnext⟩ := publish_next h
      cases hnext
      rw [if_neg hplan]
      refine ⟨_, _, _, rfl, ⟨?_, rfl, rfl⟩, rfl⟩
      exact (congrArg Binding.id (binding_plannedEnvelope stored _)).symm

theorem find_of_last {records : List Staged} {record : Staged} {type} (config : EngineConfig)
    (tables : Tables) :
    (installed config tables (records ++ [record, .envelope type envelope])).envelopes.find
      envelope.id.value = some envelope := by
  rw [installed, List.foldl_append]
  exact Registry.find_put_self _ envelope

theorem dispatches_of_begun (hstep : step s action = some t)
    (hmem : .applying task backend ∈ t.calls) (hnew : .applying task backend ∉ s.calls) :
    ∃ envelope attempt, t.engine.tables.envelopes.find task.envelope.value = some envelope ∧
      Dispatches task envelope attempt := by
  obtain ⟨decision, hsection, hturn⟩ := turn_of_step hstep
  obtain ⟨event, io⟩ := action
  have begun_apply {status : Status} (hreply : .applying task backend ∈ decision.reply status) :
      ∃ id actor now session, event = .apply id actor now session := by
    cases (begins_of_sectionOf hsection hreply).resolve_left hnew with
    | applying => exact ⟨_, _, _, _, rfl⟩
  have records_of {status : Status} (hreply : .applying task backend ∈ decision.reply status) :
      ∃ records attempt envelope, decision.records =
          records ++ [.created attempt, .envelope .envelopeStateChange envelope] ∧
        Dispatches task envelope attempt ∧ status = none := by
    obtain ⟨id, actor, now, session, rfl⟩ := begun_apply hreply
    cases hsection
    exact records_of_applying ((mem_begun hreply).resolve_left hnew)
  cases hturn with
  | quiet hrecords =>
    obtain ⟨records, attempt, envelope, heq, -⟩ := records_of hmem
    rw [heq] at hrecords
    exact absurd hrecords (List.append_ne_nil_of_right_ne_nil _ (List.cons_ne_nil _ _))
  | failed =>
    obtain ⟨records, attempt, envelope, -, -, hstatus⟩ := records_of hmem
    cases hstatus
  | committed =>
    obtain ⟨records, attempt, envelope, heq, hdispatches, -⟩ := records_of hmem
    refine ⟨envelope, attempt, ?_, hdispatches⟩
    rw [heq, hdispatches.id]
    exact find_of_last _ _

end RateGovernor.Dynamics.Dispatching
