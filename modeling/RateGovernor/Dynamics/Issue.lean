import RateGovernor.Dynamics.Bindings
import RateGovernor.Dynamics.Halting

namespace RateGovernor.Dynamics.Issue

open Model.CheckedMath Model.Identity Model.Reason Model.Entities Model.Envelope Model.EngineState
open Model.JournalWriter Model.Durability Model.Authority Model.Calls Model.Lifecycle
open Model.Completion Model.Revocation Model.Maintenance Model.Execution
open Foundation.KeyedTable Install Sections Staging Turns Evolution Bindings Halting

variable {s t : System} {event : Event} {action : Action}

section Control

variable {decision : Section} {record : Staged}

/-- The two ways a staged object carries an identity that was issued for it. -/
def Issuing : Staged → Prop
  | .created _ => True
  | .envelope type _ => type = .envelopeOpened
  | _ => False

def SameIds (control control' : Control) : Prop :=
  control'.nextEnvelopeId = control.nextEnvelopeId ∧ control'.nextAttemptId = control.nextAttemptId

/-- Which identities a section issues, and what it then stages. -/
inductive Issues (s : System) (decision : Section) : Prop
  | nothing (ids : SameIds s.engine.control decision.settled)
      (records : ∀ record ∈ decision.records, ¬ Issuing record)
  | envelope (request : EnvelopeRequest) (now : U64)
      (room : s.engine.tables.envelopes.size < s.engine.config.maxEnvelopes.toNat)
      (ids : SameIds { s.engine.control with
        nextEnvelopeId := s.engine.control.nextEnvelopeId + 1 } decision.settled)
      (records : decision.records =
        [.envelope .envelopeOpened (openedEnvelope s.engine request now)])
  | apply (envelope : RateEnvelope) (backend : Backend) (id : RateEnvelopeId) (now : U64)
      (session : Session) (admitted : ApplyAdmitted s id now session envelope backend)
      (plan : (derivePlanLocked s.engine envelope now).authorized = true)
      (ids : SameIds (takeAttemptId s.engine.control) decision.settled)
      (records : decision.records = (dispatchApply s.engine envelope backend session now).records)
  | revoke (envelope : RateEnvelope) (backend : Backend) (id : RateEnvelopeId)
      (reason : ReasonCode) (now : U64) (session : Session)
      (admitted : RevokeAdmitted s id envelope backend)
      (ids : SameIds (takeAttemptId s.engine.control) decision.settled)
      (records : decision.records =
        (dispatchRevoke s.engine envelope reason backend session now).records)

theorem settled_ingest {engine : Engine} {names : Ingest} {shape : ReasonCode}
    {existing : Option Generation} {generation : Generation} {size : ℕ} {limit : U64}
    {staged : Staged} :
    SameIds engine.control
      (ingest engine names shape existing generation size limit staged).settled := by
  unfold ingest
  repeat' split
  all_goals exact ⟨rfl, rfl⟩

theorem settled_changeState {α : Type} {engine : Engine} {actor : ActorContext} {found : Option α}
    {missing mismatch : Error} {current : α → Bool} {staged : α → Staged} :
    SameIds engine.control
      (changeState engine actor found missing mismatch current staged).settled := by
  unfold changeState
  repeat' split
  all_goals exact ⟨rfl, rfl⟩

theorem settled_finishApply {engine : Engine} {task : ApplyTask} {report : CompletionReport}
    {now : U64} : SameIds engine.control (finishApply engine task report now).settled := by
  unfold finishApply acceptApply
  simp only
  repeat' split
  all_goals exact ⟨rfl, rfl⟩

theorem settled_publishApply {engine : Engine} {task : ApplyTask} {now : U64}
    {verification : VerificationOutcome} :
    SameIds engine.control (publishApply engine task now verification).settled := by
  unfold publishApply
  simp only
  repeat' split
  all_goals exact ⟨rfl, rfl⟩

theorem settled_finishRevoke {engine : Engine} {task : RevokeTask} {report : CompletionReport}
    {now : U64} : SameIds engine.control (finishRevoke engine task report now).settled := by
  unfold finishRevoke acceptRevoke
  simp only
  repeat' split
  all_goals exact ⟨rfl, rfl⟩

theorem settled_publishRevoke {engine : Engine} {task : RevokeTask} {now : U64}
    {verification : VerificationOutcome} {seen : EnvelopeState} :
    SameIds engine.control (publishRevoke engine task now verification seen).settled := by
  unfold publishRevoke
  simp only
  repeat' split
  all_goals exact ⟨rfl, rfl⟩

def issuing : Event → Bool
  | .openEnvelope .. | .apply .. | .revoke .. => true
  | _ => false

theorem not_issuing_of_stages (h : Stages s event record) (hevent : issuing event = false) :
    ¬ Issuing record := by
  cases h with
  | opened => cases hevent
  | createdApply => cases hevent
  | createdRevoke => cases hevent
  | _ => intro h; cases h

theorem settled_of_sectionOf (hsection : sectionOf s event = some decision)
    (hevent : issuing event = false) : SameIds s.engine.control decision.settled := by
  cases event with
  | openEnvelope => cases hevent
  | apply => cases hevent
  | revoke => cases hevent
  | putFlow | putGrant | putReservation | putPolicy | putResource | putBackend =>
    cases hsection
    exact settled_ingest
  | changeGrantState | changeReservationState | changePolicyState | changeResourceState =>
    cases hsection
    exact settled_changeState
  | advanceEpoch =>
    cases hsection
    unfold once Model.Authority.advanceEpoch
    simp only [Decision.map]
    repeat' split
    all_goals exact ⟨rfl, rfl⟩
  | bindBackend =>
    cases hsection
    unfold once Model.Authority.bindBackend
    simp only [Decision.map, conclude]
    repeat' split
    all_goals exact ⟨rfl, rfl⟩
  | authorize =>
    cases hsection
    unfold begun Model.Lifecycle.authorize
    simp only [Decision.map]
    repeat' split
    all_goals exact ⟨rfl, rfl⟩
  | completeApply =>
    cases hsection
    unfold begun Model.Completion.completeApply
    simp only [Decision.map]
    repeat' split
    all_goals exact ⟨rfl, rfl⟩
  | completeRevoke =>
    cases hsection
    unfold begun Model.Revocation.completeRevoke
    simp only [Decision.map]
    repeat' split
    all_goals exact ⟨rfl, rfl⟩
  | cancelAttempt =>
    cases hsection
    unfold once Model.Revocation.cancelAttempt
    simp only [Decision.map]
    repeat' split
    all_goals exact ⟨rfl, rfl⟩
  | abandonAttempt =>
    cases hsection
    unfold once Model.Revocation.abandonAttempt
    simp only [Decision.map]
    repeat' split
    all_goals exact ⟨rfl, rfl⟩
  | consumeBurst =>
    cases hsection
    unfold begun Model.Revocation.consumeBurst
    simp only [Decision.map]
    repeat' split
    all_goals exact ⟨rfl, rfl⟩
  | tick =>
    cases hsection
    exact ⟨rfl, rfl⟩
  | revalidateAll =>
    cases hsection
    unfold begun Model.Maintenance.revalidateAll
    simp only [Decision.map]
    repeat' split
    all_goals exact ⟨rfl, rfl⟩
  | markSessionLost =>
    cases hsection
    unfold once Model.Maintenance.markSessionLost
    simp only [Decision.map]
    split <;> exact ⟨rfl, rfl⟩
  | shutdown =>
    cases hsection
    exact ⟨rfl, rfl⟩
  | dispatched =>
    obtain ⟨found, hfound, hsection⟩ := Option.bind_eq_some_iff.1 hsection
    cases found <;> cases hsection <;> exact ⟨rfl, rfl⟩
  | readClock =>
    obtain ⟨found, hfound, hsection⟩ := Option.bind_eq_some_iff.1 hsection
    cases found <;> cases hsection <;> exact ⟨rfl, rfl⟩
  | finish =>
    obtain ⟨found, hfound, hsection⟩ := Option.bind_eq_some_iff.1 hsection
    cases found <;> cases hsection
    · exact settled_finishApply
    · exact settled_finishRevoke
  | readBack =>
    obtain ⟨found, hfound, hsection⟩ := Option.bind_eq_some_iff.1 hsection
    cases found <;> cases hsection <;> exact ⟨rfl, rfl⟩
  | publish =>
    obtain ⟨found, hfound, hsection⟩ := Option.bind_eq_some_iff.1 hsection
    cases found <;> cases hsection
    · exact settled_publishApply
    · exact settled_publishRevoke
    · unfold resumed revalidateRecord
      simp only [Decision.map]
      repeat' split
      all_goals exact ⟨rfl, rfl⟩
  | revalidateNext =>
    obtain ⟨found, hfound, hsection⟩ := Option.bind_eq_some_iff.1 hsection
    cases found <;> cases hsection
    unfold resumed Model.Maintenance.revalidateNext
    simp only [Decision.map]
    repeat' split
    all_goals exact ⟨rfl, rfl⟩

theorem issues_of_sectionOf (hsection : sectionOf s event = some decision) :
    Issues s decision := by
  cases hevent : issuing event with
  | false =>
    exact .nothing (settled_of_sectionOf hsection hevent) fun record hmem ↦
      not_issuing_of_stages (stages_of_sectionOf hsection hmem) hevent
  | true =>
    cases event with
    | openEnvelope request actor now =>
      cases hsection
      unfold begun openEnvelope
      simp only [Decision.map]
      repeat' split
      all_goals first
        | exact .nothing ⟨rfl, rfl⟩ fun _ h ↦ absurd h List.not_mem_nil
        | next hroom => exact .envelope request now (Nat.not_le.1 hroom) ⟨rfl, rfl⟩ rfl
    | apply id actor now session =>
      cases hsection
      obtain ⟨counters, result, heq⟩ | ⟨envelope, backend, admitted, heq⟩ :=
        apply_cases s id actor now session
      · rw [heq]
        exact .nothing ⟨rfl, rfl⟩ fun _ h ↦ absurd h List.not_mem_nil
      · rw [heq]
        cases hplan : (derivePlanLocked s.engine envelope now).authorized with
        | false =>
          refine .nothing ?_ fun record hmem ↦ ?_
          · simp only [begun, Decision.map, dispatchApply, hplan, Bool.not_false, if_true]
            exact ⟨rfl, rfl⟩
          · simp only [begun, Decision.map, dispatchApply, hplan, Bool.not_false, if_true,
              List.mem_singleton] at hmem
            rw [hmem]
            exact nofun
        | true =>
          refine .apply envelope backend id now session admitted hplan ?_ rfl
          simp only [begun, Decision.map, dispatchApply, hplan, Bool.not_true, Bool.false_eq_true,
            if_false]
          exact ⟨rfl, rfl⟩
    | revoke id reason actor now session =>
      cases hsection
      obtain ⟨counters, result, heq⟩ | ⟨envelope, backend, admitted, heq⟩ :=
        revoke_cases s id reason actor now session
      · rw [heq]
        exact .nothing ⟨rfl, rfl⟩ fun _ h ↦ absurd h List.not_mem_nil
      · rw [heq]
        exact .revoke envelope backend id reason now session admitted ⟨rfl, rfl⟩ rfl
    | _ => cases hevent

end Control

section Identities

variable {k : U64} {envelope : RateEnvelope}

/-- While there is room for another envelope, the next identity is larger than all stored ones. -/
def Ahead (config : EngineConfig) (tables : Tables) (next : U64) : Prop :=
  tables.envelopes.size < config.maxEnvelopes.toNat →
    (∀ k envelope, tables.envelopes.find k = some envelope → k.toNat < next.toNat) ∧
    next.toNat ≤ tables.envelopes.size + 1

/-- No identity is issued twice: either nothing is written any more, or the counter is ahead. -/
def IdsAhead (s : System) : Prop :=
  Stuck s.engine.config s.engine.durability ∨
    Ahead s.engine.config s.engine.tables s.engine.control.nextEnvelopeId

theorem ahead_of_replacing {config : EngineConfig} {tables : Tables} {next : U64}
    {records : List Staged} (h : Ahead config tables next)
    (hrecords : ∀ record ∈ records, ∀ envelope, envelope? record = some envelope →
      ∃ old, tables.envelopes.find envelope.id.value = some old) :
    Ahead config (installed config tables records) next := by
  unfold Ahead at h ⊢
  rw [(installed_registries _ _).2.2.2.2.2.2]
  intro hroom
  have hsize : tables.envelopes.size ≤ (tables.envelopes.putAll envelope? records).size :=
    Registry.size_le_size_putAll _ _
  obtain ⟨hbelow, hnext⟩ := h (lt_of_le_of_lt hsize hroom)
  refine ⟨?_, le_trans hnext (Nat.succ_le_succ hsize)⟩
  intro k envelope hfind
  obtain ⟨record, hmem, henvelope⟩ | hold := Registry.find_putAll hfind
  · obtain ⟨old, hold⟩ := hrecords record hmem envelope henvelope
    rw [Registry.key_of_find hfind] at hold
    exact hbelow k old hold
  · exact hbelow k envelope hold

theorem ahead_of_opening {engine : Engine} {request : EnvelopeRequest} {now : U64}
    (h : Ahead engine.config engine.tables engine.control.nextEnvelopeId)
    (hroom : engine.tables.envelopes.size < engine.config.maxEnvelopes.toNat) :
    Ahead engine.config
      (installed engine.config engine.tables
        [.envelope .envelopeOpened (openedEnvelope engine request now)])
      (engine.control.nextEnvelopeId + 1) := by
  obtain ⟨hbelow, hnext⟩ := h hroom
  have hfresh : engine.tables.envelopes.find engine.control.nextEnvelopeId = none := by
    cases hfind : engine.tables.envelopes.find engine.control.nextEnvelopeId with
    | none => rfl
    | some envelope => exact absurd (hbelow _ _ hfind) (lt_irrefl _)
  have hput : (installed engine.config engine.tables
      [.envelope .envelopeOpened (openedEnvelope engine request now)]).envelopes =
        engine.tables.envelopes.put (openedEnvelope engine request now) := rfl
  unfold Ahead
  rw [hput, Registry.size_put_of_find_none hfresh]
  intro hroom'
  have hmax := engine.config.maxEnvelopes.toNat_lt
  have hsucc : (engine.control.nextEnvelopeId + 1).toNat =
      engine.control.nextEnvelopeId.toNat + 1 := by
    rw [UInt64.toNat_add]
    simp only [UInt64.reduceToNat]
    omega
  rw [hsucc]
  refine ⟨?_, Nat.succ_le_succ hnext⟩
  intro k envelope hfind
  rw [Registry.find_put] at hfind
  split at hfind
  · next hk =>
    rw [← hk]
    exact Nat.lt_succ_self _
  · exact Nat.lt_succ_of_lt (hbelow k envelope hfind)

theorem replaces_of_stages {type} (h : Stages s event (.envelope type envelope))
    (htype : type ≠ .envelopeOpened) :
    ∃ old, s.engine.tables.envelopes.find envelope.id.value = some old := by
  obtain ⟨hopened, -⟩ | ⟨old, hfound, -⟩ := binding_of_stages h
  · exact absurd hopened htype
  · exact ⟨old, hfound⟩

theorem idsAhead_step (h : IdsAhead s) (hstep : step s action = some t) : IdsAhead t := by
  obtain hstuck | hahead := h
  · exact .inl (stuck_step hstuck hstep).1
  · obtain ⟨decision, hsection, hturn⟩ := turn_of_step hstep
    have replacing (htypes : ∀ type envelope, Staged.envelope type envelope ∈ decision.records →
        type ≠ .envelopeOpened) : ∀ record ∈ decision.records, ∀ envelope,
          envelope? record = some envelope →
            ∃ old, s.engine.tables.envelopes.find envelope.id.value = some old := by
      intro record hmem envelope henvelope
      cases record <;> cases henvelope
      exact replaces_of_stages (stages_of_sectionOf hsection hmem) (htypes _ _ hmem)
    cases hturn with
    | quiet hrecords =>
      cases issues_of_sectionOf hsection with
      | nothing ids =>
        refine .inr ?_
        show Ahead _ _ decision.settled.nextEnvelopeId
        rw [ids.1]
        exact hahead
      | envelope request now room ids records => rw [hrecords] at records; cases records
      | apply envelope backend id now session admitted plan ids records =>
        refine .inr ?_
        show Ahead _ _ decision.settled.nextEnvelopeId
        rw [ids.1]
        exact hahead
      | revoke envelope backend id reason now session admitted ids records =>
        rw [hrecords] at records; cases records
    | failed hrecords hstatus => exact .inl (stuck_of_commit hstatus)
    | committed hrecords hstatus =>
      refine .inr ?_
      show Ahead s.engine.config (installed s.engine.config s.engine.tables decision.records)
        decision.settled.nextEnvelopeId
      cases issues_of_sectionOf hsection with
      | nothing ids records =>
        rw [ids.1]
        exact ahead_of_replacing hahead
          (replacing fun type envelope hmem htype ↦ records _ hmem htype)
      | envelope request now room ids records =>
        rw [ids.1, records]
        exact ahead_of_opening hahead room
      | apply envelope backend id now session admitted plan ids records =>
        rw [ids.1]
        refine ahead_of_replacing hahead (replacing fun type envelope hmem ↦ ?_)
        rw [records] at hmem
        simp only [dispatchApply, plan, Bool.not_true, Bool.false_eq_true, if_false, publish,
          List.mem_append, List.mem_cons, Staged.envelope.injEq, reduceCtorEq, false_or,
          List.not_mem_nil, or_false] at hmem
        obtain hmem | ⟨rfl, -⟩ := hmem
        · split at hmem
          · cases hmem
          · simp only [List.mem_singleton, Staged.envelope.injEq] at hmem
            rw [hmem.1]
            exact nofun
        · exact nofun
      | revoke envelope backend id reason now session admitted ids records =>
        rw [ids.1]
        refine ahead_of_replacing hahead (replacing fun type envelope hmem ↦ ?_)
        rw [records] at hmem
        simp only [dispatchRevoke, publish, List.mem_cons, Staged.envelope.injEq, reduceCtorEq,
          false_or, List.not_mem_nil, or_false] at hmem
        rw [hmem.1]
        exact nofun

/-- A stored envelope stays as it is or is replaced by a staged one that is not a new envelope. -/
theorem replaced_step (hids : IdsAhead s) (hstep : step s action = some t)
    {envelope envelope' : RateEnvelope} (hfind : s.engine.tables.envelopes.find k = some envelope)
    (hfind' : t.engine.tables.envelopes.find k = some envelope') :
    envelope' = envelope ∨
      ∃ type, Stages s action.event (.envelope type envelope') ∧ type ≠ .envelopeOpened := by
  obtain hstuck | hahead := hids
  · rw [(stuck_step hstuck hstep).2, hfind] at hfind'
    cases hfind'
    exact .inl rfl
  · obtain hold | ⟨type, hstages⟩ := envelope_step hstep hfind'
    · rw [hfind] at hold
      cases hold
      exact .inl rfl
    · refine .inr ⟨type, hstages, fun htype ↦ ?_⟩
      subst htype
      generalize action.event = event at hstages
      cases hstages with
      | opened hroom =>
        have hk := Registry.key_of_find hfind'
        have hlt := (hahead hroom).1 k envelope hfind
        rw [← hk] at hlt
        exact absurd hlt (lt_irrefl _)

theorem binding_step (hids : IdsAhead s) (hstep : step s action = some t)
    (hfind : s.engine.tables.envelopes.find k = some envelope) :
    ∃ envelope', t.engine.tables.envelopes.find k = some envelope' ∧
      binding envelope' = binding envelope := by
  obtain ⟨envelope', hfind'⟩ := envelope_persists hstep hfind
  refine ⟨envelope', hfind', ?_⟩
  obtain rfl | ⟨type, hstages, htype⟩ := replaced_step hids hstep hfind hfind'
  · rfl
  · obtain ⟨hopened, -⟩ | ⟨old, hold, hbinding⟩ := binding_of_stages hstages
    · exact absurd hopened htype
    · rw [Registry.key_of_find hfind', hfind] at hold
      cases hold
      exact hbinding

end Identities

end RateGovernor.Dynamics.Issue
