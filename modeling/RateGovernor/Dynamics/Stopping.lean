import RateGovernor.Dynamics.Attempts
import RateGovernor.Dynamics.Demotion

namespace RateGovernor.Dynamics.Stopping

open Model.CheckedMath Model.Identity Model.Reason Model.Entities Model.Envelope Model.EngineState
open Model.JournalWriter Model.Durability Model.Authority Model.Calls Model.Lifecycle
open Model.Completion Model.Revocation Model.Maintenance Model.Execution Foundation.KeyedTable
open Install Sections Staging Turns Evolution Attempts Demotion

variable {s t : System} {action : Action} {event : Event} {decision : Section}

section Intake

def Stopped (s : System) : Prop := s.engine.control.shuttingDown = true

def StaysStopped {ρ : Type} (decision : Decision ρ) : Prop :=
  decision.failing.shuttingDown = true ∧ decision.settled.shuttingDown = true

theorem stopped_ingest {engine : Engine} {names : Ingest} {shape : ReasonCode}
    {existing : Option Generation} {generation : Generation} {size : ℕ} {limit : U64}
    {staged : Staged} (h : engine.control.shuttingDown = true) :
    StaysStopped (ingest engine names shape existing generation size limit staged) ∧
      (ingest engine names shape existing generation size limit staged).records = [] := by
  unfold ingest
  rw [if_pos h]
  split <;> exact ⟨⟨h, h⟩, rfl⟩

theorem stopped_changeState {α : Type} {engine : Engine} {actor : ActorContext} {found : Option α}
    {missing mismatch : Error} {current : α → Bool} {staged : α → Staged}
    (h : engine.control.shuttingDown = true) :
    StaysStopped (changeState engine actor found missing mismatch current staged) ∧
      (changeState engine actor found missing mismatch current staged).records = [] := by
  unfold changeState
  rw [if_pos h]
  exact ⟨⟨h, h⟩, rfl⟩

/-- The operations that are refused once the engine has been shut down. -/
def takesWork : Event → Bool
  | .putFlow .. | .putGrant .. | .putReservation .. | .putPolicy .. | .putResource ..
  | .putBackend .. | .changeGrantState .. | .changeReservationState .. | .changePolicyState ..
  | .changeResourceState .. | .openEnvelope .. | .authorize .. | .apply .. | .revoke ..
  | .consumeBurst .. => true
  | _ => false

theorem refused_of_stopped (h : Stopped s) (hsection : sectionOf s event = some decision)
    (hwork : takesWork event = true) : StaysStopped decision ∧ decision.records = [] := by
  have h : s.engine.control.shuttingDown = true := h
  cases event with
  | putFlow | putGrant | putReservation | putPolicy | putResource | putBackend =>
    cases hsection
    exact stopped_ingest h
  | changeGrantState | changeReservationState | changePolicyState | changeResourceState =>
    cases hsection
    exact stopped_changeState h
  | openEnvelope =>
    cases hsection
    unfold begun openEnvelope
    simp only [if_pos h, Decision.map]
    exact ⟨⟨h, h⟩, rfl⟩
  | authorize =>
    cases hsection
    unfold begun Model.Lifecycle.authorize
    simp only [if_pos h, Decision.map]
    exact ⟨⟨h, h⟩, rfl⟩
  | apply =>
    cases hsection
    unfold begun Model.Lifecycle.apply
    simp only [if_pos h, Decision.map]
    exact ⟨⟨h, h⟩, rfl⟩
  | revoke =>
    cases hsection
    unfold begun Model.Revocation.revoke
    simp only [if_pos h, Decision.map]
    exact ⟨⟨h, h⟩, rfl⟩
  | consumeBurst =>
    cases hsection
    unfold begun Model.Revocation.consumeBurst
    simp only [if_pos h, Decision.map]
    exact ⟨⟨h, h⟩, rfl⟩
  | _ => cases hwork

theorem staysStopped_of_sectionOf (h : Stopped s) (hsection : sectionOf s event = some decision) :
    StaysStopped decision := by
  have hstopped : s.engine.control.shuttingDown = true := h
  cases hwork : takesWork event with
  | true => exact (refused_of_stopped h hsection hwork).1
  | false =>
    cases event with
    | advanceEpoch =>
      cases hsection
      unfold once Model.Authority.advanceEpoch
      simp only [Decision.map]
      repeat' split
      all_goals exact ⟨hstopped, hstopped⟩
    | bindBackend =>
      cases hsection
      unfold once Model.Authority.bindBackend
      simp only [Decision.map, conclude]
      repeat' split
      all_goals exact ⟨hstopped, hstopped⟩
    | completeApply =>
      cases hsection
      unfold begun Model.Completion.completeApply
      simp only [Decision.map]
      repeat' split
      all_goals exact ⟨hstopped, hstopped⟩
    | completeRevoke =>
      cases hsection
      unfold begun Model.Revocation.completeRevoke
      simp only [Decision.map]
      repeat' split
      all_goals exact ⟨hstopped, hstopped⟩
    | cancelAttempt =>
      cases hsection
      unfold once Model.Revocation.cancelAttempt
      simp only [Decision.map]
      repeat' split
      all_goals exact ⟨hstopped, hstopped⟩
    | abandonAttempt =>
      cases hsection
      unfold once Model.Revocation.abandonAttempt
      simp only [Decision.map]
      repeat' split
      all_goals exact ⟨hstopped, hstopped⟩
    | tick =>
      cases hsection
      exact ⟨hstopped, hstopped⟩
    | revalidateAll =>
      cases hsection
      unfold begun Model.Maintenance.revalidateAll
      simp only [Decision.map]
      repeat' split
      all_goals exact ⟨hstopped, hstopped⟩
    | markSessionLost =>
      cases hsection
      unfold once Model.Maintenance.markSessionLost
      simp only [Decision.map]
      split <;> exact ⟨hstopped, hstopped⟩
    | shutdown =>
      cases hsection
      exact ⟨rfl, rfl⟩
    | dispatched | readClock | readBack =>
      obtain ⟨found, hfound, hsection⟩ := Option.bind_eq_some_iff.1 hsection
      cases found <;> cases hsection <;> exact ⟨hstopped, hstopped⟩
    | finish =>
      obtain ⟨found, hfound, hsection⟩ := Option.bind_eq_some_iff.1 hsection
      cases found <;> cases hsection
      · unfold resumed finishApply acceptApply
        simp only [Decision.map]
        repeat' split
        all_goals exact ⟨hstopped, hstopped⟩
      · unfold resumed finishRevoke acceptRevoke
        simp only [Decision.map]
        repeat' split
        all_goals exact ⟨hstopped, hstopped⟩
    | publish =>
      obtain ⟨found, hfound, hsection⟩ := Option.bind_eq_some_iff.1 hsection
      cases found <;> cases hsection
      · unfold resumed publishApply
        simp only [Decision.map]
        repeat' split
        all_goals exact ⟨hstopped, hstopped⟩
      · unfold resumed publishRevoke
        simp only [Decision.map]
        repeat' split
        all_goals exact ⟨hstopped, hstopped⟩
      · unfold resumed revalidateRecord
        simp only [Decision.map]
        repeat' split
        all_goals exact ⟨hstopped, hstopped⟩
    | revalidateNext =>
      obtain ⟨found, hfound, hsection⟩ := Option.bind_eq_some_iff.1 hsection
      cases found <;> cases hsection
      unfold resumed Model.Maintenance.revalidateNext
      simp only [Decision.map]
      repeat' split
      all_goals exact ⟨hstopped, hstopped⟩
    | _ => cases hwork

theorem stopped_step (h : Stopped s) (hstep : step s action = some t) : Stopped t := by
  obtain ⟨decision, hsection, hturn⟩ := turn_of_step hstep
  obtain ⟨hfailing, hsettled⟩ := staysStopped_of_sectionOf h hsection
  cases hturn with
  | quiet => exact hsettled
  | failed => exact hfailing
  | committed => exact hsettled

theorem unchanged_of_refused (h : Stopped s) (hwork : takesWork action.event = true)
    (hstep : step s action = some t) : t.engine.tables = s.engine.tables := by
  obtain ⟨decision, hsection, hturn⟩ := turn_of_step hstep
  have hrecords := (refused_of_stopped h hsection hwork).2
  cases hturn with
  | quiet => rfl
  | failed => rfl
  | committed hsome => exact absurd hrecords hsome

end Intake

section Flights

def Grounded (s : System) : Prop :=
  ∀ k attempt, s.engine.tables.attempts.find k = some attempt → attemptInflight attempt.state = false

theorem abandoned_shutdown {engine : Engine} {now k : U64} {attempt : EnforcementAttempt}
    (hfind : engine.tables.attempts.find k = some attempt)
    (hinflight : attemptInflight attempt.state = true) :
    ∃ updated, .attempt .attemptTerminated updated ∈ (shutdown engine now).records ∧
      updated.id.value = k := by
  have hmem : shutdownAttempt attempt now ∈ (inflightAttempts engine.tables).map
      (shutdownAttempt · now) := by
    refine List.mem_map.2 ⟨attempt, List.mem_filter.2 ⟨?_, hinflight⟩, rfl⟩
    exact Registry.mem_entries_of_find hfind
  obtain ⟨updated, hupdated, hkey⟩ := exists_foldl_mergeBy
    (fun attempt : EnforcementAttempt ↦ attempt.id.value) [] (.inl hmem)
  refine ⟨updated, List.mem_append_left _ (List.mem_map.2 ⟨updated, hupdated, rfl⟩), ?_⟩
  have hk := Registry.key_of_find hfind
  exact hkey.trans hk

theorem terminal_of_shutdown {engine : Engine} {now : U64} {record : Staged}
    {attempt : EnforcementAttempt} (hmem : record ∈ (shutdown engine now).records)
    (hattempt : attempt? record = some attempt) : attempt.state = .abandoned := by
  obtain hmem | hmem := List.mem_append.1 hmem
  · obtain ⟨updated, hupdated, rfl⟩ := List.mem_map.1 hmem
    cases hattempt
    obtain hupdated | hupdated := mem_foldl_mergeBy hupdated
    · obtain ⟨found, -, rfl⟩ := List.mem_map.1 hupdated
      rfl
    · cases hupdated
  · obtain ⟨updated, -, rfl⟩ := List.mem_map.1 hmem
    cases hattempt

theorem grounded_installed {config : EngineConfig} {engine : Engine} {now k : U64}
    {attempt : EnforcementAttempt}
    (hfind : (installed config engine.tables (shutdown engine now).records).attempts.find k =
      some attempt) : attemptInflight attempt.state = false := by
  have hcreated : ∀ record ∈ (shutdown engine now).records, ∀ attempt, record ≠ .created attempt := by
    intro record hmem attempt heq
    subst heq
    obtain hmem | hmem := List.mem_append.1 hmem
    · obtain ⟨_, -, hfalse⟩ := List.mem_map.1 hmem
      cases hfalse
    · obtain ⟨_, -, hfalse⟩ := List.mem_map.1 hmem
      cases hfalse
  rw [installed_attempts_putAll _ _ hcreated] at hfind
  have hended {record : Staged} (hmem : record ∈ (shutdown engine now).records)
      (hrecord : attempt? record = some attempt) : attemptInflight attempt.state = false := by
    rw [terminal_of_shutdown hmem hrecord]
    rfl
  obtain ⟨record, hmem, hrecord⟩ | hold := Registry.find_putAll hfind
  · exact hended hmem hrecord
  · cases hinflight : attemptInflight attempt.state with
    | false => rfl
    | true =>
      obtain ⟨updated, hmem, hkey⟩ := @abandoned_shutdown engine now k attempt hold hinflight
      obtain ⟨last, hlast, record, hmem', hrecord⟩ :=
        Registry.find_putAll_of_mem (r := engine.tables.attempts) (f := attempt?) hmem rfl
      rw [hkey, hfind] at hlast
      cases hlast
      rw [hended hmem' hrecord] at hinflight
      cases hinflight

theorem grounded_step (h : Grounded s) (hstopped : Stopped s) (hstep : step s action = some t) :
    Grounded t := by
  intro k attempt hfind
  obtain hold | hcreated | ⟨type, hstages⟩ := attempt_step hstep hfind
  · exact h k attempt hold
  · have hrunning : s.engine.control.shuttingDown = false := by
      generalize action.event = event at hcreated
      cases hcreated with
      | createdApply admitted => exact admitted.running
      | createdRevoke admitted => exact admitted.running
    exact absurd hstopped (by unfold Stopped; rw [hrunning]; exact nofun)
  · obtain ⟨old, hold, hmoves⟩ := moves_of_stages hstages
    cases hinflight : attemptInflight attempt.state with
    | false => rfl
    | true =>
      have hlive := hmoves.live hinflight
      rw [h _ old hold] at hlive
      cases hlive

end Flights

end RateGovernor.Dynamics.Stopping
