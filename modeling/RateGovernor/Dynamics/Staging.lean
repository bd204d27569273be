import RateGovernor.Dynamics.Sections

namespace RateGovernor.Dynamics.Staging

open Model.CheckedMath Model.Identity Model.Reason Model.Entities Model.Envelope Model.EngineState
open Model.Durability Model.Authority Model.Calls Model.Lifecycle Model.Completion
open Model.Revocation Model.Maintenance Model.Execution Foundation.KeyedTable Sections

variable {s : System} {record : Staged}

section Ingesting

theorem mem_ingest {engine : Engine} {names : Ingest} {shape : ReasonCode}
    {existing : Option Generation} {generation : Generation} {size : ℕ} {limit : U64}
    {staged : Staged}
    (h : record ∈ (ingest engine names shape existing generation size limit staged).records) :
    record = staged ∧ ∀ stored, existing = some stored → stored.value < generation.value := by
  unfold ingest at h
  split at h
  · cases h
  · split at h
    · cases h
    · split at h
      · next stored =>
        split at h
        · cases h
        · next hnewer =>
          refine ⟨List.mem_singleton.1 h, ?_⟩
          rintro _ ⟨⟩
          exact UInt64.not_le.1 hnewer
      · split at h
        · cases h
        · exact ⟨List.mem_singleton.1 h, fun _ h ↦ nomatch h⟩

theorem newer_of_map {α : Type} {found : Option α} {generationOf : α → Generation} {g : Generation}
    (h : ∀ stored, found.map generationOf = some stored → stored.value < g.value) :
    ∀ old, found = some old → (generationOf old).value < g.value :=
  fun old hold ↦ h _ (by rw [hold]; rfl)

theorem mem_changeState {α : Type} {engine : Engine} {actor : ActorContext} {found : Option α}
    {missing mismatch : Error} {current : α → Bool} {staged : α → Staged}
    (h : record ∈ (changeState engine actor found missing mismatch current staged).records) :
    ∃ old, found = some old ∧ current old = true ∧ record = staged old := by
  unfold changeState at h
  split at h
  · cases h
  · split at h
    · cases h
    · split at h
      · cases h
      · next old =>
        split at h
        · cases h
        · next hcurrent =>
          exact ⟨old, rfl, by simpa using hcurrent, List.mem_singleton.1 h⟩

theorem stages_advanceEpoch {epoch : FabricEpoch} {actor : ActorContext} {now : U64}
    (h : record ∈ (advanceEpoch s.engine epoch actor now).records) :
    Stages s (.advanceEpoch epoch actor now) record := by
  unfold advanceEpoch at h
  split at h
  · cases h
  · next hepoch =>
    simp only [Bool.or_eq_true, Bool.not_eq_true', decide_eq_true_eq, not_or,
      Bool.not_eq_false, UInt64.not_le] at hepoch
    split at h
    · cases h
    · obtain rfl | h := List.mem_cons.1 h
      · exact .epoch hepoch.1 hepoch.2
      · obtain ⟨envelope, henvelope, rfl⟩ := List.mem_map.1 h
        obtain ⟨old, hold, hdemoted⟩ := List.mem_filterMap.1 henvelope
        exact .epochDemoted (Registry.mem_entries.1 hold) hdemoted

theorem stages_openEnvelope {request : EnvelopeRequest} {actor : ActorContext} {now : U64}
    (h : record ∈ (openEnvelope s.engine request actor now).records) :
    Stages s (.openEnvelope request actor now) record := by
  unfold openEnvelope at h
  simp only at h
  repeat' split at h
  all_goals try exact absurd h List.not_mem_nil
  next hroom =>
  obtain rfl := List.mem_singleton.1 h
  exact .opened (Nat.not_le.1 hroom)

theorem epoch_valid_of_checkActor {engine : Engine} {actor : ActorContext}
    (h : checkActor engine actor = none) : engine.tables.epoch.valid = true := by
  unfold checkActor at h
  split at h
  · cases h
  · next hincarnation =>
    split at h
    · cases h
    · next hepoch =>
      have hepoch : actor.epoch = engine.tables.epoch := by simpa using hepoch
      unfold ActorContext.hasIncarnation at hincarnation
      rw [← hepoch]
      exact (Bool.and_eq_true_iff.1 (by simpa using hincarnation)).1

theorem stages_authorize {id : RateEnvelopeId} {actor : ActorContext} {now : U64}
    (h : record ∈ (authorize s.engine id actor now).records) :
    Stages s (.authorize id actor now) record := by
  unfold authorize at h
  simp only at h
  split at h
  · cases h
  · split at h
    · cases h
    · next hactor =>
      split at h
      · cases h
      · next envelope hfound =>
        split at h
        · next hrefused =>
          obtain rfl := List.mem_singleton.1 h
          exact .unauthorized hfound (epoch_valid_of_checkActor hactor) (by simpa using hrefused)
        · next hplan =>
          obtain rfl := List.mem_singleton.1 h
          exact .authorized hfound (by simpa using hplan)

end Ingesting

section Completing

/-- A section that changes nothing but counters and goes on with nothing. -/
def Concluded {α : Type} (engine : Engine) (decision : Decision (Answer α)) : Prop :=
  ∃ counters result, decision = conclude { engine.control with counters } (result, none)

theorem Concluded.not_mem {α : Type} {engine : Engine} {decision : Decision (Answer α)}
    (h : Concluded engine decision) : record ∉ decision.records := by
  obtain ⟨counters, result, rfl⟩ := h
  exact List.not_mem_nil

theorem apply_cases (s : System) (id : RateEnvelopeId) (actor : ActorContext) (now : U64)
    (session : Session) :
    Concluded s.engine (apply s.engine id actor now session) ∨
      ∃ envelope backend, ApplyAdmitted s id now session envelope backend ∧
        apply s.engine id actor now session = dispatchApply s.engine envelope backend session now := by
  unfold apply
  simp only
  split
  · exact .inl ⟨_, _, rfl⟩
  · next hrunning =>
    split
    · exact .inl ⟨_, _, rfl⟩
    · split
      · exact .inl ⟨_, _, rfl⟩
      · next envelope hfound =>
        split
        · exact .inl ⟨_, _, rfl⟩
        · next hlive =>
          split
          · exact .inl ⟨_, _, rfl⟩
          · next hcooled =>
            split
            · exact .inl ⟨_, _, rfl⟩
            · next hidle =>
              split
              · exact .inl ⟨_, _, rfl⟩
              · next backend hbackend =>
                split
                · exact .inl ⟨_, _, rfl⟩
                · next hbound =>
                  split
                  · exact .inl ⟨_, _, rfl⟩
                  · split
                    · exact .inl ⟨_, _, rfl⟩
                    · next hidentity =>
                      simp only [ne_eq, Bool.or_eq_true, decide_eq_true_eq, not_or,
                        Decidable.not_not] at hidentity
                      simp only [ne_eq, Bool.and_eq_true, decide_eq_true_eq, not_and,
                        UInt64.not_lt] at hcooled
                      exact .inr ⟨envelope, backend, ⟨by simpa using hrunning, hfound, hlive,
                        or_iff_not_imp_left.2 fun h ↦ hcooled (by simpa using h), hidle, hbackend,
                        by simpa using hbound, hidentity.1, hidentity.2⟩, rfl⟩

theorem stages_apply {id : RateEnvelopeId} {actor : ActorContext} {now : U64} {session : Session}
    (h : record ∈ (apply s.engine id actor now session).records) :
    Stages s (.apply id actor now session) record := by
  obtain hnone | ⟨envelope, backend, admitted, heq⟩ := apply_cases s id actor now session
  · exact absurd h hnone.not_mem
  · rw [heq] at h
    unfold dispatchApply at h
    simp only at h
    split at h
    · obtain rfl := List.mem_singleton.1 h
      exact .denied admitted
    · next hplan =>
      have hplan : (derivePlanLocked s.engine envelope now).authorized = true := by
        simpa using hplan
      obtain h | h := List.mem_append.1 h
      · split at h
        · cases h
        · obtain rfl := List.mem_singleton.1 h
          exact .planned admitted hplan
      · obtain rfl | h := List.mem_cons.1 h
        · exact .createdApply admitted hplan
        · obtain rfl := List.mem_singleton.1 h
          exact .dispatching admitted hplan

theorem finishApply_cases {i : ℕ} {task : ApplyTask} {report : CompletionReport} {now : U64}
    (hcall : s.calls[i]? = some (.applyFinishing task report now)) :
    Concluded s.engine (finishApply s.engine task report now) ∨
      ∃ attempt envelope, ApplyFinishing s i task report now attempt envelope ∧
        ((∃ reason detail, finishApply s.engine task report now =
            rejectLate s.engine envelope attempt reason report.acknowledged detail now) ∨
          ApplyAccepted s i task report now attempt envelope ∧
            finishApply s.engine task report now =
              acceptApply s.engine task envelope attempt report now) := by
  unfold finishApply
  simp only
  split
  · next attempt envelope hattempt henvelope =>
    split
    · exact .inl ⟨_, _, rfl⟩
    · next hkind =>
      split
      · exact .inl ⟨_, _, rfl⟩
      · next hstate =>
        simp only [Bool.or_eq_true, decide_eq_true_eq, not_or] at hstate
        have finishing : ApplyFinishing s i task report now attempt envelope :=
          ⟨hcall, hattempt, henvelope, by simpa using hkind, hstate.1, hstate.2⟩
        refine .inr ⟨attempt, envelope, finishing, ?_⟩
        split
        · repeat' split
          all_goals exact .inl ⟨_, _, rfl⟩
        · next hfence =>
          simp only [Bool.or_eq_true, Bool.not_eq_true', not_or, Bool.not_eq_false,
            Bool.not_eq_true] at hfence
          split
          · exact .inl ⟨_, _, rfl⟩
          · next hcurrent =>
            exact .inr ⟨{ finishing with
              inflight := hfence.1.1, boot := hfence.1.2, epoch := hfence.2
              current := by simpa using hcurrent }, rfl⟩
  · exact .inl ⟨_, _, rfl⟩

theorem stages_finishApply {i : ℕ} {task : ApplyTask} {report : CompletionReport} {now : U64}
    (hcall : s.calls[i]? = some (.applyFinishing task report now))
    (h : record ∈ (finishApply s.engine task report now).records) :
    Stages s (.finish i) record := by
  obtain hnone | ⟨attempt, envelope, finishing, ⟨reason, detail, heq⟩ | ⟨accepted, heq⟩⟩ :=
    finishApply_cases hcall
  · exact absurd h hnone.not_mem
  · rw [heq] at h
    obtain rfl | h := List.mem_cons.1 h
    · exact .lateFinishAttempt finishing
    · obtain rfl := List.mem_singleton.1 h
      exact .lateFinishEnvelope finishing
  · rw [heq] at h
    unfold acceptApply at h
    simp only at h
    split at h
    · obtain rfl := List.mem_singleton.1 h
      exact .dispatchedAttempt accepted
    · next hanswered =>
      split at h
      · next hrefused =>
        have hrefused : report.acknowledged = false := by simpa using hrefused
        obtain rfl | h := List.mem_cons.1 h
        · exact .refusedApplyAttempt accepted hrefused
        · obtain rfl := List.mem_singleton.1 h
          exact .refusedApplyEnvelope accepted hrefused hanswered
      · obtain rfl := List.mem_singleton.1 h
        exact .acknowledgedApply accepted

theorem stages_publishApply {i : ℕ} {task : ApplyTask} {now clock : U64} {backend : Option Backend}
    {verification : VerificationOutcome}
    (hcall : s.calls[i]? = some (.applyPublishing task now backend verification))
    (h : record ∈ (publishApply s.engine task now verification).records) :
    Stages s (.publish i clock) record := by
  have late {attempt envelope}
      (publishing : ApplyPublishing s i task now backend verification attempt envelope)
      {reason detail}
      (h : record ∈ (rejectLate s.engine envelope attempt reason verification.observedPresent
        detail now).records) :
      Stages s (.publish i clock) record := by
    obtain rfl | h := List.mem_cons.1 h
    · exact .latePublishAttempt publishing
    · obtain rfl := List.mem_singleton.1 h
      exact .latePublishEnvelope publishing
  unfold publishApply at h
  simp only at h
  split at h
  · next attempt envelope hattempt henvelope =>
    have publishing : ApplyPublishing s i task now backend verification attempt envelope :=
      ⟨hcall, hattempt, henvelope⟩
    split at h
    · exact late publishing h
    · next hacknowledged =>
      split at h
      · exact late publishing h
      · next hcurrent =>
        simp only [ne_eq, Bool.or_eq_true, decide_eq_true_eq, not_or,
          Decidable.not_not] at hcurrent
        have judged : ApplyJudged s i task now backend verification attempt envelope :=
          { publishing with
            acknowledged := by simpa using hacknowledged
            current := by simpa using hcurrent.1, epoch := by simpa using hcurrent.2 }
        obtain rfl | h := List.mem_cons.1 h
        · exact .judgedApplyAttempt judged
        · obtain rfl := List.mem_singleton.1 h
          exact .judgedApplyEnvelope judged
  · cases h

theorem revoke_cases (s : System) (id : RateEnvelopeId) (reason : ReasonCode) (actor : ActorContext)
    (now : U64) (session : Session) :
    Concluded s.engine (revoke s.engine id reason actor now session) ∨
      ∃ envelope backend, RevokeAdmitted s id envelope backend ∧
        revoke s.engine id reason actor now session =
          dispatchRevoke s.engine envelope reason backend session now := by
  unfold revoke
  simp only
  split
  · exact .inl ⟨_, _, rfl⟩
  · next hrunning =>
    split
    · exact .inl ⟨_, _, rfl⟩
    · split
      · exact .inl ⟨_, _, rfl⟩
      · next envelope hfound =>
        split
        · exact .inl ⟨_, _, rfl⟩
        · next hlive =>
          split
          · exact .inl ⟨_, _, rfl⟩
          · next hidle =>
            split
            · exact .inl ⟨_, _, rfl⟩
            · next backend hbackend =>
              split
              · exact .inl ⟨_, _, rfl⟩
              · next hbound =>
                split
                · exact .inl ⟨_, _, rfl⟩
                · exact .inr ⟨envelope, backend, ⟨by simpa using hrunning, hfound, hlive, hidle,
                    hbackend, by simpa using hbound⟩, rfl⟩

theorem stages_revoke {id : RateEnvelopeId} {reason : ReasonCode} {actor : ActorContext} {now : U64}
    {session : Session} (h : record ∈ (revoke s.engine id reason actor now session).records) :
    Stages s (.revoke id reason actor now session) record := by
  obtain hnone | ⟨envelope, backend, admitted, heq⟩ := revoke_cases s id reason actor now session
  · exact absurd h hnone.not_mem
  · rw [heq] at h
    obtain rfl | h := List.mem_cons.1 h
    · exact .createdRevoke admitted
    · obtain rfl := List.mem_singleton.1 h
      exact .revoking admitted

theorem finishRevoke_cases {i : ℕ} {task : RevokeTask} {report : CompletionReport} {now : U64}
    (hcall : s.calls[i]? = some (.revokeFinishing task report now)) :
    Concluded s.engine (finishRevoke s.engine task report now) ∨
      ∃ attempt envelope, RevokeFinishing s i task report now attempt envelope ∧
        ((∃ outcome reason detail, finishRevoke s.engine task report now =
            rejectLateRevoke s.engine outcome attempt reason detail now) ∨
          attemptInflight attempt.state = true ∧ finishRevoke s.engine task report now =
            acceptRevoke s.engine task envelope attempt report now) := by
  unfold finishRevoke
  simp only
  split
  · next attempt envelope hattempt henvelope =>
    split
    · exact .inl ⟨_, _, rfl⟩
    · next hkind =>
      split
      · exact .inl ⟨_, _, rfl⟩
      · next hstate =>
        simp only [Bool.or_eq_true, decide_eq_true_eq, not_or] at hstate
        refine .inr ⟨attempt, envelope,
          ⟨hcall, hattempt, henvelope, by simpa using hkind, hstate.1, hstate.2⟩, ?_⟩
        split
        · exact .inl ⟨_, _, _, rfl⟩
        · next hfence =>
          simp only [Bool.or_eq_true, Bool.not_eq_true', not_or, Bool.not_eq_false] at hfence
          exact .inr ⟨hfence.1.1, rfl⟩
  · exact .inl ⟨_, _, rfl⟩

theorem stages_finishRevoke {i : ℕ} {task : RevokeTask} {report : CompletionReport} {now : U64}
    (hcall : s.calls[i]? = some (.revokeFinishing task report now))
    (h : record ∈ (finishRevoke s.engine task report now).records) :
    Stages s (.finish i) record := by
  obtain hnone | ⟨attempt, envelope, finishing, ⟨outcome, reason, detail, heq⟩ | ⟨hinflight, heq⟩⟩ :=
    finishRevoke_cases hcall
  · exact absurd h hnone.not_mem
  · rw [heq] at h
    obtain rfl := List.mem_singleton.1 h
    exact .lateFinishRevoke finishing
  · rw [heq] at h
    unfold acceptRevoke at h
    simp only at h
    split at h
    · next hrefused =>
      have hrefused : report.acknowledged = false := by simpa using hrefused
      obtain rfl | h := List.mem_cons.1 h
      · exact .refusedRevokeAttempt finishing hinflight hrefused
      · obtain rfl := List.mem_singleton.1 h
        exact .refusedRevokeEnvelope finishing hinflight hrefused
    · obtain rfl := List.mem_singleton.1 h
      exact .acknowledgedRevoke finishing hinflight

theorem stages_publishRevoke {i : ℕ} {task : RevokeTask} {now clock : U64}
    {backend : Option Backend} {verification : VerificationOutcome} {seen : EnvelopeState}
    (hcall : s.calls[i]? = some (.revokePublishing task now backend verification seen))
    (h : record ∈ (publishRevoke s.engine task now verification seen).records) :
    Stages s (.publish i clock) record := by
  unfold publishRevoke at h
  simp only at h
  split at h
  · next attempt envelope hattempt henvelope =>
    have publishing : RevokePublishing s i task now backend verification seen attempt envelope :=
      ⟨hcall, hattempt, henvelope⟩
    split at h
    · obtain rfl := List.mem_singleton.1 h
      exact .latePublishRevoke publishing
    · next hacknowledged =>
      have hacknowledged : attempt.state = .acknowledged := by simpa using hacknowledged
      obtain rfl | h := List.mem_cons.1 h
      · exact .judgedRevokeAttempt publishing hacknowledged
      · obtain rfl := List.mem_singleton.1 h
        exact .judgedRevokeEnvelope publishing hacknowledged
  · cases h

theorem stages_revalidateRecord {i : ℕ} {sweep : Sweep} {probe : Probe}
    {verification : VerificationOutcome} {now clock : U64}
    (hcall : s.calls[i]? = some (.recording sweep probe verification now))
    (h : record ∈ (revalidateRecord s.engine sweep probe verification now clock).records) :
    Stages s (.publish i clock) record := by
  unfold revalidateRecord at h
  simp only at h
  split at h
  · cases h
  · next envelope henvelope =>
    split at h
    · cases h
    · next hwanted =>
      obtain rfl := List.mem_singleton.1 h
      exact .revalidated ⟨hcall, henvelope, by simpa using hwanted⟩

end Completing

section Terminating

theorem stages_cancelAttempt {id : EnforcementAttemptId} {reason : ReasonCode}
    {actor : ActorContext} {now : U64}
    (h : record ∈ (cancelAttempt s.engine id reason actor now).records) :
    Stages s (.cancelAttempt id reason actor now) record := by
  unfold cancelAttempt at h
  simp only at h
  split at h
  · cases h
  · split at h
    · cases h
    · next attempt hattempt =>
      split at h
      · cases h
      · next hinflight =>
        obtain rfl := List.mem_singleton.1 h
        exact .cancelled ⟨hattempt, by simpa using hinflight⟩

theorem stages_abandonAttempt {id : EnforcementAttemptId} {reason : ReasonCode}
    {actor : ActorContext} {now : U64}
    (h : record ∈ (abandonAttempt s.engine id reason actor now).records) :
    Stages s (.abandonAttempt id reason actor now) record := by
  unfold abandonAttempt at h
  simp only at h
  split at h
  · cases h
  · split at h
    · cases h
    · next attempt hattempt =>
      split at h
      · cases h
      · next hinflight =>
        split at h
        · cases h
        · next envelope henvelope =>
          have found : InFlight s id attempt := ⟨hattempt, by simpa using hinflight⟩
          obtain rfl | h := List.mem_cons.1 h
          · exact .abandonedAttempt found
          · obtain rfl := List.mem_singleton.1 h
            exact .abandonedEnvelope found henvelope

theorem stages_consumeBurst {id : RateEnvelopeId} {tokens now : U64}
    (h : record ∈ (consumeBurst s.engine id tokens now).records) :
    Stages s (.consumeBurst id tokens now) record := by
  unfold consumeBurst at h
  simp only at h
  split at h
  · cases h
  · split at h
    · cases h
    · next envelope henvelope =>
      split at h
      · cases h
      · next hactive =>
        simp only [ne_eq, Bool.and_eq_true, decide_eq_true_eq, not_and, Decidable.not_not] at hactive
        have hactive : envelope.state = .applied ∨ envelope.state = .degraded :=
          or_iff_not_imp_left.2 fun h ↦ hactive (by simpa using h)
        split at h
        · cases h
        · split at h
          · obtain rfl := List.mem_singleton.1 h
            exact .consumed henvelope hactive
          · obtain rfl := List.mem_singleton.1 h
            exact .consumed henvelope hactive

end Terminating

section Batches

theorem mem_mergeBy {α : Type} {key : α → U64} {x candidate : α} {list : List α}
    (h : x ∈ mergeBy key candidate list) : x = candidate ∨ x ∈ list := by
  induction list with
  | nil => exact .inl (List.mem_singleton.1 h)
  | cons existing list ih =>
    simp only [mergeBy] at h
    split at h
    · exact (List.mem_cons.1 h).imp id (List.mem_cons_of_mem _)
    · obtain rfl | h := List.mem_cons.1 h
      · exact .inr List.mem_cons_self
      · exact (ih h).imp id (List.mem_cons_of_mem _)

theorem mem_foldl_mergeBy {α : Type} {key : α → U64} {x : α} {list merged : List α}
    (h : x ∈ list.foldl (fun merged candidate ↦ mergeBy key candidate merged) merged) :
    x ∈ list ∨ x ∈ merged := by
  induction list generalizing merged with
  | nil => exact .inr h
  | cons candidate list ih =>
    obtain h | h := ih h
    · exact .inl (List.mem_cons_of_mem _ h)
    · obtain rfl | h := mem_mergeBy h
      · exact .inl List.mem_cons_self
      · exact .inr h

theorem lost_of_mem {tables : Tables} {envelope : RateEnvelope}
    (h : envelope ∈ collectSessionLostUpdates tables) :
    ∃ old, tables.envelopes.find old.id.value = some old ∧
      sessionLostEnvelope old = some envelope := by
  obtain h | h := mem_foldl_mergeBy h
  · obtain ⟨old, hold, hlost⟩ := List.mem_filterMap.1 h
    exact ⟨old, Registry.mem_entries.1 hold, hlost⟩
  · cases h

theorem stages_markSessionLost {actor : ActorContext}
    (h : record ∈ (markSessionLost s.engine actor).records) :
    Stages s (.markSessionLost actor) record := by
  unfold markSessionLost at h
  split at h
  · cases h
  · obtain ⟨envelope, henvelope, rfl⟩ := List.mem_map.1 h
    obtain ⟨old, hold, hlost⟩ := lost_of_mem henvelope
    exact .sessionLost hold hlost

/-- Everything a tick has collected is something it may stage. -/
structure Collected (s : System) (now : U64) (session : Session) (state : TickState) : Prop where
  envelopes : ∀ envelope ∈ state.envelopeUpdates,
    Stages s (.tick now session) (.envelope .envelopeStateChange envelope)
  attempts : ∀ attempt ∈ state.attemptUpdates,
    Stages s (.tick now session) (.attempt .attemptTerminated attempt)

theorem collected_tickStart {now : U64} {session : Session} (sessionLost : Bool) :
    Collected s now session (tickStart s.engine now sessionLost) := by
  refine ⟨?_, fun _ h ↦ absurd h List.not_mem_nil⟩
  intro envelope h
  simp only [tickStart] at h
  split at h
  · obtain h | h := mem_foldl_mergeBy h
    · obtain ⟨old, hold, hlost⟩ := lost_of_mem h
      exact .tickLost hold hlost
    · cases h
  · cases h

theorem collected_tickEnvelope {now : U64} {session : Session} {state : TickState}
    {envelope : RateEnvelope} (h : Collected s now session state)
    (hmem : envelope ∈ s.engine.tables.envelopes.entries) :
    Collected s now session (tickEnvelope s.engine.tables now state envelope) := by
  refine ⟨?_, h.attempts⟩
  intro updated hupdated
  simp only [tickEnvelope] at hupdated
  split at hupdated
  · obtain rfl | hold := mem_mergeBy hupdated
    · exact .tickMaintained (Registry.mem_entries.1 hmem)
    · exact h.envelopes _ hold
  · exact h.envelopes _ hupdated

theorem collected_tickAttempt {now : U64} {session : Session} {state : TickState}
    {attempt : EnforcementAttempt} (h : Collected s now session state)
    (hmem : attempt ∈ s.engine.tables.attempts.entries) :
    Collected s now session (tickAttempt s.engine.tables now state attempt) := by
  have hfound := Registry.mem_entries.1 hmem
  unfold tickAttempt
  split
  · exact h
  · next hpassed =>
    have hpassed : deadlinePassed attempt now = true := by simpa using hpassed
    split
    · exact ⟨h.envelopes, h.attempts⟩
    · have hattempts : ∀ updated ∈ mergeAttempt state.attemptUpdates (expiredAttempt attempt now),
          Stages s (.tick now session) (.attempt .attemptTerminated updated) := by
        intro updated hupdated
        obtain rfl | hold := mem_mergeBy hupdated
        · exact .tickExpiredAttempt hfound hpassed
        · exact h.attempts _ hold
      simp only
      split
      · exact ⟨h.envelopes, hattempts⟩
      · next envelope henvelope =>
        refine ⟨?_, hattempts⟩
        intro updated hupdated
        obtain rfl | hold := mem_mergeBy hupdated
        · exact .tickExpiredEnvelope hfound hpassed henvelope
        · exact h.envelopes _ hold

theorem collected_tickPasses (s : System) (now : U64) (session : Session) (sessionLost : Bool) :
    Collected s now session (tickPasses s.engine now sessionLost) := by
  have envelopes (list : List RateEnvelope) (state : TickState)
      (hlist : ∀ envelope ∈ list, envelope ∈ s.engine.tables.envelopes.entries)
      (h : Collected s now session state) :
      Collected s now session (list.foldl (tickEnvelope s.engine.tables now) state) := by
    induction list generalizing state with
    | nil => exact h
    | cons envelope list ih =>
      exact ih _ (fun _ h ↦ hlist _ (List.mem_cons_of_mem _ h))
        (collected_tickEnvelope h (hlist _ List.mem_cons_self))
  have attempts (list : List EnforcementAttempt) (state : TickState)
      (hlist : ∀ attempt ∈ list, attempt ∈ s.engine.tables.attempts.entries)
      (h : Collected s now session state) :
      Collected s now session (list.foldl (tickAttempt s.engine.tables now) state) := by
    induction list generalizing state with
    | nil => exact h
    | cons attempt list ih =>
      exact ih _ (fun _ h ↦ hlist _ (List.mem_cons_of_mem _ h))
        (collected_tickAttempt h (hlist _ List.mem_cons_self))
  exact attempts _ _ (fun _ h ↦ h) (envelopes _ _ (fun _ h ↦ h) (collected_tickStart _))

theorem stages_tick {now : U64} {session : Session}
    (h : record ∈ (tick s.engine now session).records) : Stages s (.tick now session) record := by
  have hcollected := collected_tickPasses s now session
    (s.engine.control.backend.isSome && s.engine.control.backendBound && !session.live)
  obtain h | h := List.mem_append.1 h
  · obtain ⟨envelope, henvelope, rfl⟩ := List.mem_map.1 h
    exact hcollected.envelopes _ henvelope
  · obtain ⟨attempt, hattempt, rfl⟩ := List.mem_map.1 h
    exact hcollected.attempts _ hattempt

theorem inFlight_of_mem {attempt : EnforcementAttempt}
    (h : attempt ∈ inflightAttempts s.engine.tables) : InFlight s attempt.id attempt := by
  obtain ⟨hmem, hinflight⟩ := List.mem_filter.1 h
  exact ⟨Registry.mem_entries.1 hmem, hinflight⟩

theorem stages_shutdown {now : U64} (h : record ∈ (shutdown s.engine now).records) :
    Stages s (.shutdown now) record := by
  obtain h | h := List.mem_append.1 h
  · obtain ⟨attempt, hattempt, rfl⟩ := List.mem_map.1 h
    obtain h | h := mem_foldl_mergeBy hattempt
    · obtain ⟨found, hfound, rfl⟩ := List.mem_map.1 h
      exact .shutdownAttempt (inFlight_of_mem hfound)
    · cases h
  · obtain ⟨envelope, henvelope, rfl⟩ := List.mem_map.1 h
    obtain h | h := mem_foldl_mergeBy henvelope
    · obtain ⟨attempt, hattempt, hnamed⟩ := List.mem_filterMap.1 h
      obtain ⟨envelope, hfound, rfl⟩ := Option.map_eq_some_iff.1 hnamed
      exact .shutdownEnvelope (inFlight_of_mem hattempt) hfound
    · cases h

end Batches

section Dispatching

@[simp] theorem records_map {ρ σ : Type} (f : ρ → σ) (decision : Decision ρ) :
    (Decision.map f decision).records = decision.records := rfl

/-- A section stages nothing but what `Stages` lists for its event. -/
theorem stages_of_sectionOf {event : Event} {decision : Section}
    (hsection : sectionOf s event = some decision) (h : record ∈ decision.records) :
    Stages s event record := by
  cases event with
  | putFlow flow =>
    cases hsection
    obtain ⟨rfl, hnewer⟩ := mem_ingest h
    exact .flow (newer_of_map hnewer)
  | putGrant grant =>
    cases hsection
    obtain ⟨rfl, hnewer⟩ := mem_ingest h
    exact .grant (newer_of_map hnewer)
  | putReservation reservation =>
    cases hsection
    obtain ⟨rfl, hnewer⟩ := mem_ingest h
    exact .reservation (newer_of_map hnewer)
  | putPolicy policy =>
    cases hsection
    obtain ⟨rfl, hnewer⟩ := mem_ingest h
    exact .policy (newer_of_map hnewer)
  | putResource resource =>
    cases hsection
    obtain ⟨rfl, hnewer⟩ := mem_ingest h
    exact .resource (newer_of_map hnewer)
  | putBackend backend =>
    cases hsection
    obtain ⟨rfl, hnewer⟩ := mem_ingest h
    exact .backend (newer_of_map hnewer)
  | changeGrantState id generation state actor =>
    cases hsection
    obtain ⟨old, hfound, hcurrent, rfl⟩ := mem_changeState h
    obtain rfl := of_decide_eq_true hcurrent
    exact .grantState hfound
  | changeReservationState id generation state actor =>
    cases hsection
    obtain ⟨old, hfound, hcurrent, rfl⟩ := mem_changeState h
    obtain rfl := of_decide_eq_true hcurrent
    exact .reservationState hfound
  | changePolicyState id generation state actor =>
    cases hsection
    obtain ⟨old, hfound, hcurrent, rfl⟩ := mem_changeState h
    obtain rfl := of_decide_eq_true hcurrent
    exact .policyState hfound
  | changeResourceState id generation state actor =>
    cases hsection
    obtain ⟨old, hfound, hcurrent, rfl⟩ := mem_changeState h
    obtain rfl := of_decide_eq_true hcurrent
    exact .resourceState hfound
  | advanceEpoch epoch actor now =>
    cases hsection
    exact stages_advanceEpoch h
  | bindBackend backend sessionEpoch session =>
    cases hsection
    cases h
  | openEnvelope request actor now =>
    cases hsection
    exact stages_openEnvelope h
  | authorize id actor now =>
    cases hsection
    exact stages_authorize h
  | apply id actor now session =>
    cases hsection
    exact stages_apply h
  | completeApply attempt report actor =>
    cases hsection
    unfold begun completeApply at h
    simp only [records_map] at h
    repeat' split at h
    all_goals cases h
  | revoke id reason actor now session =>
    cases hsection
    exact stages_revoke h
  | completeRevoke attempt report actor =>
    cases hsection
    unfold begun completeRevoke at h
    simp only [records_map] at h
    repeat' split at h
    all_goals cases h
  | cancelAttempt attempt reason actor now =>
    cases hsection
    exact stages_cancelAttempt h
  | abandonAttempt attempt reason actor now =>
    cases hsection
    exact stages_abandonAttempt h
  | consumeBurst id tokens now =>
    cases hsection
    exact stages_consumeBurst h
  | tick now session =>
    cases hsection
    exact stages_tick h
  | revalidateAll actor now =>
    cases hsection
    unfold begun revalidateAll at h
    simp only [records_map] at h
    repeat' split at h
    all_goals cases h
  | markSessionLost actor =>
    cases hsection
    exact stages_markSessionLost h
  | shutdown now =>
    cases hsection
    exact stages_shutdown h
  | dispatched call outcome =>
    obtain ⟨found, hfound, hsection⟩ := Option.bind_eq_some_iff.1 hsection
    cases found <;> cases hsection <;> cases h
  | readClock call now =>
    obtain ⟨found, hfound, hsection⟩ := Option.bind_eq_some_iff.1 hsection
    cases found <;> cases hsection <;> cases h
  | finish call =>
    obtain ⟨found, hfound, hsection⟩ := Option.bind_eq_some_iff.1 hsection
    cases found <;> cases hsection
    · exact stages_finishApply hfound h
    · exact stages_finishRevoke hfound h
  | readBack call verification now =>
    obtain ⟨found, hfound, hsection⟩ := Option.bind_eq_some_iff.1 hsection
    cases found <;> cases hsection <;> cases h
  | publish call clock =>
    obtain ⟨found, hfound, hsection⟩ := Option.bind_eq_some_iff.1 hsection
    cases found <;> cases hsection
    · exact stages_publishApply hfound h
    · exact stages_publishRevoke hfound h
    · exact stages_revalidateRecord hfound h
  | revalidateNext call now session =>
    obtain ⟨found, hfound, hsection⟩ := Option.bind_eq_some_iff.1 hsection
    cases found <;> cases hsection
    unfold resumed Model.Maintenance.revalidateNext at h
    simp only [records_map] at h
    repeat' split at h
    all_goals cases h

end Dispatching

end RateGovernor.Dynamics.Staging
