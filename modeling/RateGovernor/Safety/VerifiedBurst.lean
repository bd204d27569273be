import RateGovernor.Dynamics.Balances
import RateGovernor.Dynamics.Stopping
import RateGovernor.Safety.DeadSession
import RateGovernor.Safety.Doubt
import RateGovernor.Safety.Shutdown
import RateGovernor.Safety.SoundAuthorities

namespace RateGovernor.Safety.VerifiedBurst

open Model.CheckedMath Model.Bucket Model.Identity Model.Reason Model.Entities Model.Envelope
open Model.JournalWriter Model.EngineState Model.Authority Model.Calls Model.Lifecycle
open Model.Completion Model.Revocation Model.Maintenance Model.Execution Model.Recovery
open Foundation.ByteCodec Foundation.KeyedTable Foundation.GuardedRun Dynamics.Install
open Dynamics.Sections Dynamics.Staging Dynamics.Turns Dynamics.Evolution Dynamics.Bindings
open Dynamics.Readbacks Dynamics.States Dynamics.Flags Dynamics.Ticking Dynamics.Stopping
open Dynamics Dynamics.Start Dynamics.Demotion SoundAuthorities

variable {s t start : System} {event : Event} {action : Action} {tables : Tables}
  {envelope old new : RateEnvelope} {k now : U64}

section Envelopes

def Active (envelope : RateEnvelope) : Prop :=
  envelope.state = .applied ∨ envelope.state = .degraded

def Trusted (envelope : RateEnvelope) : Prop :=
  envelope.effectVerified = true ∧ envelope.requiresRevalidation = false

def Spendable (tables : Tables) (envelope : RateEnvelope) : Prop :=
  ∃ now, authorityStatus tables envelope now = .none

def Holding (envelope : RateEnvelope) : Prop :=
  envelope.state = .applied ∨ envelope.state = .dispatching ∨
    envelope.state = .degraded ∧ envelope.effectVerified = true

instance : DecidablePred Active := fun _ ↦ inferInstanceAs (Decidable (_ ∨ _))
instance : DecidablePred Trusted := fun _ ↦ inferInstanceAs (Decidable (_ ∧ _))

theorem Trusted.keep (h : Trusted old) (hflags : SameFlags old new) : Trusted new :=
  ⟨hflags.1.trans h.1, hflags.2.trans h.2⟩

theorem untrusted_before (hflags : SameFlags old new) (hstate : Active new → Active old)
    (hactive : Active new) (huntrusted : ¬Trusted new) : Active old ∧ ¬Trusted old :=
  ⟨hstate hactive, fun htrusted ↦ huntrusted (htrusted.keep hflags)⟩

theorem active_of_state (h : new.state = old.state) : Active new → Active old := by
  unfold Active
  rw [h]
  exact id

theorem not_active {state : EnvelopeState} (h : envelope.state = state) (happlied : state ≠ .applied)
    (hdegraded : state ≠ .degraded) : ¬Active envelope := by
  rintro (hstate | hstate)
  · exact happlied (h.symm.trans hstate)
  · exact hdegraded (h.symm.trans hstate)

theorem holding_of_epochDemoted (h : epochDemoted now old = some new) (hactive : Active new) :
    Holding old ∨ Active old ∧ ¬Trusted old := by
  by_cases happlied : old.state = .applied
  · exact .inl (.inl happlied)
  · by_cases hdispatching : old.state = .dispatching
    · exact .inl (.inr (.inl hdispatching))
    · have hold := active_of_state (state_of_epochDemoted h happlied hdispatching) hactive
      by_cases hverified : old.effectVerified = true
      · exact .inl (.inr (.inr ⟨hold.resolve_left happlied, hverified⟩))
      · exact .inr ⟨hold, fun htrusted ↦ hverified htrusted.1⟩

theorem holding_of_sessionLost (h : sessionLostEnvelope old = some new) (hactive : Active new) :
    Holding old ∨ Active old ∧ ¬Trusted old := by
  by_cases happlied : old.state = .applied
  · exact .inl (.inl happlied)
  · by_cases hdispatching : old.state = .dispatching
    · exact .inl (.inr (.inl hdispatching))
    · have hold := active_of_state (state_of_sessionLost h happlied hdispatching) hactive
      by_cases hverified : old.effectVerified = true
      · exact .inl (.inr (.inr ⟨hold.resolve_left happlied, hverified⟩))
      · exact .inr ⟨hold, fun htrusted ↦ hverified htrusted.1⟩

theorem flags_maintained_of_active (hactive : Active (maintained tables old now)) :
    SameFlags old (maintained tables old now) ∧ (maintained tables old now).state = old.state := by
  obtain ⟨hverified, -, hdoubt⟩ := same_restored now old
  cases houtlived : outlived tables now old with
  | true =>
    rw [maintained_of_outlived houtlived] at hactive
    simp only [Active] at hactive
    split at hactive <;> obtain h | h := hactive <;> cases h
  | false =>
    rw [maintained_of_not_outlived houtlived] at hactive ⊢
    refine ⟨⟨hverified, hdoubt⟩, ?_⟩
    obtain hsame | ⟨-, hauthorized⟩ := state_restored now old
    · exact hsame
    · exact absurd hactive (not_active hauthorized nofun nofun)

theorem untrusted_authorized (plan : EffectivePlan) (hactive : Active (authorizedEnvelope old plan now))
    (huntrusted : ¬Trusted (authorizedEnvelope old plan now)) : Active old ∧ ¬Trusted old := by
  have hold : Active old := by
    unfold authorizedEnvelope at hactive
    simp only at hactive
    split at hactive
    · next h => simpa only [Active, Bool.or_eq_true, decide_eq_true_eq] using h
    · split at hactive
      · exact absurd hactive (not_active rfl nofun nofun)
      · exact hactive
  obtain ⟨⟨hverified, hkept | hcleared⟩, -⟩ := flags_authorizedEnvelope old plan now
  · exact ⟨hold, fun htrusted ↦ huntrusted (htrusted.keep ⟨hverified, hkept⟩)⟩
  · exact ⟨hold, fun htrusted ↦ huntrusted ⟨hverified.trans htrusted.1, hcleared⟩⟩

theorem active_unauthorized {reason : ReasonCode}
    (hactive : Active (unauthorizedEnvelope old reason now)) : Active old := by
  unfold unauthorizedEnvelope at hactive
  simp only [Active] at hactive
  split at hactive
  · obtain h | h := hactive <;> cases h
  · exact hactive

theorem untrusted_late {reason : ReasonCode} {effect : Bool}
    (hactive : Active (lateEnvelope old reason effect now))
    (huntrusted : ¬Trusted (lateEnvelope old reason effect now)) : Active old ∧ ¬Trusted old := by
  have hstate := @state_lateEnvelope old reason effect now
  cases effect with
  | false => exact untrusted_before ⟨rfl, rfl⟩ (active_of_state hstate) hactive huntrusted
  | true =>
    by_cases hrevoked : old.state = .revoked
    · rw [if_neg (by simp [hrevoked]), hrevoked] at hstate
      exact absurd hactive (not_active hstate nofun nofun)
    · rw [if_pos (by simp [hrevoked])] at hstate
      exact absurd hactive (not_active hstate nofun nofun)

theorem inactive_judgedRevoke (old : RateEnvelope) (reason : ReasonCode)
    (verification : VerificationOutcome) (now : U64) :
    ¬Active (judgedRevokeEnvelope old reason verification now) := by
  unfold judgedRevokeEnvelope
  simp only
  split
  · exact not_active rfl nofun nofun
  · exact not_active rfl nofun nofun

theorem short_of_degraded {sweep : Sweep} {probe : Probe} {verification : VerificationOutcome}
    (hanswered : Answered verification) (hpresent : verification.observedPresent = true)
    (hinexact : ¬Exact probe.expectedRate probe.expectedBurst verification)
    (hactive : Active (judgeRevalidation sweep probe old verification now).envelope) :
    verification.observedRateUps ≤ probe.expectedRate := by
  by_contra hexceeds
  have hexceeds := UInt64.not_le.1 hexceeds
  have hpending : (judgeRevalidation sweep probe old verification now).envelope.state =
      .revokePending := by
    unfold judgeRevalidation
    unfold Exact at hinexact
    simp only [hanswered.1, hanswered.2, hpresent, decide_false, Bool.or_self, Bool.false_eq_true,
      if_false, Bool.not_true, Bool.and_eq_true, decide_eq_true_eq, hinexact, hexceeds, if_true]
  exact not_active hpending nofun nofun hactive

end Envelopes

section Causes

/-- The sections that leave the envelope under a key active while nobody vouches for its effect. -/
inductive Undermines (s : System) : Event → U64 → Prop
  | epochAdvanced {epoch : FabricEpoch} {actor : ActorContext} {now k : U64} {old : RateEnvelope}
      (found : s.engine.tables.envelopes.find k = some old) (holding : Holding old) :
      Undermines s (.advanceEpoch epoch actor now) k
  | sessionLost {actor : ActorContext} {k : U64} {old : RateEnvelope}
      (found : s.engine.tables.envelopes.find k = some old) (holding : Holding old) :
      Undermines s (.markSessionLost actor) k
  | tickLost {now k : U64} {session : Session} {old : RateEnvelope}
      (found : s.engine.tables.envelopes.find k = some old) (holding : Holding old)
      (lost : losesSession s.engine session = true)
      (unreached : reached s.engine.tables now true old = false) :
      Undermines s (.tick now session) k
  | tickExpired {now k : U64} {session : Session} {old : RateEnvelope}
      (found : s.engine.tables.envelopes.find k = some old)
      (expired : expired s.engine.tables now old = true) : Undermines s (.tick now session) k
  | refused {i : ℕ} {task : ApplyTask} {report : CompletionReport} {now : U64}
      {attempt : EnforcementAttempt} {envelope : RateEnvelope}
      (accepted : ApplyAccepted s i task report now attempt envelope)
      (refused : report.acknowledged = false) (answered : report.status ≠ .pending) :
      Undermines s (.finish i) task.envelope.value
  | unconfirmed {i : ℕ} {task : ApplyTask} {now clock : U64} {backend : Option Backend}
      {verification : VerificationOutcome} {attempt : EnforcementAttempt} {envelope : RateEnvelope}
      (judged : ApplyJudged s i task now backend verification attempt envelope)
      (silent : Answered verification → verification.observedPresent = false) :
      Undermines s (.publish i clock) task.envelope.value
  | abandoned {id : EnforcementAttemptId} {reason : ReasonCode} {actor : ActorContext} {now : U64}
      {attempt : EnforcementAttempt} (found : InFlight s id attempt) :
      Undermines s (.abandonAttempt id reason actor now) attempt.envelope.value
  | unanswered {i : ℕ} {sweep : Sweep} {probe : Probe} {verification : VerificationOutcome}
      {now clock : U64} {envelope : RateEnvelope}
      (revalidating : Revalidating s i sweep probe verification now clock envelope)
      (active : Active envelope) (silent : ¬Answered verification) :
      Undermines s (.publish i clock) probe.id.value
  | short {i : ℕ} {sweep : Sweep} {probe : Probe} {verification : VerificationOutcome}
      {now clock : U64} {envelope : RateEnvelope}
      (revalidating : Revalidating s i sweep probe verification now clock envelope)
      (answered : Answered verification) (present : verification.observedPresent = true)
      (inexact : ¬Exact probe.expectedRate probe.expectedBurst verification)
      (short : verification.observedRateUps ≤ probe.expectedRate) :
      Undermines s (.publish i clock) probe.id.value
  | revived {event : Event} {k : U64} {old : RateEnvelope}
      (found : s.engine.tables.envelopes.find k = some old) (active : Active old)
      (untrusted : ¬Trusted old) (outdated : ¬Spendable s.engine.tables old) :
      Undermines s event k

theorem Undermines.under {stored staged : RateEnvelope}
    (hstored : s.engine.tables.envelopes.find k = some stored)
    (hbinding : binding staged = binding stored) (h : Undermines s event k) :
    Undermines s event staged.id.value := by
  rw [staged_id hstored hbinding]
  exact h

/-- A staged envelope that is active and untrusted was so before, or its section undermines it. -/
theorem undermined_of_stages {type} (h : Stages s event (.envelope type new))
    (htype : type ≠ .envelopeOpened) (htick : ∀ now session, event ≠ .tick now session)
    (hshutdown : ∀ now, event ≠ .shutdown now)
    (hfind : s.engine.tables.envelopes.find new.id.value = some old)
    (hactive : Active new) (huntrusted : ¬Trusted new) :
    (Active old ∧ ¬Trusted old) ∨ Undermines s event new.id.value := by
  cases h with
  | opened => exact absurd rfl htype
  | epochDemoted hfound hdemoted =>
    cases stored_eq hfound (binding_of_epochDemoted hdemoted) hfind
    obtain hholding | hold := holding_of_epochDemoted hdemoted hactive
    · exact .inr (.epochAdvanced hfind hholding)
    · exact .inl hold
  | unauthorized hfound =>
    cases stored_eq hfound rfl hfind
    exact .inl ⟨active_unauthorized hactive, huntrusted⟩
  | authorized hfound =>
    cases stored_eq hfound (binding_authorizedEnvelope _ _ _) hfind
    exact .inl (untrusted_authorized _ hactive huntrusted)
  | denied admitted =>
    cases stored_eq admitted.found rfl hfind
    exact .inl ⟨hactive, huntrusted⟩
  | planned admitted =>
    cases stored_eq admitted.found (binding_plannedEnvelope _ _) hfind
    exact .inl (untrusted_before (flags_plannedEnvelope _ _)
      (active_of_state (state_plannedEnvelope _)) hactive huntrusted)
  | dispatching => exact absurd hactive (not_active rfl nofun nofun)
  | lateFinishEnvelope finishing =>
    cases stored_eq finishing.storedEnvelope (binding_lateEnvelope _ _ _ _) hfind
    exact .inl (untrusted_late hactive huntrusted)
  | refusedApplyEnvelope accepted hrefused hanswered =>
    exact .inr (.under accepted.storedEnvelope rfl (.refused accepted hrefused hanswered))
  | latePublishEnvelope publishing =>
    cases stored_eq publishing.storedEnvelope (binding_lateEnvelope _ _ _ _) hfind
    exact .inl (untrusted_late hactive huntrusted)
  | judgedApplyEnvelope judged =>
    cases judgedApply _ _ _ _ _ _ with
    | unconfirmed hsilent =>
      exact .inr (.under judged.storedEnvelope (binding_judgeApply _ _ _ _ _ _)
        (.unconfirmed judged hsilent))
    | exact _ _ _ _ _ htrusted hverified => exact absurd ⟨hverified, htrusted⟩ huntrusted
    | overDelivered _ _ _ hstate => exact absurd hactive (not_active hstate nofun nofun)
    | under _ _ _ _ _ _ _ htrusted hverified => exact absurd ⟨hverified, htrusted⟩ huntrusted
    | below _ _ _ _ _ _ hstate => exact absurd hactive (not_active hstate nofun nofun)
  | revoking => exact absurd hactive (not_active rfl nofun nofun)
  | refusedRevokeEnvelope => exact absurd hactive (not_active rfl nofun nofun)
  | judgedRevokeEnvelope => exact absurd hactive (inactive_judgedRevoke _ _ _ _)
  | abandonedEnvelope hinflight hnamed =>
    exact .inr (.under hnamed rfl (.abandoned hinflight))
  | consumed hfound =>
    cases stored_eq hfound rfl hfind
    exact .inl ⟨hactive, huntrusted⟩
  | sessionLost hfound hlost =>
    cases stored_eq hfound (binding_of_sessionLost hlost) hfind
    obtain hholding | hold := holding_of_sessionLost hlost hactive
    · exact .inr (.sessionLost hfind hholding)
    · exact .inl hold
  | tickLost | tickMaintained | tickExpiredEnvelope => exact absurd rfl (htick _ _)
  | revalidated revalidating =>
    cases judgedRevalidation _ _ _ _ _ with
    | unknown hsilent hstate =>
      exact .inr (.under revalidating.storedEnvelope (binding_judgeRevalidation _ _ _ _ _)
        (.unanswered revalidating (active_of_state hstate hactive) hsilent))
    | absent _ _ hstate => exact absurd hactive (not_active hstate nofun nofun)
    | exact _ _ _ _ _ htrusted hverified => exact absurd ⟨hverified, htrusted⟩ huntrusted
    | deviating hanswered hpresent hinexact =>
      exact .inr (.under revalidating.storedEnvelope (binding_judgeRevalidation _ _ _ _ _)
        (.short revalidating hanswered hpresent hinexact
          (short_of_degraded hanswered hpresent hinexact hactive)))
  | shutdownEnvelope => exact absurd rfl (hshutdown _)

end Causes

section Runs

def Vouched (s : System) : Prop :=
  ∀ k envelope, s.engine.tables.envelopes.find k = some envelope → Active envelope →
    Spendable s.engine.tables envelope → Trusted envelope

/-- Whatever the section commits, it undermines no envelope whose authorities are then current. -/
def Underpinned (s : System) (action : Action) : Prop :=
  s.engine.control.shuttingDown = false → commits s action = true →
    ∀ t k new, step s action = some t → t.engine.tables.envelopes.find k = some new →
      Spendable t.engine.tables new → ¬Undermines s action.event k

theorem undermined_ticked {session : Session}
    (hfind : s.engine.tables.envelopes.find k = some old)
    (hactive : Active (ticked s.engine.tables now (losesSession s.engine session) old))
    (huntrusted : ¬Trusted (ticked s.engine.tables now (losesSession s.engine session) old)) :
    (Active old ∧ ¬Trusted old) ∨ Undermines s (.tick now session) k := by
  cases hexpired : expired s.engine.tables now old with
  | true => exact .inr (.tickExpired hfind hexpired)
  | false =>
    unfold ticked rewritten at hactive huntrusted
    rw [if_neg (by rw [hexpired]; exact nofun)] at hactive huntrusted
    cases hreached : reached s.engine.tables now (losesSession s.engine session) old with
    | true =>
      rw [if_pos hreached] at hactive huntrusted
      obtain ⟨hflags, hstate⟩ := flags_maintained_of_active hactive
      exact .inl (untrusted_before hflags (active_of_state hstate) hactive huntrusted)
    | false =>
      rw [if_neg (by rw [hreached]; exact nofun)] at hactive huntrusted
      cases hloses : losesSession s.engine session with
      | false =>
        rw [if_neg (by rw [hloses]; exact nofun)] at hactive huntrusted
        exact .inl ⟨hactive, huntrusted⟩
      | true =>
        rw [if_pos hloses] at hactive huntrusted
        rw [hloses] at hreached
        cases hlost : sessionLostEnvelope old with
        | none =>
          rw [hlost] at hactive huntrusted
          exact .inl ⟨hactive, huntrusted⟩
        | some lost =>
          rw [hlost] at hactive
          obtain hholding | hold := holding_of_sessionLost hlost hactive
          · exact .inr (.tickLost hfind hholding hloses hreached)
          · exact .inl hold

theorem find_after_tick {session : Session} {io : Io}
    (hstep : step s ⟨.tick now session, io⟩ = some t) :
    t.engine.tables = s.engine.tables ∨ ∀ k, t.engine.tables.envelopes.find k =
      (s.engine.tables.envelopes.find k).map
        (ticked s.engine.tables now (losesSession s.engine session)) := by
  obtain ⟨decision, hsection, hturn⟩ := turn_of_step hstep
  cases hsection
  cases hturn with
  | quiet => exact .inl rfl
  | failed => exact .inl rfl
  | committed => exact .inr fun k ↦ tick_find s.engine s.engine.config now session k

theorem state_of_opened (h : Stages s event (.envelope .envelopeOpened new)) :
    new.state = .desired := by
  cases h with
  | opened => rfl

theorem undermined_step (hstep : step s action = some t)
    (hshutdown : ∀ now, action.event ≠ .shutdown now)
    (hfind : t.engine.tables.envelopes.find k = some new) (hactive : Active new)
    (huntrusted : ¬Trusted new) :
    (∃ old, s.engine.tables.envelopes.find k = some old ∧ Active old ∧ ¬Trusted old) ∨
      Undermines s action.event k := by
  by_cases htick : ∃ now session, action.event = .tick now session
  · obtain ⟨now, session, hevent⟩ := htick
    obtain ⟨event, io⟩ := action
    cases hevent
    obtain hsame | hticked := find_after_tick hstep
    · rw [hsame] at hfind
      exact .inl ⟨new, hfind, hactive, huntrusted⟩
    · rw [hticked] at hfind
      obtain ⟨old, hold, rfl⟩ := Option.map_eq_some_iff.1 hfind
      exact (undermined_ticked hold hactive huntrusted).imp_left fun h ↦ ⟨old, hold, h⟩
  · obtain hkept | ⟨type, hstages⟩ := envelope_step hstep hfind
    · exact .inl ⟨new, hkept, hactive, huntrusted⟩
    · have hopened : type ≠ .envelopeOpened := by
        rintro rfl
        exact not_active (state_of_opened hstages) nofun nofun hactive
      obtain ⟨htype, -⟩ | ⟨old, hold, -⟩ := binding_of_stages hstages
      · exact absurd htype hopened
      · have hundermined := undermined_of_stages hstages hopened
          (fun now session h ↦ htick ⟨now, session, h⟩) hshutdown hold hactive huntrusted
        rw [Registry.key_of_find hfind] at hundermined hold
        exact hundermined.imp_left fun h ↦ ⟨old, hold, h⟩

theorem vouched_step (h : Stopped s ∨ Vouched s) (hok : Underpinned s action)
    (hstep : step s action = some t) : Stopped t ∨ Vouched t := by
  obtain hstopped | hvouched := h
  · exact .inl (stopped_step hstopped hstep)
  · cases hrunning : s.engine.control.shuttingDown with
    | true => exact .inl (stopped_step hrunning hstep)
    | false =>
      by_cases hshutdown : ∃ now, action.event = .shutdown now
      · obtain ⟨now, hevent⟩ := hshutdown
        obtain ⟨event, io⟩ := action
        cases hevent
        exact .inl (Shutdown.stopped_of_shutdown hstep)
      · obtain hsame | hcommits := same_or_commits hstep
        · refine .inr fun k new hfind ↦ ?_
          rw [hsame] at hfind ⊢
          exact hvouched k new hfind
        · refine .inr fun k new hfind hactive hspendable ↦ ?_
          by_contra huntrusted
          have hsound := hok hrunning hcommits t k new hstep hfind hspendable
          obtain ⟨old, hold, hactive, huntrusted⟩ | hundermined :=
            undermined_step hstep (fun now h ↦ hshutdown ⟨now, h⟩) hfind hactive huntrusted
          · by_cases hbefore : Spendable s.engine.tables old
            · exact huntrusted (hvouched k old hold hactive hbefore)
            · exact hsound (.revived hold hactive huntrusted hbefore)
          · exact hsound hundermined

/-- Where a life begins with nothing to spend from: the engine is constructed, or the envelopes its
file shows as having an effect have no current authorities. -/
inductive Outset : System → Prop
  | fresh {s : System} (constructed : Fresh s) : Outset s
  | recovered {truncate config file demotedNs advancedNs io tailIo engine}
      (done : recoverEngineWith truncate config file demotedNs advancedNs io tailIo = .ok engine)
      (outdated : ∀ k old, (replayed config file).envelopes.find k = some old →
        old.state = .applied ∨ old.state = .dispatching ∨ old.state = .degraded →
          ¬Spendable engine.tables (handedOut config demotedNs advancedNs old)) :
      Outset { engine }

theorem state_demoted (old : RateEnvelope) (now : U64)
    (h : ((demotedEnvelope old now).getD old).state = .degraded) :
    old.state = .applied ∨ old.state = .dispatching ∨ old.state = .degraded := by
  unfold demotedEnvelope at h
  simp only at h
  split at h
  · exact .inr (.inr h)
  · simp only [Option.getD_some] at h
    split at h
    · next hactive =>
      simp only [Bool.or_eq_true, decide_eq_true_eq] at hactive
      exact hactive.imp_right .inl
    · exact .inr (.inr h)

theorem state_handedOut {config : EngineConfig} {demotedNs advancedNs : U64}
    (h : (handedOut config demotedNs advancedNs old).state = .degraded) :
    old.state = .applied ∨ old.state = .dispatching ∨ old.state = .degraded := by
  unfold handedOut at h
  simp only at h
  split at h
  · have hinactive := RestoredClaims.inactive_demoted old demotedNs
    refine state_demoted old demotedNs ?_
    cases hdemoted : epochDemoted advancedNs ((demotedEnvelope old demotedNs).getD old) with
    | none =>
      rw [hdemoted] at h
      exact h
    | some advanced =>
      rw [hdemoted] at h
      rw [← state_of_epochDemoted hdemoted hinactive.applied hinactive.dispatching]
      exact h
  · exact state_demoted old demotedNs h

theorem vouched_of_outset (h : Outset s) : Vouched s := by
  intro k envelope hfind hactive hspendable
  cases h with
  | fresh hfresh =>
    rw [no_envelope_of_fresh hfresh] at hfind
    cases hfind
  | @recovered truncate config file demotedNs advancedNs io tailIo engine hdone houtdated =>
    rw [(handover hdone).envelopes] at hfind
    obtain ⟨old, hold, rfl⟩ := Option.map_eq_some_iff.1 hfind
    have hinactive := RestoredClaims.inactive_handedOut config demotedNs advancedNs old
    have hdegraded := hactive.resolve_left hinactive.applied
    exact absurd hspendable (houtdated k old hold (state_handedOut hdegraded))

variable {id : RateEnvelopeId} {tokens left : U64} {io : Io}

theorem find_after_grant
    (h : ((consumeBurst s.engine id tokens now).perform s.engine io).2.1.1 = .ok left) :
    ∃ old, Balances.BurstGranted s id tokens now left old ∧
      ((consumeBurst s.engine id tokens now).perform s.engine io).1.tables.envelopes.find id.value =
        some { old with
          bucket := { (refillBucket old.bucket now).1 with tokens := left }, updatedNs := now } := by
  obtain ⟨status, hanswer, hcommitted⟩ :=
    Balances.perform_answer (consumeBurst s.engine id tokens now) s.engine io
  rw [hanswer] at h
  obtain ⟨hnone, old, hgranted⟩ := Balances.consumeBurst_ok h
  have htables := (hcommitted hnone (by rw [hgranted.records]; exact List.cons_ne_nil _ _)).2
  refine ⟨old, hgranted, ?_⟩
  rw [htables, hgranted.records, (installed_registries _ _).2.2.2.2.2.2, ← hgranted.remaining]
  simp only [Registry.putAll_cons, Registry.putAll_nil, envelope?, Registry.putSome,
    Registry.find_put]
  exact if_pos (Registry.key_of_find hgranted.found)

/-- In a life none of whose sections undermines an envelope, burst is spent only on a verified
effect. -/
theorem burst_on_verified_effect (houtset : Outset start)
    (hrun : Reaches step Underpinned start s)
    (h : ((consumeBurst s.engine id tokens now).perform s.engine io).2.1.1 = .ok left) :
    ∃ envelope after, s.engine.tables.envelopes.find id.value = some envelope ∧
      envelope.effectVerified = true ∧ envelope.requiresRevalidation = false ∧
      authorityStatus s.engine.tables envelope now = .none ∧
      tokens ≤ (refillBucket envelope.bucket now).1.tokens ∧
      left = (refillBucket envelope.bucket now).1.tokens - tokens ∧
      ((consumeBurst s.engine id tokens now).perform s.engine io).1.tables.envelopes.find id.value =
        some after ∧ after.bucket.tokens = left ∧
      after.effectVerified = true ∧ after.requiresRevalidation = false := by
  obtain ⟨envelope, hgranted, hafter⟩ := find_after_grant h
  have hvouched : Stopped s ∨ Vouched s := hrun.invariant (.inr (vouched_of_outset houtset))
    fun _ _ _ h hok hstep ↦ vouched_step h hok hstep
  obtain hstopped | hvouched := hvouched
  · rw [Stopped, hgranted.running] at hstopped
    cases hstopped
  · obtain ⟨hverified, htrusted⟩ := hvouched id.value envelope hgranted.found hgranted.active
      ⟨now, hgranted.current⟩
    exact ⟨envelope, _, hgranted.found, hverified, htrusted, hgranted.current, hgranted.covered,
      hgranted.remaining, hafter, rfl, hverified, htrusted⟩

def lostSample : List Action := applySample ++ [⟨.markSessionLost actor, []⟩]

def grantsThree (s : System) : Bool :=
  match ((consumeBurst s.engine ⟨1⟩ 3 7).perform s.engine []).2.1.1 with
  | .ok left => left = 7
  | .error _ => false

theorem granted_of_grantsThree (h : grantsThree s = true) :
    ((consumeBurst s.engine ⟨1⟩ 3 7).perform s.engine []).2.1.1 = .ok 7 := by
  unfold grantsThree at h
  split at h
  · next left hleft =>
    rw [hleft, of_decide_eq_true h]
  · cases h

/-- After the loss of its session the degraded envelope can still be spent from. -/
theorem burst_spent_unverified : ¬∀ (s : System) (id : RateEnvelopeId) (tokens now left : U64)
    (io : Io), Reachable s →
    ((consumeBurst s.engine id tokens now).perform s.engine io).2.1.1 = .ok left →
    ∃ envelope, s.engine.tables.envelopes.find id.value = some envelope ∧
      envelope.effectVerified = true ∧ envelope.requiresRevalidation = false := by
  intro h
  obtain ⟨s, envelope, hrun, hfind, hlost⟩ : ∃ s envelope,
      run step sampleStart lostSample = some s ∧
      s.engine.tables.envelopes.find 1 = some envelope ∧
      (grantsThree s && !envelope.effectVerified && envelope.requiresRevalidation) = true :=
    of_observe (by decide +kernel)
  simp only [Bool.and_eq_true, Bool.not_eq_true'] at hlost
  obtain ⟨envelope', hfind', hverified, -⟩ := h s ⟨1⟩ 3 7 7 []
    (reachable_of_run fresh_sampleStart hrun) (granted_of_grantsThree hlost.1.1)
  rw [hfind] at hfind'
  cases hfind'
  rw [hlost.1.2] at hverified
  cases hverified

/-- The section can undermine nothing: it is none of the sections that do, it concludes an
acknowledged apply or reads its effect back, and every active envelope is trusted. -/
def harmless (s : System) (action : Action) : Bool :=
  (match action.event with
  | .advanceEpoch .. | .markSessionLost .. | .tick .. | .abandonAttempt .. => false
  | .finish i => match s.calls[i]? with
    | some (.applyFinishing _ report _) => report.acknowledged
    | _ => true
  | .publish i _ => match s.calls[i]? with
    | some (.applyPublishing _ _ _ verification) =>
      verification.status = .confirmed && verification.observedPresent
    | some (.recording ..) => false
    | _ => true
  | _ => true) &&
  s.engine.tables.envelopes.entries.all fun envelope ↦ !decide (Active envelope) || Trusted envelope

theorem underpinned_of_harmless (s : System) (action : Action) (h : harmless s action = true) :
    Underpinned s action := by
  intro _ _ t k new _ _ _ hundermined
  unfold harmless at h
  generalize action.event = event at h hundermined
  obtain ⟨hevent, htrusted⟩ := Bool.and_eq_true_iff.1 h
  cases hundermined with
  | epochAdvanced | sessionLost | tickLost | tickExpired | abandoned => cases hevent
  | refused accepted hrefused =>
    simp only [accepted.call, hrefused, Bool.false_eq_true] at hevent
  | unconfirmed judged hsilent =>
    simp only [judged.call, Bool.and_eq_true, decide_eq_true_eq] at hevent
    have habsent := hsilent ⟨by rw [hevent.1]; exact nofun, by rw [hevent.1]; exact nofun⟩
    rw [hevent.2] at habsent
    cases habsent
  | unanswered revalidating | short revalidating =>
    simp only [revalidating.call, Bool.false_eq_true] at hevent
  | @revived _ _ old hfind hactive huntrusted =>
    have hall := List.all_eq_true.1 htrusted old
      (Registry.mem_entries.2 (by rw [Registry.key_of_find hfind]; exact hfind))
    simp only [hactive, huntrusted, decide_true, decide_false, Bool.not_true, Bool.or_self,
      Bool.false_eq_true] at hall

theorem burst_on_verified_applySample : ∃ s envelope, run step sampleStart applySample = some s ∧
    s.engine.tables.envelopes.find 1 = some envelope ∧ envelope.effectVerified = true ∧
    envelope.requiresRevalidation = false ∧
    3 ≤ (refillBucket envelope.bucket 7).1.tokens := by
  obtain ⟨s, envelope, hrun, -, hgrants⟩ : ∃ s envelope, run step sampleStart applySample = some s ∧
      s.engine.tables.envelopes.find 1 = some envelope ∧ grantsThree s = true :=
    of_observe (by decide +kernel)
  have hguarded : Guarded step (fun s action ↦ harmless s action = true) sampleStart applySample := by
    decide +kernel
  have hreaches := (reaches_of_run hguarded hrun).mono underpinned_of_harmless
  obtain ⟨envelope, -, hfind, hverified, htrusted, -, hcovered, -⟩ :=
    burst_on_verified_effect (.fresh fresh_sampleStart) hreaches (granted_of_grantsThree hgrants)
  exact ⟨s, envelope, hrun, hfind, hverified, htrusted, hcovered⟩

end Runs

end RateGovernor.Safety.VerifiedBurst
