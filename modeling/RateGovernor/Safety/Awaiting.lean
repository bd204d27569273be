import RateGovernor.Dynamics.Waiting
import RateGovernor.Dynamics.Filing
import RateGovernor.Safety.OneInFlight
import RateGovernor.Safety.RestoredClaims

namespace RateGovernor.Safety.Awaiting

open Model.CheckedMath Model.Identity Model.Reason Model.Entities Model.Envelope Model.EngineState
open Model.Durability Model.Authority Model.Calls Model.Lifecycle Model.Completion Model.Revocation
open Model.Maintenance Model.Execution Model.Recovery Foundation.KeyedTable Foundation.GuardedRun
open Dynamics.Install Dynamics.Sections Dynamics.Staging Dynamics.Turns Dynamics.Evolution
open Dynamics.Bindings Dynamics.Issue Dynamics.Attempts Dynamics.Filing Dynamics.Demotion
open Dynamics.Waiting Dynamics.Start OneInFlight

variable {s t start : System} {action : Action} {event : Event} {decision : Section}
  {tables : Tables} {config : EngineConfig} {records : List Staged} {k : U64}
  {a : EnforcementAttempt} {envelope : RateEnvelope}

/-- An apply of the envelope is Created, Dispatched or Acknowledged. -/
def HasApply (tables : Tables) (id : RateEnvelopeId) : Prop :=
  ∃ k a, tables.attempts.find k = some a ∧ a.kind = .apply ∧ a.envelope = id ∧
    attemptInflight a.state = true

def Awaits (tables : Tables) : Prop :=
  ∀ k envelope, tables.envelopes.find k = some envelope → envelope.state = .dispatching →
    HasApply tables envelope.id

section Guard

def awaited (tables : Tables) (k : U64) : Bool :=
  (tables.attempts.find k).any fun a ↦ a.kind = .apply && attemptInflight a.state &&
    (tables.envelopes.find a.envelope.value).any (·.state = .dispatching)

theorem awaited_iff : awaited tables k = true ↔ ∃ a envelope,
    tables.attempts.find k = some a ∧ a.kind = .apply ∧ attemptInflight a.state = true ∧
      tables.envelopes.find a.envelope.value = some envelope ∧ envelope.state = .dispatching := by
  unfold awaited
  simp only [Option.any_eq_true, Bool.and_eq_true, decide_eq_true_eq]
  constructor
  · rintro ⟨a, hfind, ⟨hkind, hlive⟩, envelope, hstored, hstate⟩
    exact ⟨a, envelope, hfind, hkind, hlive, hstored, hstate⟩
  · rintro ⟨a, envelope, hfind, hkind, hlive, hstored, hstate⟩
    exact ⟨a, hfind, ⟨hkind, hlive⟩, envelope, hstored, hstate⟩

/-- `finish_apply` rejects a completion that reports no effect, or its task is not the one of the
attempt. -/
def dropsCompletion (engine : Engine) (task : ApplyTask) (report : CompletionReport) (now : U64) :
    Bool :=
  match engine.tables.attempts.find task.attempt.value,
      engine.tables.envelopes.find task.envelope.value with
  | some attempt, some envelope =>
    attempt.envelope ≠ task.envelope ||
      (!report.acknowledged && (fencingBoot attempt report ||
        fencingEpoch engine.tables.epoch attempt report ||
        authorityStatus engine.tables envelope now ≠ .none))
  | _, _ => false

/-- The last phase of `finish_apply` rejects a readback that shows no effect, or its task is not
the one of the attempt. -/
def dropsReadback (engine : Engine) (task : ApplyTask) (now : U64)
    (verification : VerificationOutcome) : Bool :=
  match engine.tables.attempts.find task.attempt.value,
      engine.tables.envelopes.find task.envelope.value with
  | some attempt, some envelope =>
    attempt.envelope ≠ task.envelope ||
      (!verification.observedPresent && (attempt.state ≠ .acknowledged ||
        authorityStatus engine.tables envelope now ≠ .none ||
        attempt.fingerprint.epoch ≠ engine.tables.epoch))
  | _, _ => false

def retains (attempts : Registry EnforcementAttempt (·.id.value)) (a : EnforcementAttempt) : Bool :=
  (attempts.find a.id.value).any fun b ↦
    b.kind = a.kind && b.envelope = a.envelope && b.state = a.state

/-- `retain_attempt_locked` evicts or overwrites an apply that is waited for, or evicts the new
one. -/
def forgets (engine : Engine) : Staged → Bool
  | .created attempt =>
    let attempts := (engine.tables.retainAttempt engine.config attempt).attempts
    (attempt.kind = .apply && !retains attempts attempt) ||
      engine.tables.attempts.entries.any fun a ↦
        awaited engine.tables a.id.value && !retains attempts a
  | _ => false

def strands (s : System) : Event → Bool
  | .cancelAttempt id _ actor _ =>
    (checkActor s.engine actor).isNone && awaited s.engine.tables id.value
  | .finish i => match s.calls[i]? with
    | some (.applyFinishing task report now) =>
      awaited s.engine.tables task.attempt.value && dropsCompletion s.engine task report now
    | _ => false
  | .publish i _ => match s.calls[i]? with
    | some (.applyPublishing task now _ verification) =>
      awaited s.engine.tables task.attempt.value && dropsReadback s.engine task now verification
    | some (.revokePublishing task _ _ _ _) => awaited s.engine.tables task.attempt.value
    | _ => false
  | .apply id actor now session =>
    (apply s.engine id actor now session).records.any (forgets s.engine)
  | .revoke id reason actor now session =>
    (revoke s.engine id reason actor now session).records.any (forgets s.engine)
  | _ => false

end Guard

section Records

theorem awaits_installed (h : Awaits tables)
    (hnew : ∀ record ∈ records, ∀ attempt, record ≠ .created attempt)
    (hmoves : ∀ type a, .attempt type a ∈ records →
      ∃ old, tables.attempts.find a.id.value = some old ∧ Moves old a)
    (hstates : ∀ k v, (installed config tables records).envelopes.find k = some v →
      v.state = .dispatching →
        ∃ old, tables.envelopes.find k = some old ∧ old.state = .dispatching)
    (hends : ∀ type a, .attempt type a ∈ records → awaited tables a.id.value = true →
      attemptInflight a.state = true ∨ Released config tables records a) :
    Awaits (installed config tables records) := by
  intro k v hfind hstate
  obtain ⟨old, hold, holdState⟩ := hstates k v hfind hstate
  have hid : v.id = old.id := by
    have hk := Registry.key_of_find hfind
    have hk' := Registry.key_of_find hold
    exact StrongId.eq_of_value (hk.trans hk'.symm)
  obtain ⟨n, a, ha, hkind, henvelope, hlive⟩ := h k old hold holdState
  obtain ⟨a', ha', rfl | ⟨record, hmem, hrecord⟩⟩ :=
    Registry.find_putAll_of_find (f := attempt?) ha records
  · refine ⟨n, a', ?_, hkind, henvelope.trans hid.symm, hlive⟩
    rw [installed_attempts_putAll _ _ hnew]
    exact ha'
  · cases record with
    | created attempt => exact absurd rfl (hnew _ hmem attempt)
    | attempt type value =>
      cases hrecord
      have hn := Registry.key_of_find ha'
      obtain ⟨before, hbefore, hmoved⟩ := hmoves type a' hmem
      rw [hn, ha] at hbefore
      cases hbefore
      have hkind' : a'.kind = a.kind := congrArg AttemptIdentity.kind hmoved.same
      have henvelope' : a'.envelope = a.envelope := congrArg AttemptIdentity.envelope hmoved.same
      have hawaited : awaited tables a'.id.value = true := by
        have hk := Registry.key_of_find hold
        rw [hn]
        exact awaited_iff.2 ⟨a, old, ha, hkind, hlive, by rw [henvelope, hk]; exact hold, holdState⟩
      obtain hlive' | hreleased := hends type a' hmem hawaited
      · refine ⟨n, a', ?_, hkind'.trans hkind, ?_, hlive'⟩
        · rw [installed_attempts_putAll _ _ hnew]
          exact ha'
        · rw [henvelope', henvelope, hid]
      · refine absurd hstate (hreleased v ?_)
        have hk := Registry.key_of_find hold
        rw [henvelope', henvelope, hk]
        exact hfind
    | _ => cases hrecord

end Records

section Ends

variable {type : Model.Journal.JournalRecordType}

theorem stored_of_awaited {old : EnforcementAttempt} (h : awaited tables k = true)
    (hfind : tables.attempts.find k = some old) : old.kind = .apply ∧
      attemptInflight old.state = true ∧ ∃ envelope,
        tables.envelopes.find old.envelope.value = some envelope ∧
          envelope.state = .dispatching := by
  obtain ⟨a, envelope, ha, hkind, hlive, hstored, hstate⟩ := awaited_iff.1 h
  rw [hfind] at ha
  cases ha
  exact ⟨hkind, hlive, envelope, hstored, hstate⟩

theorem released_acceptApply {engine : Engine} {task : ApplyTask} {attempt : EnforcementAttempt}
    {report : CompletionReport} {now : U64} (hid : envelope.id = attempt.envelope)
    (hmem : .attempt type a ∈ (acceptApply engine task envelope attempt report now).records) :
    attemptInflight a.state = true ∨
      Released config tables (acceptApply engine task envelope attempt report now).records a := by
  unfold acceptApply at hmem ⊢
  simp only at hmem ⊢
  split at hmem
  · cases List.mem_singleton.1 hmem
    exact .inl rfl
  · next hanswered =>
    split at hmem
    · next hrefused =>
      rw [if_neg hanswered, if_pos hrefused]
      obtain hmem | hmem := List.mem_cons.1 hmem
      · cases hmem
        exact .inr (released_of_last hid nofun)
      · cases List.mem_singleton.1 hmem
    · cases List.mem_singleton.1 hmem
      exact .inl rfl

theorem released_rejectLate {engine : Engine} {attempt : EnforcementAttempt} {reason : ReasonCode}
    {detail : Text} {now : U64} (hid : envelope.id = attempt.envelope)
    (hmem : .attempt type a ∈
      (rejectLate engine envelope attempt reason true detail now).records) :
    Released config tables (rejectLate engine envelope attempt reason true detail now).records
      a := by
  obtain hmem | hmem := List.mem_cons.1 hmem
  · cases hmem
    refine released_of_last ?_ fun hstate ↦ ?_
    · exact (congrArg Binding.id (binding_lateEnvelope _ _ _ _)).trans hid
    · cases (dispatching_of_lateEnvelope hstate).1
  · cases List.mem_singleton.1 hmem

theorem id_of_task {task : ApplyTask} {attempt : EnforcementAttempt}
    (hstored : tables.envelopes.find task.envelope.value = some envelope)
    (htask : attempt.envelope = task.envelope) : envelope.id = attempt.envelope := by
  have hk := Registry.key_of_find hstored
  rw [htask]
  exact StrongId.eq_of_value hk

theorem number_of_finishApply {i : ℕ} {task : ApplyTask} {report : CompletionReport} {now : U64}
    (hcall : s.calls[i]? = some (.applyFinishing task report now))
    (hmem : .attempt type a ∈ (finishApply s.engine task report now).records) :
    a.id.value = task.attempt.value := by
  have number {task' report' now' attempt envelope}
      (finishing : ApplyFinishing s i task' report' now' attempt envelope) :
      attempt.id.value = task.attempt.value := by
    have hsame := finishing.call
    rw [hcall] at hsame
    cases hsame
    have hk := Registry.key_of_find finishing.storedAttempt
    exact hk
  have other {task' report' now' attempt envelope} {P : Prop}
      (finishing : RevokeFinishing s i task' report' now' attempt envelope) : P := by
    have hsame := finishing.call
    rw [hcall] at hsame
    cases hsame
  cases stages_finishApply hcall hmem with
  | lateFinishAttempt finishing =>
    have hnumber := number finishing
    exact hnumber
  | dispatchedAttempt accepted =>
    have hnumber := number accepted.toApplyFinishing
    exact hnumber
  | refusedApplyAttempt accepted =>
    have hnumber := number accepted.toApplyFinishing
    exact hnumber
  | acknowledgedApply accepted =>
    have hnumber := number accepted.toApplyFinishing
    exact hnumber
  | lateFinishRevoke finishing => exact other finishing
  | refusedRevokeAttempt finishing => exact other finishing
  | acknowledgedRevoke finishing => exact other finishing

theorem released_finishApply {i : ℕ} {task : ApplyTask} {report : CompletionReport} {now : U64}
    (hcall : s.calls[i]? = some (.applyFinishing task report now))
    (hkept : awaited s.engine.tables task.attempt.value = true →
      dropsCompletion s.engine task report now = false)
    (hmem : .attempt type a ∈ (finishApply s.engine task report now).records)
    (hawaited : awaited s.engine.tables a.id.value = true) :
    attemptInflight a.state = true ∨
      Released config s.engine.tables (finishApply s.engine task report now).records a := by
  obtain hnone | ⟨attempt, envelope, finishing, h⟩ := finishApply_cases hcall
  · exact absurd hmem hnone.not_mem
  · rw [number_of_finishApply hcall hmem] at hawaited
    have hkept := hkept hawaited
    unfold dropsCompletion at hkept
    rw [finishing.storedAttempt, finishing.storedEnvelope] at hkept
    simp only [Bool.or_eq_false_iff, decide_eq_false_iff_not, ne_eq, Decidable.not_not] at hkept
    obtain ⟨htask, hkept⟩ := hkept
    have hid := id_of_task finishing.storedEnvelope htask
    cases hreport : report.acknowledged with
    | false =>
      rw [hreport] at hkept
      simp only [Bool.not_false, Bool.true_and, Bool.or_eq_false_iff, decide_eq_false_iff_not,
        Decidable.not_not] at hkept
      obtain ⟨hkind, hlive, -⟩ := stored_of_awaited hawaited finishing.storedAttempt
      rw [finishApply_accepted finishing.storedAttempt finishing.storedEnvelope hkind hlive
        hkept.1.1 hkept.1.2 hkept.2] at hmem ⊢
      exact released_acceptApply hid hmem
    | true =>
      obtain ⟨reason, detail, heq⟩ | ⟨accepted, heq⟩ := h
      · rw [heq, hreport] at hmem ⊢
        exact .inr (released_rejectLate hid hmem)
      · rw [heq] at hmem ⊢
        exact released_acceptApply hid hmem

theorem released_publishApply {task : ApplyTask} {now : U64} {verification : VerificationOutcome}
    (hkept : awaited s.engine.tables task.attempt.value = true →
      dropsReadback s.engine task now verification = false)
    (hmem : .attempt type a ∈ (publishApply s.engine task now verification).records)
    (hawaited : awaited s.engine.tables a.id.value = true) :
    Released config s.engine.tables (publishApply s.engine task now verification).records a := by
  unfold publishApply at hmem ⊢
  unfold dropsReadback at hkept
  cases hattempt : s.engine.tables.attempts.find task.attempt.value with
  | none =>
    rw [hattempt] at hmem
    cases hmem
  | some attempt =>
    cases henvelope : s.engine.tables.envelopes.find task.envelope.value with
    | none =>
      rw [hattempt, henvelope] at hmem
      cases hmem
    | some envelope =>
      have hnumber := Registry.key_of_find hattempt
      simp only [hattempt, henvelope] at hmem hkept ⊢
      have hopen (hsame : a.id = attempt.id) : attempt.envelope = task.envelope ∧
          (verification.observedPresent = true ∨ attempt.state = .acknowledged ∧
            authorityStatus s.engine.tables envelope now = .none ∧
            attempt.fingerprint.epoch = s.engine.tables.epoch) := by
        rw [hsame, hnumber] at hawaited
        have hkept := hkept hawaited
        simp only [Bool.or_eq_false_iff, decide_eq_false_iff_not, ne_eq, Decidable.not_not,
          Bool.and_eq_false_iff, Bool.not_eq_false'] at hkept
        obtain ⟨htask, hpresent | ⟨⟨hstate, hcurrent⟩, hepoch⟩⟩ := hkept
        · exact ⟨htask, .inl hpresent⟩
        · exact ⟨htask, .inr ⟨hstate, hcurrent, hepoch⟩⟩
      have late {reason : ReasonCode} {detail : Text}
          (hfenced : ¬ (attempt.state = .acknowledged ∧
            authorityStatus s.engine.tables envelope now = .none ∧
            attempt.fingerprint.epoch = s.engine.tables.epoch))
          (hmem : .attempt type a ∈ (rejectLate s.engine envelope attempt reason
            verification.observedPresent detail now).records) :
          Released config s.engine.tables (rejectLate s.engine envelope attempt reason
            verification.observedPresent detail now).records a := by
        have hsame : a.id = attempt.id := by
          obtain hmem | hmem := List.mem_cons.1 hmem
          · cases hmem
            rfl
          · cases List.mem_singleton.1 hmem
        obtain ⟨htask, hpresent | hcurrent⟩ := hopen hsame
        · rw [hpresent] at hmem ⊢
          exact released_rejectLate (id_of_task henvelope htask) hmem
        · exact absurd hcurrent hfenced
      split at hmem
      · next hstate =>
        rw [if_pos hstate]
        exact late (fun h ↦ hstate h.1) hmem
      · next hstate =>
        split at hmem
        · next hstale =>
          rw [if_neg hstate, if_pos hstale]
          refine late (fun h ↦ ?_) hmem
          simp only [h.2.1, h.2.2, ne_eq, not_true, decide_false, Bool.or_self,
            Bool.false_eq_true] at hstale
        · next hcurrent =>
          rw [if_neg hstate, if_neg hcurrent]
          obtain hmem | hmem := List.mem_cons.1 hmem
          · cases hmem
            have hsame : (withDetail (judgeApply s.engine envelope attempt task.request
                verification now).attempt verification.detail).id = attempt.id :=
              congrArg AttemptIdentity.id (judgeApply_attempt).1
            have henvelope' : (withDetail (judgeApply s.engine envelope attempt task.request
                verification now).attempt verification.detail).envelope = attempt.envelope :=
              congrArg AttemptIdentity.envelope (judgeApply_attempt).1
            refine released_of_last ?_ (not_dispatching_judgeApply _ _ _ _ _ _)
            rw [henvelope', ← id_of_task henvelope (hopen hsame).1]
            exact congrArg Binding.id (binding_judgeApply _ _ _ _ _ _)
          · cases List.mem_singleton.1 hmem

theorem released_abandonAttempt {id : EnforcementAttemptId} {reason : ReasonCode}
    {actor : ActorContext} {now : U64}
    (hmem : .attempt type a ∈ (abandonAttempt s.engine id reason actor now).records) :
    Released config s.engine.tables (abandonAttempt s.engine id reason actor now).records a := by
  unfold abandonAttempt at hmem ⊢
  simp only at hmem ⊢
  split at hmem
  · cases hmem
  · split at hmem
    · cases hmem
    · split at hmem
      · cases hmem
      · next hlive =>
        split at hmem
        · cases hmem
        · next envelope henvelope =>
          rw [if_neg hlive]
          obtain hmem | hmem := List.mem_cons.1 hmem
          · cases hmem
            have hk := Registry.key_of_find henvelope
            exact released_of_last (StrongId.eq_of_value hk) nofun
          · cases List.mem_singleton.1 hmem

theorem awaits_cancelled {id : EnforcementAttemptId} {reason : ReasonCode} {actor : ActorContext}
    {now : U64} (hok : strands s (.cancelAttempt id reason actor now) = false)
    (hmem : .attempt type a ∈ (cancelAttempt s.engine id reason actor now).records) :
    awaited s.engine.tables a.id.value = false := by
  unfold cancelAttempt at hmem
  simp only at hmem
  split at hmem
  · cases hmem
  · next hactor =>
    split at hmem
    · cases hmem
    · next found hfound =>
      split at hmem
      · cases hmem
      · cases List.mem_singleton.1 hmem
        have hk := Registry.key_of_find hfound
        simp only [strands, hactor, Option.isNone_none, Bool.true_and] at hok
        show awaited s.engine.tables found.id.value = false
        rw [hk]
        exact hok

theorem revoke_of_finishRevoke {i : ℕ} {task : RevokeTask} {report : CompletionReport} {now : U64}
    (hcall : s.calls[i]? = some (.revokeFinishing task report now))
    (hmem : .attempt type a ∈ (finishRevoke s.engine task report now).records) :
    a.kind = .revoke := by
  have other {task' report' now' attempt envelope} {P : Prop}
      (finishing : ApplyFinishing s i task' report' now' attempt envelope) : P := by
    have hsame := finishing.call
    rw [hcall] at hsame
    cases hsame
  cases stages_finishRevoke hcall hmem with
  | lateFinishRevoke finishing => exact finishing.kind
  | refusedRevokeAttempt finishing => exact finishing.kind
  | acknowledgedRevoke finishing => exact finishing.kind
  | lateFinishAttempt finishing => exact other finishing
  | dispatchedAttempt accepted => exact other accepted.toApplyFinishing
  | refusedApplyAttempt accepted => exact other accepted.toApplyFinishing
  | acknowledgedApply accepted => exact other accepted.toApplyFinishing

theorem number_of_publishRevoke {task : RevokeTask} {now : U64}
    {verification : VerificationOutcome} {seen : EnvelopeState}
    (hmem : .attempt type a ∈ (publishRevoke s.engine task now verification seen).records) :
    a.id.value = task.attempt.value := by
  unfold publishRevoke at hmem
  simp only at hmem
  split at hmem
  · next attempt envelope hattempt henvelope =>
    have hk := Registry.key_of_find hattempt
    split at hmem
    · cases List.mem_singleton.1 hmem
      exact hk
    · obtain hmem | hmem := List.mem_cons.1 hmem
      · cases hmem
        rw [← hk]
        exact congrArg (fun i ↦ i.id.value) (@judgedRevoke_attempt attempt verification now).1
      · cases List.mem_singleton.1 hmem
  · cases hmem

theorem not_mem_revalidateRecord {sweep : Sweep} {probe : Probe}
    {verification : VerificationOutcome} {now clock : U64} :
    .attempt type a ∉ (revalidateRecord s.engine sweep probe verification now clock).records := by
  intro hmem
  unfold revalidateRecord at hmem
  simp only at hmem
  split at hmem
  · cases hmem
  · split at hmem
    · cases hmem
    · cases List.mem_singleton.1 hmem

/-- A step that strands no envelope leaves an apply in flight or releases its envelope. -/
theorem released_of_sectionOf (hsection : sectionOf s event = some decision)
    (hok : strands s event = false) (hmem : .attempt type a ∈ decision.records)
    (hawaited : awaited s.engine.tables a.id.value = true) :
    attemptInflight a.state = true ∨ Released config s.engine.tables decision.records a := by
  have hstages := stages_of_sectionOf hsection hmem
  obtain ⟨old, hold, hmoves⟩ := moves_of_stages hstages
  obtain ⟨hkind, -, envelope, hstored, -⟩ := stored_of_awaited hawaited hold
  have hstored : ∃ envelope,
      s.engine.tables.envelopes.find a.envelope.value = some envelope := by
    rw [show a.envelope = old.envelope from congrArg AttemptIdentity.envelope hmoves.same]
    exact ⟨envelope, hstored⟩
  have hkind : a.kind = .apply := (congrArg AttemptIdentity.kind hmoves.same).trans hkind
  cases event with
  | finish i =>
    obtain ⟨call, hcall, hsection⟩ := Option.bind_eq_some_iff.1 hsection
    cases call <;> cases hsection
    · refine released_finishApply hcall (fun h ↦ ?_) hmem hawaited
      simp only [strands, hcall, h, Bool.true_and] at hok
      exact hok
    · cases hkind.symm.trans (revoke_of_finishRevoke hcall hmem)
  | publish i clock =>
    obtain ⟨call, hcall, hsection⟩ := Option.bind_eq_some_iff.1 hsection
    cases call <;> cases hsection
    · refine .inr (released_publishApply (fun h ↦ ?_) hmem hawaited)
      simp only [strands, hcall, h, Bool.true_and] at hok
      exact hok
    · rw [number_of_publishRevoke hmem] at hawaited
      simp only [strands, hcall, hawaited, Bool.true_eq_false] at hok
    · exact absurd hmem not_mem_revalidateRecord
  | cancelAttempt id reason actor now =>
    cases hsection
    rw [awaits_cancelled hok hmem] at hawaited
    cases hawaited
  | abandonAttempt id reason actor now =>
    cases hsection
    exact .inr (released_abandonAttempt hmem)
  | tick now session =>
    cases hsection
    exact .inr (released_tick hmem hstored)
  | shutdown now =>
    cases hsection
    exact .inr (released_shutdown hmem hstored)
  | _ => cases hstages

end Ends

section Forgetting

theorem evictTerminal_envelopes (limit : U64) (fuel : ℕ) (tables : Tables) (list : List U64)
    (envelopes : Registry RateEnvelope (·.id.value)) :
    evictTerminal limit fuel { tables with envelopes } list =
      ({ (evictTerminal limit fuel tables list).1 with envelopes },
        (evictTerminal limit fuel tables list).2) := by
  induction fuel generalizing tables list with
  | zero => rfl
  | succ fuel ih =>
    have hterminal : ({ tables with envelopes } : Tables).terminalAt = tables.terminalAt := rfl
    unfold evictTerminal
    rw [hterminal]
    split
    · rfl
    · split
      · rfl
      · next victim _ =>
        exact ih { tables with
          attempts := tables.attempts.remove victim
          attemptOrder := tables.attemptOrder.filter (· ≠ victim) } (list.erase victim)

theorem retainAttempt_envelopes (config : EngineConfig) (tables : Tables)
    (attempt : EnforcementAttempt) (envelopes : Registry RateEnvelope (·.id.value)) :
    (({ tables with envelopes } : Tables).retainAttempt config attempt).attempts =
      (tables.retainAttempt config attempt).attempts := by
  have h := evictTerminal_envelopes config.maxAttemptsPerEnvelope (tables.enlisted attempt).length
    (tables.enlist attempt) (tables.enlisted attempt) envelopes
  unfold Tables.retainAttempt
  show (evictOldest _ { (evictTerminal _ _ { tables.enlist attempt with envelopes } _).1 with
    attemptsByEnvelope := _ }).attempts = _
  rw [show ({ tables with envelopes } : Tables).enlisted attempt = tables.enlisted attempt from rfl,
    h]
  rfl

theorem installed_created {before after : List Staged} {attempt : EnforcementAttempt}
    (haround : ∀ record ∈ before ++ after, ∃ type envelope, record = .envelope type envelope) :
    (installed config tables (before ++ .created attempt :: after)).attempts =
      (tables.retainAttempt config attempt).attempts := by
  obtain ⟨envelopes, hbefore⟩ := @installed_of_envelopes config before tables
    fun record hmem ↦ haround record (List.mem_append_left _ hmem)
  obtain ⟨envelopes', hafter⟩ := @installed_of_envelopes config after
    (({ tables with envelopes } : Tables).retainAttempt config attempt)
    fun record hmem ↦ haround record (List.mem_append_right _ hmem)
  have htables : installed config tables (before ++ .created attempt :: after) =
      installed config (({ tables with envelopes } : Tables).retainAttempt config attempt) after := by
    rw [← hbefore]
    unfold installed
    rw [List.foldl_append]
    rfl
  rw [htables, hafter]
  exact retainAttempt_envelopes config tables attempt envelopes

theorem forgets_of_strands {attempt : EnforcementAttempt}
    (hsection : sectionOf s event = some decision) (hok : strands s event = false)
    (hmem : .created attempt ∈ decision.records) : forgets s.engine (.created attempt) = false := by
  have hstages := stages_of_sectionOf hsection hmem
  have spared {records : List Staged} (hmem : .created attempt ∈ records)
      (hok : records.any (forgets s.engine) = false) :
      forgets s.engine (.created attempt) = false := by
    have hnone := List.any_eq_false.1 hok _ hmem
    exact Bool.eq_false_iff.2 hnone
  cases event with
  | apply id actor now session =>
    cases hsection
    exact spared hmem hok
  | revoke id reason actor now session =>
    cases hsection
    exact spared hmem hok
  | _ => cases hstages

theorem hasApply_of_retains {tables' : Tables} (h : retains tables'.attempts a = true)
    (hkind : a.kind = .apply) (hlive : attemptInflight a.state = true) :
    HasApply tables' a.envelope := by
  obtain ⟨b, hfind, hb⟩ := (Option.any_eq_true _ _).1 h
  simp only [Bool.and_eq_true, decide_eq_true_eq] at hb
  exact ⟨_, b, hfind, hb.1.1.trans hkind, hb.1.2, by rw [hb.2]; exact hlive⟩

/-- A section that forgets no apply keeps those that are waited for, and the new one. -/
theorem kept_of_forgets {attempt : EnforcementAttempt}
    {attempts : Registry EnforcementAttempt (·.id.value)}
    (hattempts : attempts = (s.engine.tables.retainAttempt s.engine.config attempt).attempts)
    (hok : forgets s.engine (.created attempt) = false) :
    (attempt.kind = .apply → retains attempts attempt = true) ∧
      ∀ k a, s.engine.tables.attempts.find k = some a → awaited s.engine.tables k = true →
        retains attempts a = true := by
  unfold forgets at hok
  simp only [Bool.or_eq_false_iff, Bool.and_eq_false_iff, decide_eq_false_iff_not,
    Bool.not_eq_false', ← hattempts] at hok
  obtain ⟨hnew, hold⟩ := hok
  refine ⟨fun hkind ↦ hnew.resolve_left fun h ↦ h hkind, ?_⟩
  intro k a hfind hawaited
  have hspared := List.any_eq_false.1 hold a (Registry.mem_entries_of_find hfind)
  have hk := Registry.key_of_find hfind
  simp only [hk, hawaited, Bool.true_and, Bool.not_eq_true', Bool.not_eq_false] at hspared
  exact hspared

end Forgetting

section Runs

variable {start : System} {incident : Incident}

theorem dispatching_installed (hsection : sectionOf s event = some decision)
    {v : RateEnvelope} (hfind : (installed config s.engine.tables decision.records).envelopes.find k =
      some v) (hstate : v.state = .dispatching) :
    (∃ old, s.engine.tables.envelopes.find k = some old ∧ old.state = .dispatching) ∨
      ∃ attempt, .created attempt ∈ decision.records ∧ attempt.kind = .apply ∧
        attempt.envelope = v.id := by
  have hk := Registry.key_of_find hfind
  rw [(installed_registries _ _).2.2.2.2.2.2] at hfind
  obtain ⟨record, hmem, hrecord⟩ | hold := Registry.find_putAll hfind
  · cases record with
    | envelope type value =>
      cases hrecord
      obtain hold | ⟨id, actor, now, session, envelope, backend, rfl, admitted, hid, hplan⟩ :=
        dispatching_of_stages (stages_of_sectionOf hsection hmem) hstate
      · rw [hk] at hold
        exact .inl hold
      · cases hsection
        obtain hnone | ⟨envelope', backend', admitted', heq⟩ :=
          apply_cases s id actor now session
        · exact absurd hmem hnone.not_mem
        · have hsame := admitted'.found
          rw [admitted.found] at hsame
          cases hsame
          refine .inr ⟨applyAttempt s.engine (plannedEnvelope envelope (planNow s envelope now))
            session.boot now, ?_, rfl, ?_⟩
          · show _ ∈ (apply s.engine id actor now session).records
            rw [heq]
            simp only [dispatchApply, hplan, Bool.not_true, Bool.false_eq_true, if_false, publish]
            exact List.mem_append_right _ List.mem_cons_self
          · have hbinding := binding_plannedEnvelope envelope (planNow s envelope now)
            exact (congrArg Binding.id hbinding).trans hid.symm
    | _ => cases hrecord
  · exact .inl ⟨v, hold, hstate⟩

theorem created_of_split {before after : List Staged} {attempt attempt' : EnforcementAttempt}
    (hsplit : records = before ++ .created attempt :: after)
    (haround : ∀ record ∈ before ++ after, ∃ type envelope, record = .envelope type envelope)
    (hmem : .created attempt' ∈ records) : attempt' = attempt := by
  rw [hsplit] at hmem
  obtain hmem | hmem := List.mem_append.1 hmem
  · obtain ⟨_, _, hfalse⟩ := haround _ (List.mem_append_left _ hmem)
    cases hfalse
  · obtain hmem | hmem := List.mem_cons.1 hmem
    · cases hmem
      rfl
    · obtain ⟨_, _, hfalse⟩ := haround _ (List.mem_append_right _ hmem)
      cases hfalse

theorem awaits_step (h : Awaits s.engine.tables)
    (hok : commits s action = true → strands s action.event = false)
    (hstep : step s action = some t) : Awaits t.engine.tables := by
  obtain ⟨decision, hsection, hturn⟩ := turn_of_step hstep
  cases hturn with
  | quiet => exact h
  | failed => exact h
  | committed hrecords hstatus =>
    have hok := hok (commits_of_committed hsection hrecords hstatus)
    cases files_of_issues (issues_of_sectionOf hsection) with
    | nothing hnone =>
      refine awaits_installed h hnone
        (fun type a hmem ↦ moves_of_stages (stages_of_sectionOf hsection hmem)) ?_
        fun type a hmem hawaited ↦ released_of_sectionOf hsection hok hmem hawaited
      intro k v hfind hstate
      obtain hold | ⟨attempt, hmem, -⟩ := dispatching_installed hsection hfind hstate
      · exact hold
      · exact absurd rfl (hnone _ hmem attempt)
    | @attempt before after attempt hsplit haround =>
      have hmem : .created attempt ∈ decision.records := by
        rw [hsplit]
        exact List.mem_append_right _ List.mem_cons_self
      have hstored : (installed s.engine.config s.engine.tables decision.records).attempts =
          (s.engine.tables.retainAttempt s.engine.config attempt).attempts := by
        rw [hsplit]
        exact installed_created haround
      obtain ⟨hnew, hkept⟩ := kept_of_forgets hstored (forgets_of_strands hsection hok hmem)
      have hstate := (creates_of_stages (stages_of_sectionOf hsection hmem)).choose_spec.state
      intro k v hfind hdispatching
      obtain ⟨old, hold, holdState⟩ | ⟨attempt', hmem', hkind, henvelope⟩ :=
        dispatching_installed hsection hfind hdispatching
      · have hid : v.id = old.id := by
          have hk := Registry.key_of_find hfind
          have hk' := Registry.key_of_find hold
          exact StrongId.eq_of_value (hk.trans hk'.symm)
        obtain ⟨n, a, ha, hkind, henvelope, hlive⟩ := h k old hold holdState
        have hawaited : awaited s.engine.tables n = true := by
          have hk := Registry.key_of_find hold
          refine awaited_iff.2 ⟨a, old, ha, hkind, hlive, ?_, holdState⟩
          rw [henvelope, hk]
          exact hold
        rw [hid, ← henvelope]
        exact hasApply_of_retains (hkept n a ha hawaited) hkind hlive
      · have hsame : attempt' = attempt := created_of_split hsplit haround hmem'
        rw [hsame] at hkind henvelope
        rw [← henvelope]
        exact hasApply_of_retains (hnew hkind) hkind (by rw [hstate]; rfl)

/-- The guard of a life: no step that commits strands an envelope. -/
def KeepsAwaited (s : System) : Incident → Prop
  | .act action => commits s action = true → strands s action.event = false
  | .crash _ => True

instance (s : System) : (incident : Incident) → Decidable (KeepsAwaited s incident)
  | .act _ => inferInstanceAs (Decidable (_ → _))
  | .crash _ => isTrue trivial

theorem awaits_of_handover {file : Foundation.ByteCodec.Bytes} {demotedNs advancedNs : U64}
    {engine : Engine}
    (h : Handover config file demotedNs advancedNs engine) : Awaits engine.tables := by
  intro k v hfind hstate
  rw [h.envelopes k] at hfind
  obtain ⟨old, -, rfl⟩ := Option.map_eq_some_iff.1 hfind
  exact absurd hstate (RestoredClaims.inactive_handedOut config demotedNs advancedNs old).dispatching

theorem awaits_of_starts (h : Starts s) : Awaits s.engine.tables := by
  cases h with
  | fresh hfresh =>
    intro k v hfind
    obtain ⟨⟨epoch, htables⟩, -⟩ := empty_of_fresh hfresh
    rw [htables] at hfind
    cases hfind
  | recovered hdone => exact awaits_of_handover (handover hdone)

theorem awaits_lifeStep (h : Awaits s.engine.tables) (hok : KeepsAwaited s incident)
    (hstep : lifeStep s incident = some t) : Awaits t.engine.tables := by
  cases incident with
  | act action => exact awaits_step h hok hstep
  | crash crash =>
    obtain ⟨file, -, hrecovered⟩ := Option.bind_eq_some_iff.1 hstep
    split at hrecovered
    · cases hrecovered
    · next engine hdone =>
      cases hrecovered
      exact awaits_of_handover (handover_of_recoverEngine hdone)

theorem dispatching_of_action {now : U64}
    (h : (deriveAction tables envelope now).1 = .awaitVerification) :
    envelope.state = .dispatching := by
  unfold deriveAction at h
  simp only at h
  split at h
  all_goals first
    | assumption
    | (repeat' split at h) <;> cases h

/-- Through operations, crashes and recoveries whose steps strand no envelope, an envelope that is
dispatching, or that reports `AwaitVerification`, has an apply Created, Dispatched or
Acknowledged. -/
theorem dispatching_has_apply (hstart : Starts start)
    (hrun : Reaches lifeStep KeepsAwaited start s)
    (hfind : s.engine.tables.envelopes.find k = some envelope) :
    (envelope.state = .dispatching → HasApply s.engine.tables envelope.id) ∧
      ∀ now, (deriveAction s.engine.tables envelope now).1 = .awaitVerification →
        HasApply s.engine.tables envelope.id := by
  have hawaits : Awaits s.engine.tables := hrun.invariant (I := fun s ↦ Awaits s.engine.tables)
    (awaits_of_starts hstart) fun _ _ _ h hok hstep ↦ awaits_lifeStep h hok hstep
  exact ⟨hawaits k envelope hfind,
    fun _ haction ↦ hawaits k envelope hfind (dispatching_of_action haction)⟩

/-- An apply is dispatched and has no answer yet. -/
def dispatchedLife : List Incident :=
  dispatchSample.map .act

theorem dispatching_after_dispatch : ∃ s envelope, run lifeStep sampleStart dispatchedLife = some s ∧
    s.engine.tables.envelopes.find 1 = some envelope ∧ envelope.state = .dispatching ∧
      HasApply s.engine.tables envelope.id := by
  obtain ⟨s, hrun, envelope, hfind, hstate⟩ : ∃ s, run lifeStep sampleStart dispatchedLife = some s ∧
      ∃ envelope, s.engine.tables.envelopes.find 1 = some envelope ∧
        envelope.state = .dispatching := ⟨_, rfl, _, rfl, by decide +kernel⟩
  have hguarded : Guarded lifeStep KeepsAwaited sampleStart dispatchedLife := by decide +kernel
  exact ⟨s, envelope, hrun, hfind, hstate,
    (dispatching_has_apply (.fresh fresh_sampleStart) (reaches_of_run hguarded hrun) hfind).1 hstate⟩

/-- The only apply of the envelope is cancelled. -/
def cancelledLife : List Incident :=
  dispatchedLife ++ [.act ⟨.cancelAttempt ⟨1⟩ .none actor 6, []⟩]

theorem dispatching_without_apply : ∃ s envelope,
    run lifeStep sampleStart cancelledLife = some s ∧ Starts sampleStart ∧
      s.engine.tables.envelopes.find 1 = some envelope ∧ envelope.state = .dispatching ∧
      (∀ now, deriveAction s.engine.tables envelope now = (.awaitVerification, .none)) ∧
      ¬ HasApply s.engine.tables envelope.id := by
  obtain ⟨s, hrun, envelope, hfind, hstate, hidle⟩ :
      ∃ s, run lifeStep sampleStart cancelledLife = some s ∧
        ∃ envelope, s.engine.tables.envelopes.find 1 = some envelope ∧
          envelope.state = .dispatching ∧
          (s.engine.tables.attempts.entries.any fun a ↦ attemptInflight a.state) = false :=
    ⟨_, rfl, _, rfl, by decide +kernel, by decide +kernel⟩
  refine ⟨s, envelope, hrun, .fresh fresh_sampleStart, hfind, hstate, fun now ↦ ?_, ?_⟩
  · unfold deriveAction
    simp only [hstate]
  · rintro ⟨k, a, ha, -, -, hlive⟩
    exact List.any_eq_false.1 hidle a (Registry.mem_entries_of_find ha) hlive

end Runs

end RateGovernor.Safety.Awaiting
