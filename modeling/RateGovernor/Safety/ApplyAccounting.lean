import RateGovernor.Dynamics.Refusing
import RateGovernor.Safety.OneInFlight

namespace RateGovernor.Safety.ApplyAccounting

open Model.CheckedMath Model.Identity Model.Reason Model.Entities Model.Envelope
open Model.EngineState Model.Durability Model.Authority Model.Calls Model.Lifecycle Model.Execution
open Model.Recovery
open Model.Journal Model.JournalWriter Foundation.KeyedTable Foundation.GuardedRun
open Dynamics.Install Dynamics.Staging Dynamics.Turns Dynamics.Issue
open Dynamics.Evolution Dynamics.Attempts Dynamics.Serials Dynamics.Tallying Dynamics.Demotion
open Dynamics.Halting Dynamics.Driving Dynamics.Start Dynamics.Reopening OneInFlight
open Dynamics.Sections hiding InFlight
open Dynamics.Refusing hiding Dispatched

variable {s t start : System} {action : Action} {incident : Incident} {decision : Section} {k : U64}

/-- The applies in flight, by number. -/
def liveApplies (tables : Tables) : List U64 :=
  (tables.attempts.entries.filter fun attempt ↦
    decide (attempt.kind = .apply) && attemptInflight attempt.state).map (·.id.value)

theorem mem_liveApplies {tables : Tables} : k ∈ liveApplies tables ↔ ∃ attempt,
    tables.attempts.find k = some attempt ∧ attempt.kind = .apply ∧
      attemptInflight attempt.state = true := by
  simp only [liveApplies, List.mem_map, List.mem_filter, Bool.and_eq_true, decide_eq_true_eq]
  constructor
  · rintro ⟨attempt, ⟨hmem, hkind, hlive⟩, rfl⟩
    exact ⟨attempt, Registry.mem_entries.1 hmem, hkind, hlive⟩
  · rintro ⟨attempt, hfind, hkind, hlive⟩
    have hkey := Registry.key_of_find hfind
    exact ⟨attempt, ⟨Registry.mem_entries_of_find hfind, hkind, hlive⟩, hkey⟩

theorem nodup_liveApplies (tables : Tables) : (liveApplies tables).Nodup :=
  (Registry.nodup_entries tables.attempts).sublist (List.filter_sublist.map _)

def verifying : Call → Option ApplyTask
  | .applyVerifying task .. => some task
  | .applyPublishing task .. => some task
  | _ => none

def Owned (s : System) (k : U64) : Prop :=
  Issued s k ∧ ∀ attempt, s.engine.tables.attempts.find k = some attempt → attempt.kind = .apply

/-- Every apply that was dispatched is in flight, or counted at most once, or not at all. -/
structure Accounted (s : System) : Prop where
  issued : ∀ k attempt, InFlight s k attempt → Issued s k
  owned : ∀ call ∈ s.calls, ∀ task, verifying call = some task → Owned s task.attempt.value
  bounded : (tally s.engine.control.counters).dispatched.toNat ≤
    s.engine.control.nextAttemptId.toNat
  settled : (tally s.engine.control.counters).verified.toNat +
      (tally s.engine.control.counters).degraded.toNat +
      (liveApplies s.engine.tables).length ≤
    (tally s.engine.control.counters).dispatched.toNat

section Live

theorem live_installed (hsection : sectionOf s action.event = some decision)
    (h : k ∈ liveApplies (installed s.engine.config s.engine.tables decision.records)) :
    k ∈ liveApplies s.engine.tables ∨
      (k = s.engine.control.nextAttemptId ∧ ¬ NoApply decision) := by
  obtain ⟨attempt, hfind, hkind, hlive⟩ := mem_liveApplies.1 h
  have hkey := Registry.key_of_find hfind
  obtain ⟨record, hmem, hrecord⟩ | hold := installed_attempts _ _ hfind
  · have hstages := stages_of_sectionOf hsection hmem
    cases record with
    | created value =>
      cases hrecord
      obtain ⟨envelope, hcreates⟩ := creates_of_stages hstages
      exact .inr ⟨hkey.symm.trans hcreates.issued, fun hnone ↦ hnone _ hmem hkind⟩
    | attempt type value =>
      cases hrecord
      obtain ⟨old, hold, hmoves⟩ := moves_of_stages hstages
      rw [hkey] at hold
      have hsame : attempt.kind = old.kind := congrArg AttemptIdentity.kind hmoves.same
      exact .inl (mem_liveApplies.2 ⟨old, hold, hsame ▸ hkind, hmoves.live hlive⟩)
    | _ => cases hrecord
  · exact .inl (mem_liveApplies.2 ⟨attempt, hold, hkind, hlive⟩)

theorem not_live_of_ends {config : EngineConfig} {tables : Tables} (h : Ends decision k) :
    k ∉ liveApplies (installed config tables decision.records) := by
  obtain ⟨type, type', attempt, envelope, hrecords, rfl, hended⟩ := h
  intro hmem
  obtain ⟨attempt', hfind, -, hlive⟩ := mem_liveApplies.1 hmem
  rw [hrecords] at hfind
  have hstored : (tables.attempts.put attempt).find attempt.id.value = some attempt' := hfind
  rw [Registry.find_put_self] at hstored
  cases hstored
  rw [hended] at hlive
  cases hlive

theorem noApply_of_ends (h : Ends decision k) : NoApply decision := by
  obtain ⟨type, type', attempt, envelope, hrecords, -, -⟩ := h
  intro created hmem
  rw [hrecords] at hmem
  simp at hmem

theorem length_live_le {tables tables' : Tables}
    (h : ∀ k ∈ liveApplies tables', k ∈ liveApplies tables) :
    (liveApplies tables').length ≤ (liveApplies tables).length :=
  (List.subperm_of_subset (nodup_liveApplies tables') h).length_le

theorem length_live_le_succ {tables tables' : Tables}
    (h : ∀ k' ∈ liveApplies tables', k' ∈ liveApplies tables ∨ k' = k) :
    (liveApplies tables').length ≤ (liveApplies tables).length + 1 := by
  have hsub : liveApplies tables' ⊆ k :: liveApplies tables := by
    intro k' hmem
    exact List.mem_cons.2 (h k' hmem).symm
  exact (List.subperm_of_subset (nodup_liveApplies tables') hsub).length_le

theorem length_live_lt {tables tables' : Tables}
    (h : ∀ k ∈ liveApplies tables', k ∈ liveApplies tables) (hold : k ∈ liveApplies tables)
    (hnew : k ∉ liveApplies tables') :
    (liveApplies tables').length < (liveApplies tables).length := by
  have hsub : liveApplies tables' ⊆ (liveApplies tables).erase k := by
    intro k' hmem
    have hne : k' ≠ k := by
      rintro rfl
      exact hnew hmem
    exact (List.mem_erase_of_ne hne).2 (h k' hmem)
  have hle := (List.subperm_of_subset (nodup_liveApplies tables') hsub).length_le
  have hpos := List.length_pos_of_mem hold
  rw [List.length_erase_of_mem hold] at hle
  omega

end Live

section Step

theorem owned_step (hroom : Serviceable s) (h : Owned s k) (hstep : step s action = some t) :
    Owned t k := by
  refine ⟨issued_step hroom h.1 hstep, fun attempt hfind ↦ ?_⟩
  obtain ⟨old, hold, hsame⟩ := stored_of_issued h.1 hstep hfind
  exact (congrArg AttemptIdentity.kind hsame).trans (h.2 old hold)

theorem inflight_issued_step (hroom : Serviceable s)
    (h : ∀ k attempt, InFlight s k attempt → Issued s k) (hstep : step s action = some t)
    {attempt : EnforcementAttempt} (hlive : InFlight t k attempt) : Issued t k := by
  obtain ⟨⟨decision, created, hsection, hmem, rfl⟩, -⟩ | ⟨old, hold, -⟩ :=
    inflight_step hstep hlive
  · obtain ⟨envelope, hcreates⟩ := creates_of_stages (stages_of_sectionOf hsection hmem)
    have hnext := (serials_of_issues (issues_of_sectionOf hsection) hroom).2 created hmem
    obtain ⟨decision', hsection', hturn⟩ := turn_of_step hstep
    rw [hsection] at hsection'
    cases hsection'
    cases hturn with
    | quiet hrecords =>
      rw [hrecords] at hmem
      cases hmem
    | failed _ hstatus => exact .inl (stuck_of_commit hstatus)
    | committed => exact .inr (hcreates.issued ▸ hnext)
  · exact issued_step hroom (h k old hold) hstep

theorem owned_of_begins {call : Call} {status : Status} {task : ApplyTask} (h : Accounted s)
    (hbegins : Begins s action.event status call) (hcall : verifying call = some task) :
    Owned s task.attempt.value := by
  generalize action.event = event at hbegins
  cases hbegins with
  | applyAcknowledged accepted =>
    cases hcall
    refine ⟨h.issued _ _ ⟨accepted.storedAttempt, accepted.inflight⟩, fun attempt hfind ↦ ?_⟩
    rw [accepted.storedAttempt] at hfind
    cases hfind
    exact accepted.kind
  | applyVerified found =>
    cases hcall
    exact h.owned _ (List.mem_of_getElem? found) _ rfl
  | _ => cases hcall

/-- What a section that has been written does to the tally and to the applies in flight. -/
theorem settled_step (h : Accounted s) (hroom : Serviceable s)
    (hsection : sectionOf s action.event = some decision) :
    (tally decision.settled.counters).dispatched.toNat ≤ decision.settled.nextAttemptId.toNat ∧
      (tally decision.settled.counters).verified.toNat +
          (tally decision.settled.counters).degraded.toNat +
          (liveApplies (installed s.engine.config s.engine.tables decision.records)).length ≤
        (tally decision.settled.counters).dispatched.toNat := by
  have hbounded := h.bounded
  have hsettled := h.settled
  have hlimit := (tally s.engine.control.counters).dispatched.toNat_lt
  have hnext := UInt64.le_iff_toNat_le.1
    (serials_of_issues (issues_of_sectionOf hsection) hroom).1
  have hlive := fun k ↦ @live_installed s action decision k hsection
  have ended {k : U64} (hends : Ends decision k) (hold : k ∈ liveApplies s.engine.tables) :
      (liveApplies (installed s.engine.config s.engine.tables decision.records)).length <
        (liveApplies s.engine.tables).length :=
    length_live_lt
      (fun k hmem ↦ (hlive k hmem).resolve_right fun hnew ↦ hnew.2 (noApply_of_ends hends)) hold
      (not_live_of_ends hends)
  have haccounts := accounts_of_sectionOf hsection
  generalize action.event = event at haccounts
  cases haccounts with
  | same hsame hnone =>
    have hle := length_live_le fun k hmem ↦
      (hlive k hmem).resolve_right fun hnew ↦ hnew.2 hnone
    rw [hsame]
    omega
  | dispatched hcounted hissued hrecords =>
    have hle := length_live_le_succ fun k hmem ↦ (hlive k hmem).imp_right fun hnew ↦ hnew.1
    have hroom' : s.engine.control.nextAttemptId.toNat < 0xFFFFFFFFFFFFFFFF := by
      have hne : s.engine.control.nextAttemptId.toNat ≠ 0xFFFFFFFFFFFFFFFF :=
        fun heq ↦ hroom (UInt64.toNat_inj.1 heq)
      have hlt := s.engine.control.nextAttemptId.toNat_lt
      omega
    rw [hcounted, hissued, toNat_succ hroom']
    simp only
    rw [toNat_succ (by omega)]
    omega
  | refused accepted hends hcounted =>
    have hlt := ended hends
      (mem_liveApplies.2 ⟨_, accepted.storedAttempt, accepted.kind, accepted.inflight⟩)
    rw [hcounted]
    simp only
    rw [toNat_succ (by omega)]
    omega
  | judged judged hends hcounted =>
    have howned := h.owned _ (List.mem_of_getElem? judged.call) _ rfl
    have hlive : attemptInflight .acknowledged = true := rfl
    rw [← judged.acknowledged] at hlive
    have hlt := ended hends
      (mem_liveApplies.2 ⟨_, judged.storedAttempt, howned.2 _ judged.storedAttempt, hlive⟩)
    obtain hcounted | hcounted := hcounted
    · rw [hcounted]
      simp only
      rw [toNat_succ (by omega)]
      omega
    · rw [hcounted]
      simp only
      rw [toNat_succ (by omega)]
      omega

theorem accounted_step (h : Accounted s) (hroom : Serviceable s) (hrecorded : Recorded s [action])
    (hstep : step s action = some t) : Accounted t := by
  have hissued := fun k attempt ↦ @inflight_issued_step s t action k hroom h.issued hstep attempt
  obtain ⟨decision, hsection, rfl⟩ := Option.map_eq_some_iff.1 hstep
  have hsettled := performed_settled ((recorded_section hsection).1 hrecorded).1
  obtain ⟨hbounded, hcounts⟩ := settled_step h hroom hsection
  refine ⟨hissued, fun call hcall task htask ↦ ?_, ?_, ?_⟩
  · refine owned_step hroom ?_ hstep
    rw [hsettled.calls] at hcall
    obtain hold | hbegins := begins_of_sectionOf hsection hcall
    · exact h.owned call hold task htask
    · exact owned_of_begins h hbegins htask
  · rw [hsettled.control]
    exact hbounded
  · rw [hsettled.control, hsettled.tables]
    exact hcounts

end Step

section Starting

theorem tally_construct (config : EngineConfig) (backend : Option Backend) (session : Session)
    (journal : Option JournalFile) (io : Io) :
    tally (construct config backend session journal io).1.control.counters = ⟨0, 0, 0⟩ := by
  unfold construct
  simp only
  cases backend <;> (split; rfl; split <;> rfl)

theorem tally_recovered {truncate config file demotedNs advancedNs io tailIo engine}
    (h : recoverEngineWith truncate config file demotedNs advancedNs io tailIo = .ok engine) :
    tally engine.control.counters = ⟨0, 0, 0⟩ := by
  unfold recoverEngineWith at h
  split at h
  · cases h
  · next recovered hrecovered =>
    cases h
    obtain ⟨durability, heq⟩ := tailDropped_eq truncate (scanJournalFile file) recovered tailIo
    rw [heq]
    obtain ⟨-, hdemoted, hadvanced, rfl⟩ := recoverEngine_ok hrecovered
    obtain ⟨-, hcontrol, -⟩ := demoteForRecovery_done hdemoted
    have hzero : tally (demoted config file demotedNs io).1.control.counters = ⟨0, 0, 0⟩ := by
      refine (congrArg (fun control ↦ tally control.counters) hcontrol).trans ?_
      rw [rebuilt, restored, bannered_eq]
      rfl
    unfold advanced advancedOnRecovery at hadvanced ⊢
    split at hadvanced
    · next hconfigured =>
      rw [if_pos hconfigured]
      obtain ⟨-, hsettled, -⟩ := perform_done (fun _ ↦ advanceEpoch_reply) hadvanced
      refine (congrArg (fun control ↦ tally control.counters) hsettled).trans ?_
      refine Eq.trans ?_ hzero
      unfold Model.Authority.advanceEpoch
      simp only
      repeat' split
      all_goals rfl
    · next hconfigured =>
      rw [if_neg hconfigured]
      exact hzero

theorem accounted_of_starts (h : Starts s) : Accounted s := by
  have hidle := fun k attempt ↦ @idle_of_starts s k attempt h
  have hnone : liveApplies s.engine.tables = [] := by
    refine List.eq_nil_iff_forall_not_mem.2 fun k hmem ↦ ?_
    obtain ⟨attempt, hfind, -, hlive⟩ := mem_liveApplies.1 hmem
    exact hidle k attempt ⟨hfind, hlive⟩
  have hzero : s.calls = [] ∧ tally s.engine.control.counters = ⟨0, 0, 0⟩ := by
    cases h with
    | fresh hfresh =>
      obtain ⟨config, backend, session, journal, io, rfl⟩ := hfresh
      exact ⟨rfl, tally_construct config backend session journal io⟩
    | recovered hdone => exact ⟨rfl, tally_recovered hdone⟩
  refine ⟨fun k attempt hlive ↦ absurd hlive (hidle k attempt), ?_, ?_, ?_⟩
  · rw [hzero.1]
    exact fun call hcall ↦ absurd hcall List.not_mem_nil
  · simp only [hzero.2, UInt64.toNat_zero, Nat.zero_le]
  · simp only [hzero.2, hnone, UInt64.toNat_zero, List.length_nil, Nat.add_zero, Nat.le_refl]

end Starting

section Claim

/-- The incident meets neither a refused transaction nor a counter of attempts at its end. -/
def uninterrupted (s : System) : Incident → Prop
  | .act action => Serviceable s ∧ Recorded s [action]
  | .crash _ => True

theorem accounted_of_reaches (hstart : Starts start)
    (hrun : Reaches lifeStep uninterrupted start s) : Accounted s := by
  refine hrun.invariant (accounted_of_starts hstart) fun s incident t h hok hstep ↦ ?_
  cases incident with
  | act action => exact accounted_step h hok.1 hok.2 hstep
  | crash crash =>
    obtain ⟨file, -, hrecovered⟩ := Option.bind_eq_some_iff.1 hstep
    split at hrecovered
    · cases hrecovered
    · next engine hok =>
      cases hrecovered
      refine accounted_of_starts (@Starts.recovered false crash.config (file.take crash.cut)
        crash.demotedNs
        crash.advancedNs crash.io [] engine ?_)
      simp only [recoverEngineWith, hok]
      rfl

/-- The attempt whose completion an event takes up. -/
def judgedAttempt (s : System) : Event → Option U64
  | .finish i => match s.calls[i]? with
    | some (.applyFinishing task ..) => some task.attempt.value
    | _ => none
  | .publish i _ => match s.calls[i]? with
    | some (.applyPublishing task ..) => some task.attempt.value
    | _ => none
  | _ => none

/-- A step has moved one of the two counters of how applies came out. -/
def Counted (s t : System) : Prop :=
  t.engine.control.counters.appliesVerified ≠ s.engine.control.counters.appliesVerified ∨
    t.engine.control.counters.appliesDegraded ≠ s.engine.control.counters.appliesDegraded

/-- A step has moved just one of the two counters, and by one. -/
def CountedOnce (s t : System) : Prop :=
  (t.engine.control.counters.appliesVerified.toNat =
      s.engine.control.counters.appliesVerified.toNat + 1 ∧
    t.engine.control.counters.appliesDegraded = s.engine.control.counters.appliesDegraded) ∨
  (t.engine.control.counters.appliesVerified = s.engine.control.counters.appliesVerified ∧
    t.engine.control.counters.appliesDegraded.toNat =
      s.engine.control.counters.appliesDegraded.toNat + 1)

theorem outcomes_lt (h : Accounted s) (hlive : k ∈ liveApplies s.engine.tables) :
    s.engine.control.counters.appliesVerified.toNat < 0xFFFFFFFFFFFFFFFF ∧
      s.engine.control.counters.appliesDegraded.toNat < 0xFFFFFFFFFFFFFFFF := by
  have hbalance := h.settled
  have hlimit := (tally s.engine.control.counters).dispatched.toNat_lt
  have hpos := List.length_pos_of_mem hlive
  have hverified : s.engine.control.counters.appliesVerified.toNat =
    (tally s.engine.control.counters).verified.toNat := rfl
  have hdegraded : s.engine.control.counters.appliesDegraded.toNat =
    (tally s.engine.control.counters).degraded.toNat := rfl
  constructor <;> omega

/-- An outcome that is counted is that of an apply in flight, which is in flight no longer. -/
theorem counted_step (h : Accounted s) (hroom : Serviceable s) (hrecorded : Recorded s [action])
    (hstep : step s action = some t) (hcounted : Counted s t) :
    ∃ k, judgedAttempt s action.event = some k ∧ k ∈ liveApplies s.engine.tables ∧
      Issued t k ∧ k ∉ liveApplies t.engine.tables ∧ CountedOnce s t := by
  have hissued {k : U64} (hlive : k ∈ liveApplies s.engine.tables) : Issued t k := by
    obtain ⟨attempt, hfind, -, hinflight⟩ := mem_liveApplies.1 hlive
    exact issued_step hroom (h.issued k attempt ⟨hfind, hinflight⟩) hstep
  obtain ⟨decision, hsection, hperformed⟩ := Option.map_eq_some_iff.1 hstep
  have hsettled : Settled s decision t :=
    hperformed ▸ performed_settled ((recorded_section hsection).1 hrecorded).1
  have hended {k : U64} (hends : Ends decision k) : k ∉ liveApplies t.engine.tables := by
    rw [hsettled.tables]
    exact not_live_of_ends hends
  have hverified : t.engine.control.counters.appliesVerified =
      (tally decision.settled.counters).verified :=
    congrArg (fun control ↦ control.counters.appliesVerified) hsettled.control
  have hdegraded : t.engine.control.counters.appliesDegraded =
      (tally decision.settled.counters).degraded :=
    congrArg (fun control ↦ control.counters.appliesDegraded) hsettled.control
  have haccounts := accounts_of_sectionOf hsection
  generalize action.event = event at haccounts
  cases haccounts with
  | same htally =>
    rw [htally] at hverified hdegraded
    exact absurd hcounted (not_or.2 ⟨not_not.2 hverified, not_not.2 hdegraded⟩)
  | dispatched htally =>
    rw [htally] at hverified hdegraded
    exact absurd hcounted (not_or.2 ⟨not_not.2 hverified, not_not.2 hdegraded⟩)
  | refused accepted hends htally =>
    have hlive := mem_liveApplies.2
      ⟨_, accepted.storedAttempt, accepted.kind, accepted.inflight⟩
    rw [htally] at hverified hdegraded
    refine ⟨_, by simp only [judgedAttempt, accepted.call], hlive, hissued hlive, hended hends,
      .inr ⟨hverified, ?_⟩⟩
    rw [hdegraded]
    exact toNat_succ (outcomes_lt h hlive).2
  | judged judged hends htally =>
    have howned := h.owned _ (List.mem_of_getElem? judged.call) _ rfl
    have hinflight : attemptInflight .acknowledged = true := rfl
    rw [← judged.acknowledged] at hinflight
    have hlive := mem_liveApplies.2
      ⟨_, judged.storedAttempt, howned.2 _ judged.storedAttempt, hinflight⟩
    refine ⟨_, by simp only [judgedAttempt, judged.call], hlive, hissued hlive, hended hends, ?_⟩
    obtain htally | htally := htally
    · rw [htally] at hverified hdegraded
      refine .inl ⟨?_, hdegraded⟩
      rw [hverified]
      exact toNat_succ (outcomes_lt h hlive).1
    · rw [htally] at hverified hdegraded
      refine .inr ⟨hverified, ?_⟩
      rw [hdegraded]
      exact toNat_succ (outcomes_lt h hlive).2

theorem not_live_step (hissued : Issued s k) (h : k ∉ liveApplies s.engine.tables)
    (hstep : step s action = some t) : k ∉ liveApplies t.engine.tables := by
  intro hmem
  obtain ⟨attempt, hfind, hkind, hlive⟩ := mem_liveApplies.1 hmem
  obtain hstuck | hlt := hissued
  · rw [(stuck_step hstuck hstep).2] at hmem
    exact h hmem
  · obtain ⟨-, envelope, hcreates⟩ | ⟨old, ⟨hold, holdlive⟩, hsame⟩ :=
      inflight_step hstep ⟨hfind, hlive⟩
    · have hkey := Registry.key_of_find hfind
      have hnext := hcreates.issued
      rw [hkey] at hnext
      rw [hnext] at hlt
      exact absurd hlt (UInt64.lt_irrefl _)
    · have hkindOld : attempt.kind = old.kind := congrArg AttemptIdentity.kind hsame
      exact h (mem_liveApplies.2 ⟨old, hold, hkindOld ▸ hkind, holdlive⟩)

/-- In every run without a refused transaction, across crashes and recoveries, the applies that came
out verified or degraded are no more than those dispatched, as long as the counter of attempts has
not reached its end. Each step that counts an outcome counts one, for the apply in flight whose
completion it takes up, and no later step of that engine counts an outcome for the same apply. -/
theorem apply_accounting (hstart : Starts start) (hrun : Reaches lifeStep uninterrupted start s) :
    s.engine.control.counters.appliesVerified.toNat +
        s.engine.control.counters.appliesDegraded.toNat ≤
      s.engine.control.counters.appliesDispatched.toNat ∧
    ∀ action t, uninterrupted s (.act action) → step s action = some t → Counted s t →
      CountedOnce s t ∧ ∃ k, judgedAttempt s action.event = some k ∧
        k ∈ liveApplies s.engine.tables ∧
        ∀ u action' v, Reaches step (fun u action ↦ uninterrupted u (.act action)) t u →
          uninterrupted u (.act action') → step u action' = some v → Counted u v →
          judgedAttempt u action'.event ≠ some k := by
  have haccounted := accounted_of_reaches hstart hrun
  refine ⟨(Nat.le_add_right _ _).trans haccounted.settled, fun action t hok hstep hcounted ↦ ?_⟩
  obtain ⟨k, hjudged, hlive, hissued, hended, honce⟩ :=
    counted_step haccounted hok.1 hok.2 hstep hcounted
  refine ⟨honce, k, hjudged, hlive, fun u action' v hlater hok' hstep' hcounted' hagain ↦ ?_⟩
  obtain ⟨haccounted', -, hidle⟩ : Accounted u ∧ Issued u k ∧ k ∉ liveApplies u.engine.tables :=
    hlater.invariant
      (I := fun u ↦ Accounted u ∧ Issued u k ∧ k ∉ liveApplies u.engine.tables)
      ⟨accounted_step haccounted hok.1 hok.2 hstep, hissued, hended⟩
      fun _ _ _ h hok hstep ↦ ⟨accounted_step h.1 hok.1 hok.2 hstep,
        issued_step hok.1 h.2.1 hstep, not_live_step h.2.1 h.2.2 hstep⟩
  obtain ⟨k', hjudged', hlive', -⟩ :=
    counted_step haccounted' hok'.1 hok'.2 hstep' hcounted'
  rw [hagain] at hjudged'
  cases hjudged'
  exact hidle hlive'

instance decidableRecorded : (s : System) → (actions : List Action) → Decidable (Recorded s actions)
  | _, [] => isTrue trivial
  | s, action :: rest =>
    have hrest := fun t ↦ decidableRecorded t rest
    match h : sectionOf s action.event with
    | none => decidable_of_iff (Recorded s rest) (by simp only [Recorded, h])
    | some _ => decidable_of_iff (_ ∧ _) (recorded_section h).symm

instance : (s : System) → (incident : Incident) → Decidable (uninterrupted s incident)
  | s, .act action => inferInstanceAs (Decidable (Serviceable s ∧ Recorded s [action]))
  | _, .crash _ => isTrue trivial

/-- One apply, dispatched and verified. -/
theorem accounting_of_applySample : ∃ s, run lifeStep sampleStart (applySample.map .act) = some s ∧
    s.engine.control.counters.appliesVerified = 1 ∧
    s.engine.control.counters.appliesVerified.toNat +
        s.engine.control.counters.appliesDegraded.toNat ≤
      s.engine.control.counters.appliesDispatched.toNat := by
  have hsome : (run lifeStep sampleStart (applySample.map .act)).isSome = true := by decide +kernel
  obtain ⟨s, hrun⟩ := Option.isSome_iff_exists.1 hsome
  have hverified : (run lifeStep sampleStart (applySample.map .act)).map
      (·.engine.control.counters.appliesVerified) = some 1 := by decide +kernel
  rw [hrun] at hverified
  have hguarded : Guarded lifeStep uninterrupted sampleStart (applySample.map .act) := by
    decide +kernel
  exact ⟨s, hrun, Option.some.inj hverified,
    (apply_accounting (.fresh fresh_sampleStart) (reaches_of_run hguarded hrun)).1⟩

end Claim

section Wrapping

theorem recorded_of_reaches (hnone : start.engine.config.durability = .none)
    (hrun : Reaches step anyStep start s) :
    Reaches step (fun s action ↦ Recorded s [action]) start s := by
  have hstrong : Reaches step (fun s action ↦ Recorded s [action]) start s ∧
      s.engine.config.durability = .none := by
    induction hrun with
    | refl => exact ⟨.refl, hnone⟩
    | tail _ _ hstep ih =>
      refine ⟨ih.1.tail (recorded_of_none ih.2) hstep, ?_⟩
      rw [config_step hstep]
      exact ih.2
  exact hstrong.1

def readied : List Action :=
  register ++ [⟨.openEnvelope sampleRequest actor 5, []⟩, ⟨.authorize ⟨1⟩ actor 5, []⟩]

def ready (s : System) (envelope : RateEnvelope) : Bool :=
  s.calls.isEmpty && decide (s.engine.config.durability = .none) &&
  !s.engine.control.shuttingDown && (checkActor s.engine actor).isNone &&
  s.engine.control.backendBound &&
  s.engine.control.backend.any (fun backend ↦
    decide (backend.describe.id = envelope.backend ∧
      backend.describe.generation = envelope.backendGeneration)) &&
  decide (s.engine.config.maxEnvelopes * s.engine.config.maxAttemptsPerEnvelope ≠ 0) &&
  decide (envelope.state ≠ .revoked) && decide (envelope.cooldownUntilNs = 0) &&
  (derivePlanLocked s.engine envelope 5).authorized &&
  bindingUnchanged envelope (derivePlanLocked s.engine envelope 5).plan &&
  decide (authorityStatus s.engine.tables envelope 5 = .none) &&
  decide (envelope.plan.fingerprint.epoch = s.engine.tables.epoch) &&
  decide (envelope.plan.hysteresis.cooldownNs = 0) &&
  s.engine.tables.attempts.entries.isEmpty && s.engine.tables.attemptOrder.isEmpty &&
  s.engine.tables.attemptsByEnvelope.isEmpty

theorem appliable_of_ready {envelope : RateEnvelope}
    (hfound : s.engine.tables.envelopes.find 1 = some envelope) (h : ready s envelope = true) :
    (∃ backend, Appliable s ⟨1⟩ actor {} 5 envelope backend) ∧
      Below s.engine.tables s.engine.control.nextAttemptId := by
  simp only [ready, Bool.and_eq_true, decide_eq_true_eq, Bool.not_eq_true',
    Option.isNone_iff_eq_none,
    List.isEmpty_iff, Option.any_eq_true] at h
  obtain ⟨⟨⟨⟨⟨⟨⟨⟨⟨⟨⟨⟨⟨⟨⟨⟨hcalls, hnone⟩, hrunning⟩, hactor⟩, hadmitted⟩, backend, hbound, hidentity,
    hgeneration⟩, hroom⟩, hlive⟩, hcooled⟩, hplan⟩, hunchanged⟩, hcurrent⟩, hepoch⟩, hcalm⟩,
    hattempts⟩, horder⟩, hlists⟩ := h
  refine ⟨⟨backend, hcalls, hnone, hrunning, hactor, rfl, hbound, hadmitted, hroom, hfound, hlive,
    hcooled, hidentity, hgeneration, hplan, hunchanged, hcurrent, hepoch, hcalm, ?_⟩, ?_, ?_⟩
  · refine Registry.forall_find_iff.2 ?_
    rw [hattempts]
    exact fun a hmem ↦ absurd hmem List.not_mem_nil
  · intro e k hmem
    rw [Tables.attemptList, Std.ExtTreeMap.isEmpty_iff.1 hlists,
      Std.ExtTreeMap.getElem?_empty] at hmem
    cases hmem
  · rw [horder]
    exact fun k hmem ↦ absurd hmem List.not_mem_nil

/-- After 2^64 - 1 refused applies one more dispatch takes the counter of the dispatched back to
zero, while the degraded stay counted. -/
theorem accounting_wraps : ¬ ∀ start s, Fresh start →
    Reaches step (fun s action ↦ Recorded s [action]) start s →
    s.engine.control.counters.appliesVerified.toNat +
        s.engine.control.counters.appliesDegraded.toNat ≤
      s.engine.control.counters.appliesDispatched.toNat := by
  intro hclaim
  obtain ⟨s, envelope, hrun, hfound, hready⟩ := of_observe (by decide +kernel :
    observe sampleStart readied 1 (fun s envelope ↦ ready s envelope &&
      decide (s.engine.control.nextAttemptId = 1 ∧
        s.engine.control.counters.appliesDispatched = 0 ∧
        s.engine.control.counters.appliesDegraded = 0)) = true)
  simp only [Bool.and_eq_true, decide_eq_true_eq] at hready
  obtain ⟨hready, hnext, hdispatched, hdegraded⟩ := hready
  obtain ⟨⟨backend, happliable⟩, hbelow⟩ := appliable_of_ready hfound hready
  have hroom : s.engine.control.nextAttemptId.toNat + 0xFFFFFFFFFFFFFFFE = 0xFFFFFFFFFFFFFFFF := by
    rw [hnext]
    rfl
  obtain ⟨actions, htally⟩ := drive_exhausted happliable hbelow hroom
  have hreaches : Reaches step anyStep sampleStart (drive step s actions) :=
    (reaches_of_run (guarded_anyStep _ _) hrun).trans (reaches_drive fun _ _ _ ↦ trivial)
  have hbalance := hclaim _ _ fresh_sampleStart
    (recorded_of_reaches (by decide +kernel) hreaches)
  have hsent := congrArg Tally.dispatched htally
  have hrefused := congrArg Tally.degraded htally
  simp only [tally, hdispatched, hdegraded] at hsent hrefused
  rw [hsent, hrefused] at hbalance
  have hwrapped : (0 + UInt64.ofNat 0xFFFFFFFFFFFFFFFE + 1 + 1 : U64).toNat = 0 := by decide
  have hkept : (0 + UInt64.ofNat 0xFFFFFFFFFFFFFFFE + 1 : U64).toNat = 0xFFFFFFFFFFFFFFFF := by
    decide
  omega

end Wrapping

end RateGovernor.Safety.ApplyAccounting
