import RateGovernor.Dynamics.Recounting
import RateGovernor.Safety.OneInFlight
import RateGovernor.Safety.ReplayedMemory

namespace RateGovernor.Safety.DeadAttempts

open Model.CheckedMath Model.Identity Model.Reason Model.Entities Model.Envelope Model.RecordCodec
open Model.EnvelopeCodec Model.Journal Model.JournalWriter Model.EngineState Model.Durability
open Model.Calls Model.Lifecycle Model.Completion Model.Revocation Model.Maintenance Model.Execution
open Model.Recovery Foundation.ByteCodec Foundation.KeyedTable Foundation.GuardedRun
open Dynamics.Install Dynamics.Staging Dynamics.Sections Dynamics.Turns Dynamics.Evolution
open Dynamics.Attempts Dynamics.Halting Dynamics.Serials Dynamics.Reopening Dynamics.Demotion
open Dynamics.Start Dynamics.Commits Dynamics.Carrying Dynamics.Recounting Dynamics.Framing
open Dynamics.Records Dynamics.Rereading Dynamics.Snapshots Dynamics.Compacting
open Dynamics.Journaling Dynamics.Integrity Dynamics.Restoring BurstAccounts ReplayedMemory
open TornTail
open OneInFlight hiding InFlight

variable {s t start : System} {life next : Life} {action : Action} {k : U64}
  {attempt old : EnforcementAttempt} {config : EngineConfig} {replay : Replay}
  {record : JournalRecord} {records : List JournalRecord}

def dead : AttemptState → Bool
  | .failed | .cancelled | .abandoned | .ambiguous | .lateRejected => true
  | _ => false

/-- The attempt of this number is Failed, Cancelled, Abandoned, Ambiguous or LateRejected. -/
def Dead (s : System) (k : U64) : Prop :=
  ∃ attempt, s.engine.tables.attempts.find k = some attempt ∧ dead attempt.state = true

/-- The attempt of this number is Verified. -/
def Succeeded (s : System) (k : U64) : Prop :=
  ∃ attempt, s.engine.tables.attempts.find k = some attempt ∧ attempt.state = .verified

instance (s : System) (k : U64) : Decidable (Dead s k) :=
  decidable_of_iff ((s.engine.tables.attempts.find k).any (dead ·.state) = true)
    (Option.any_eq_true _ _)

instance (s : System) (k : U64) : Decidable (Succeeded s k) :=
  decidable_of_iff ((s.engine.tables.attempts.find k).any (decide <| ·.state = .verified) = true)
    (by simp only [Option.any_eq_true, decide_eq_true_eq, Succeeded])

def Restores (k : U64) (life : Life) (restart : Restart) : Prop :=
  ∃ attempt, lastRecorded k (scanJournalFile (leftover life restart)).committed = some attempt ∧
    attempt.state = .verified

/-- The number is not given to a new attempt, and not restored as that of a Verified one. -/
def Keeps (k : U64) (life : Life) : Happening → Prop
  | .act action => ¬ issues k life.system (.act action)
  | .restart restart => ¬ Restores k life restart

def concerns (k : U64) (record : Staged) : Bool := (attempt? record).any (·.id.value = k)

/-- A section that restates the attempt while it is Verified finds room in the journal. A recovery
leaves no torn record there, and if it finds the attempt Verified, the journal has not failed and the
crash has taken no record of the attempt from it. -/
def Recalls (k : U64) (life : Life) : Happening → Prop
  | .act action => Succeeded life.system k →
      (stagedBy life.system action).any (concerns k) = true → Uncompacted life.system action
  | .restart restart =>
      Mends restart.truncate restart.crash.config (leftover life restart) restart.crash.demotedNs
        restart.crash.advancedNs restart.crash.io restart.tailIo ∧
      (Restores k life restart → ¬ Stuck life.system.engine.config life.system.engine.durability ∧
        lastRecorded k (scanJournalFile (leftover life restart)).committed =
          lastRecorded k (scanJournalFile (journalled life)).committed)

/-- The number is given to a new attempt. -/
def Renumbers (k : U64) (life : Life) : Happening → Prop
  | .act action => issues k life.system (.act action)
  | .restart _ => False

/-- The event runs the section that follows a readback which a backend gave for the attempt. -/
inductive ReadBackFor (s : System) (k : U64) : Event → Prop
  | apply {i : ℕ} {task : ApplyTask} {now clock : U64} {backend : Backend}
      {verification : VerificationOutcome}
      (call : s.calls[i]? = some (.applyPublishing task now (some backend) verification))
      (attempt : task.attempt.value = k) : ReadBackFor s k (.publish i clock)
  | revoke {i : ℕ} {task : RevokeTask} {now clock : U64} {backend : Backend}
      {verification : VerificationOutcome} {seen : EnvelopeState}
      (call : s.calls[i]? = some (.revokePublishing task now (some backend) verification seen))
      (attempt : task.attempt.value = k) : ReadBackFor s k (.publish i clock)

section Publishing

def Asked : Call → Prop
  | .applyPublishing _ _ backend verification | .revokePublishing _ _ backend verification _ =>
    backend = none → verification.status = .failed
  | _ => True

theorem asked_of_begins {event : Event} {status : Status} {call : Call}
    (h : Begins s event status call) : Asked call := by
  cases h with
  | applyVerified => exact fun hnone ↦ hnone ▸ rfl
  | revokeVerified => exact fun hnone ↦ hnone ▸ rfl
  | _ => trivial

theorem asked_liveStep {happening : Happening} (h : ∀ call ∈ life.system.calls, Asked call)
    (hstep : liveStep life happening = some next) : ∀ call ∈ next.system.calls, Asked call := by
  intro call hmem
  cases happening with
  | act action =>
    obtain ⟨system, hsystem, rfl⟩ := Option.map_eq_some_iff.1 hstep
    obtain hold | ⟨status, hbegins⟩ := calls_step hsystem hmem
    · exact h call hold
    · exact asked_of_begins hbegins
  | restart restart =>
    obtain ⟨engine, rfl, -⟩ := restarted_engine hstep
    cases hmem

theorem calls_of_starts (h : Starts s) : s.calls = [] := by
  cases h with
  | fresh hfresh => exact (empty_of_fresh hfresh).2
  | recovered => rfl

theorem asked_of_reaches (hstart : Starts life.system) (hrun : Reaches liveStep anyStep life next) :
    ∀ call ∈ next.system.calls, Asked call := by
  refine hrun.invariant (I := fun life ↦ ∀ call ∈ life.system.calls, Asked call)
    (fun call hmem ↦ ?_) fun _ _ _ h _ hstep ↦ asked_liveStep h hstep
  rw [calls_of_starts hstart] at hmem
  cases hmem

theorem lateAttempt_state (config : EngineConfig) (reason : ReasonCode) (effect : Bool)
    (detail : Text) (now : U64) :
    (lateAttempt config old reason effect detail now).state ≠ .verified := by
  unfold lateAttempt
  simp only
  split
  · exact nofun
  · next h => rw [not_not.1 h]; exact nofun

theorem answered_of_judgeApply {engine : Engine} {envelope : RateEnvelope} {request : ApplyRequest}
    {verification : VerificationOutcome} {now : U64}
    (h : (judgeApply engine envelope old request verification now).attempt.state = .verified) :
    verification.status ≠ .failed := by
  intro hfailed
  unfold judgeApply at h
  simp only [hfailed] at h
  cases h

theorem answered_of_judgedRevoke {verification : VerificationOutcome} {now : U64}
    (h : (judgedRevokeAttempt old verification now).state = .verified) :
    verification.status ≠ .failed := by
  intro hfailed
  unfold judgedRevokeAttempt revokeConfirmed at h
  simp only [hfailed] at h
  cases h

/-- A section that ends an attempt as Verified judges a readback a backend gave for it. -/
theorem readBack_of_verified {event : Event} {type : JournalRecordType}
    (hasked : ∀ call ∈ s.calls, Asked call) (h : Stages s event (.attempt type attempt))
    (hstate : attempt.state = .verified) : ReadBackFor s attempt.id.value event := by
  cases h with
  | @judgedApplyAttempt i task now clock backend verification old envelope judged =>
    have hanswered := answered_of_judgeApply hstate
    have hmem := List.mem_of_getElem? judged.call
    cases backend with
    | none => exact absurd (hasked _ hmem rfl) hanswered
    | some backend =>
      have hid : (judgeApply s.engine envelope old task.request verification now).attempt.id =
        old.id := congrArg AttemptIdentity.id judgeApply_attempt.1
      have hkey := Registry.key_of_find judged.storedAttempt
      exact .apply judged.call (hkey.symm.trans (congrArg (·.value) hid.symm))
  | @judgedRevokeAttempt i task now clock backend verification seen old envelope publishing =>
    have hanswered := answered_of_judgedRevoke hstate
    have hmem := List.mem_of_getElem? publishing.call
    cases backend with
    | none => exact absurd (hasked _ hmem rfl) hanswered
    | some backend =>
      have hid : (judgedRevokeAttempt old verification now).id = old.id :=
        congrArg AttemptIdentity.id judgedRevoke_attempt.1
      have hkey := Registry.key_of_find publishing.storedAttempt
      exact .revoke publishing.call (hkey.symm.trans (congrArg (·.value) hid.symm))
  | lateFinishAttempt => exact absurd hstate (lateAttempt_state _ _ _ _ _)
  | latePublishAttempt => exact absurd hstate (lateAttempt_state _ _ _ _ _)
  | refusedApplyAttempt => exact absurd hstate (refusedState_terminal _).2
  | refusedRevokeAttempt => exact absurd hstate (refusedState_terminal _).2
  | _ => cases hstate

end Publishing

section Runs

structure Ended (k : U64) (s : System) : Prop where
  idle : ∀ attempt, ¬ OneInFlight.InFlight s k attempt
  unsuccessful : ¬ Succeeded s k

theorem ended_of_dead (h : Dead s k) : Ended k s := by
  obtain ⟨attempt, hfind, hdead⟩ := h
  refine ⟨fun found hlive ↦ ?_, fun hsucceeded ↦ ?_⟩
  · obtain ⟨hfound, hinflight⟩ := hlive
    rw [hfind] at hfound
    cases hfound
    cases hstate : attempt.state with
    | failed | cancelled | abandoned | ambiguous | lateRejected =>
      rw [hstate] at hinflight
      cases hinflight
    | _ =>
      rw [hstate] at hdead
      cases hdead
  · obtain ⟨found, hfound, hstate⟩ := hsucceeded
    rw [hfind] at hfound
    cases hfound
    rw [hstate] at hdead
    cases hdead

theorem succeeded_step (hstep : step s action = some t) (h : Succeeded t k) :
    Succeeded s k ∨ ∃ type attempt, attempt.id.value = k ∧ attempt.state = .verified ∧
      Stages s action.event (.attempt type attempt) := by
  obtain ⟨attempt, hfind, hstate⟩ := h
  obtain hold | hcreated | ⟨type, hstages⟩ := attempt_step hstep hfind
  · exact .inl ⟨attempt, hold, hstate⟩
  · obtain ⟨envelope, hcreates⟩ := creates_of_stages hcreated
    rw [hcreates.state] at hstate
    cases hstate
  · have hkey := Registry.key_of_find hfind
    exact .inr ⟨type, attempt, hkey, hstate, hstages⟩

theorem acknowledged_of_stages {event : Event} {type : JournalRecordType}
    (h : Stages s event (.attempt type attempt)) (hstate : attempt.state = .verified) :
    ∃ old, s.engine.tables.attempts.find attempt.id.value = some old ∧
      old.state = .acknowledged := by
  obtain ⟨old, hfind, hmoves⟩ := moves_of_stages h
  exact ⟨old, hfind, hmoves.verified hstate⟩

theorem ended_step (h : Ended k s) (hnew : ¬ issues k s (.act action))
    (hstep : step s action = some t) : Ended k t := by
  refine ⟨idle_lifeStep hnew hstep h.idle, fun hsucceeded ↦ ?_⟩
  obtain hold | ⟨type, attempt, rfl, hstate, hstages⟩ := succeeded_step hstep hsucceeded
  · exact h.unsuccessful hold
  · obtain ⟨old, hfind, hacknowledged⟩ := acknowledged_of_stages hstages hstate
    exact h.idle old ⟨hfind, by rw [hacknowledged]; rfl⟩

theorem not_issues_of_lt (h : k < s.engine.control.nextAttemptId) :
    ¬ issues k s (.act action) := by
  rintro ⟨decision, attempt, hsection, hmem, rfl⟩
  obtain ⟨envelope, hcreates⟩ := creates_of_stages (stages_of_sectionOf hsection hmem)
  rw [hcreates.issued] at h
  exact UInt64.lt_irrefl _ h

theorem ended_step_of_issued (hissued : Issued s k) (h : Ended k s)
    (hstep : step s action = some t) : Ended k t := by
  obtain hstuck | hlt := hissued
  · have htables := (stuck_step hstuck hstep).2
    refine ⟨fun attempt hlive ↦ ?_, fun hsucceeded ↦ ?_⟩
    · rw [OneInFlight.InFlight, htables] at hlive
      exact h.idle attempt hlive
    · rw [Succeeded, htables] at hsucceeded
      exact h.unsuccessful hsucceeded
  · exact ended_step h (not_issues_of_lt hlt) hstep

theorem ended_liveStep {happening : Happening} (h : Ended k life.system)
    (hkeeps : Keeps k life happening) (hstep : liveStep life happening = some next) :
    Ended k next.system := by
  cases happening with
  | act action =>
    obtain ⟨system, hsystem, rfl⟩ := Option.map_eq_some_iff.1 hstep
    exact ended_step h hkeeps hsystem
  | restart restart =>
    obtain ⟨engine, rfl, hdone⟩ := restarted_engine hstep
    refine ⟨fun _ ↦ idle_of_starts (.recovered hdone), fun ⟨attempt, hfind, hstate⟩ ↦ ?_⟩
    obtain ⟨old, hold, rfl⟩ := recorded_of_recovered hdone hfind
    exact hkeeps ⟨old, hold, settledAttempt_verified.mp hstate⟩

/-- A journal in Strict durability that can be taken apart to its end, and does not say of a stored
attempt that it is Verified when it is not. -/
structure Recounted (k : U64) (s : System) : Prop where
  strict : s.engine.config.durability = .strict
  untorn : Kept Untorn s.engine.durability
  silent : Unsuccessful k s.engine.tables → Kept (Silent k) s.engine.durability

theorem unverified_of_not_succeeded (h : ¬ Succeeded s k) :
    Unverified (s.engine.tables.attempts.find k) :=
  fun attempt hfind hstate ↦ h ⟨attempt, hfind, hstate⟩

theorem concerned_of_staged {decision : Section} {staged : Staged}
    (hsection : sectionOf s action.event = some decision) (hmem : staged ∈ decision.records)
    (hattempt : attempt? staged = some attempt) (hk : attempt.id.value = k) :
    (stagedBy s action).any (concerns k) = true := by
  rw [stagedBy, hsection]
  refine List.any_eq_true.mpr ⟨staged, hmem, ?_⟩
  rw [concerns, hattempt, Option.any_some]
  exact decide_eq_true hk

theorem silent_committed (h : Recounted k s) {decision : Section}
    (hguard : Succeeded s k → (stagedBy s action).any (concerns k) = true → Uncompacted s action)
    (hsection : sectionOf s action.event = some decision) (hrecords : decision.records ≠ [])
    (hunsuccessful : Unsuccessful k
      (installed s.engine.config s.engine.tables decision.records)) :
    Kept (Silent k) (decision.commit s.engine action.io).durability := by
  have hreplayable : ∀ staged ∈ decision.records, Staged.Replayable staged ∨
      ∃ envelope, staged = .envelope .envelopeCounters envelope :=
    fun staged hmem ↦ replayable_of_stages (stages_of_sectionOf hsection hmem)
  have hadmissible := admissible_of_sectionOf hsection
  obtain ⟨attempt, hfind, hstate⟩ := hunsuccessful
  have hkey := Registry.key_of_find hfind
  cases hsweeps : sweeps action.event with
  | true =>
    have hold : Unsuccessful k s.engine.tables := by
      obtain ⟨staged, hmem, hattempt⟩ | hold := installed_attempts _ _ hfind
      · obtain ⟨-, old, hfound, hlive⟩ :=
          inflight_of_sweep (stages_of_sectionOf hsection hmem) hsweeps hattempt
        refine ⟨old, hkey ▸ hfound, fun hverified ↦ ?_⟩
        rw [hverified] at hlive
        cases hlive
      · exact ⟨attempt, hold, hstate⟩
    refine kept_commit lasting_silent (unsuccessful_unverified hold) (h.silent hold) hadmissible ?_
    intro entry hentry
    obtain ⟨staged, hmem, rfl⟩ := List.mem_map.mp hentry
    refine spares_record (hreplayable staged hmem) fun attempt hattempt _ ↦ ?_
    exact (inflight_of_sweep (stages_of_sectionOf hsection hmem) hsweeps hattempt).1
  | false =>
    have hwhole := whole_of_sectionOf hsection hsweeps
    have hcontents : contents s.engine decision ≠ [] := fun hnil ↦
      hrecords (List.map_eq_nil_iff.mp hnil)
    unfold Decision.commit
    rw [hwhole, if_neg Bool.false_ne_true]
    refine silent_commitRecords h.strict h.untorn hadmissible hcontents
      (fun journal scan fresh hhealthy hjournal hopen hclean hfresh ↦ ?_) ?_
    · rw [lastRecorded_append]
      refine unverified_installed (fun hold ↦ ?_) hreplayable (fun created hmem ↦ ?_) hfresh
        ⟨attempt, hfind, hstate⟩
      · have hkept := (h.silent hold).resolve_left (by rw [hhealthy]; exact Bool.false_ne_true)
        obtain ⟨-, scan', hclean', -, hlast⟩ := hkept journal hjournal hopen
        rwa [← hclean.scanBytes, hclean'.scanBytes]
      · obtain ⟨envelope, hcreates⟩ := creates_of_stages (stages_of_sectionOf hsection hmem)
        rw [hcreates.state]
        rintro ⟨⟩
    · by_cases hsucceeded : Succeeded s k
      · right
        obtain ⟨staged, hmem, hattempt⟩ | hold := installed_attempts _ _ hfind
        · have hroom := hguard hsucceeded (concerned_of_staged hsection hmem hattempt hkey) decision
            hsection
          rwa [sectionSize, if_neg hrecords, hwhole, if_neg Bool.false_ne_true] at hroom
        · obtain ⟨verified, hfound, hverified⟩ := hsucceeded
          rw [hold] at hfound
          cases hfound
          exact absurd hverified hstate
      · exact .inl (unverified_of_not_succeeded hsucceeded)

theorem recounted_step (h : Recounted k s)
    (hguard : Succeeded s k → (stagedBy s action).any (concerns k) = true → Uncompacted s action)
    (hstep : step s action = some t) : Recounted k t where
  strict := (config_step hstep).symm ▸ h.strict
  untorn := kept_step stable_untorn h.untorn hstep
  silent hunsuccessful := by
    obtain ⟨decision, hsection, hturn⟩ := turn_of_step hstep
    cases hturn with
    | quiet => exact h.silent hunsuccessful
    | failed records status => exact kept_of_stuck (stuck_of_commit status)
    | committed records => exact silent_committed h hguard hsection records hunsuccessful

theorem recounted_liveStep {happening : Happening} (h : Recounted k life.system)
    (hguard : Recalls k life happening) (hstep : liveStep life happening = some next) :
    Recounted k next.system := by
  cases happening with
  | act action =>
    obtain ⟨system, hsystem, rfl⟩ := Option.map_eq_some_iff.1 hstep
    exact recounted_step h hguard hsystem
  | restart restart =>
    obtain ⟨engine, rfl, hdone⟩ := restarted_engine hstep
    refine ⟨strict_of_recovered hdone, untorn_of_recovered hguard.1 hdone, ?_⟩
    rintro ⟨attempt, hfind, hstate⟩
    obtain ⟨old, hold, rfl⟩ := recorded_of_recovered hdone hfind
    rw [ne_eq, settledAttempt_verified] at hstate
    refine silent_of_recovered hguard.1 ?_ hdone
    rw [hold]
    rintro _ ⟨⟩
    exact hstate

/-- An attempt that has come to another end than success, in memory and in the journal. -/
structure Buried (k : U64) (s : System) : Prop extends Ended k s where
  strict : s.engine.config.durability = .strict
  silent : Kept (Silent k) s.engine.durability

theorem buried_step (h : Buried k s) (hnew : ¬ issues k s (.act action))
    (hstep : step s action = some t) : Buried k t where
  toEnded := ended_step h.toEnded hnew hstep
  strict := (config_step hstep).symm ▸ h.strict
  silent := by
    obtain ⟨decision, hsection, rfl⟩ := Option.map_eq_some_iff.1 hstep
    refine kept_perform lasting_silent (unverified_of_not_succeeded h.unsuccessful) h.silent
      (admissible_of_sectionOf hsection) fun entry hentry ↦ ?_
    obtain ⟨staged, hmem, rfl⟩ := List.mem_map.mp hentry
    have hstages := stages_of_sectionOf hsection hmem
    refine spares_record (replayable_of_stages hstages) fun attempt hattempt hk hstate ↦ ?_
    cases staged with
    | created created =>
      cases hattempt
      exact hnew ⟨decision, attempt, hsection, hmem, hk⟩
    | attempt type staged =>
      cases hattempt
      obtain ⟨old, hfind, hacknowledged⟩ := acknowledged_of_stages hstages hstate
      exact h.idle old ⟨hk ▸ hfind, by rw [hacknowledged]; rfl⟩
    | _ => cases hattempt

/-- A recovery finds no success of an attempt that the journal of its predecessor did not leave
Verified. -/
theorem not_restores (hstrict : life.system.engine.config.durability = .strict)
    (hsilent : Kept (Silent k) life.system.engine.durability) {restart : Restart}
    (hguard : Recalls k life (.restart restart)) : ¬ Restores k life restart := by
  intro hrestores
  obtain ⟨hworking, hretained⟩ := hguard.2 hrestores
  obtain ⟨hhealthy, journal, hjournal, hopen⟩ := working_of_not_stuck hstrict hworking
  obtain ⟨-, scan, hclean, -, hlast⟩ :=
    (hsilent.resolve_left (by rw [hhealthy]; exact Bool.false_ne_true)) journal hjournal hopen
  have hfile : journalled life = journal.file := by
    rw [journalled, fileOf, hjournal]
    rfl
  obtain ⟨attempt, hrecorded, hverified⟩ := hrestores
  rw [hretained, hfile] at hrecorded
  by_cases hsize : journal.file.length ≤ kJournalMaxScanBytes
  · rw [scanJournalFile_of_clean hclean hsize, (finish_tail scan).2.2.1] at hrecorded
    exact hlast attempt hrecorded hverified
  · -- A file beyond the scanner's bound yields no record at all.
    rw [scanJournalFile, if_pos (Nat.lt_of_not_le hsize)] at hrecorded
    cases hrecorded

theorem buried_liveStep {happening : Happening} (h : Buried k life.system)
    (hguard : Recalls k life happening) (hnew : ¬ Renumbers k life happening)
    (hstep : liveStep life happening = some next) : Buried k next.system := by
  cases happening with
  | act action =>
    obtain ⟨system, hsystem, rfl⟩ := Option.map_eq_some_iff.1 hstep
    exact buried_step h hnew hsystem
  | restart restart =>
    obtain ⟨engine, rfl, hdone⟩ := restarted_engine hstep
    have hrestores := not_restores h.strict h.silent hguard
    refine ⟨⟨fun _ ↦ idle_of_starts (.recovered hdone), ?_⟩, strict_of_recovered hdone,
      silent_of_recovered hguard.1 (fun attempt hold hverified ↦ hrestores ⟨attempt, hold, hverified⟩)
        hdone⟩
    rintro ⟨attempt, hfind, hstate⟩
    obtain ⟨old, hold, rfl⟩ := recorded_of_recovered hdone hfind
    exact hrestores ⟨old, hold, settledAttempt_verified.mp hstate⟩

theorem recounted_of_fresh (hfresh : Fresh s) (hstrict : s.engine.config.durability = .strict)
    (huntorn : Kept Untorn s.engine.durability) : Recounted k s := by
  obtain ⟨⟨epoch, htables⟩, -⟩ := empty_of_fresh hfresh
  refine ⟨hstrict, huntorn, ?_⟩
  rintro ⟨attempt, hfind, -⟩
  rw [htables] at hfind
  cases hfind

theorem dead_unsuccessful (h : Dead s k) : Unsuccessful k s.engine.tables := by
  obtain ⟨attempt, hfind, hdead⟩ := h
  refine ⟨attempt, hfind, fun hverified ↦ ?_⟩
  rw [hverified] at hdead
  cases hdead

/-- How an attempt that was not Verified becomes so. -/
def Verifies (k : U64) (life : Life) : Happening → Prop
  | .act action => ReadBackFor life.system k action.event ∧ ∃ attempt,
      life.system.engine.tables.attempts.find k = some attempt ∧ attempt.state = .acknowledged
  | .restart restart => Restores k life restart

/-- An attempt that is not Verified becomes so only in the section that follows a readback for it, or
by a recovery from a journal that says so. -/
theorem verifies_of_liveStep (hstart : Starts life.system) {now : Life} {happening : Happening}
    (hrun : Reaches liveStep anyStep life now) (hstep : liveStep now happening = some next)
    (hsucceeded : Succeeded next.system k) : Succeeded now.system k ∨ Verifies k now happening := by
  cases happening with
  | act action =>
    obtain ⟨system, hsystem, rfl⟩ := Option.map_eq_some_iff.1 hstep
    obtain hold | ⟨type, attempt, rfl, hstate, hstages⟩ := succeeded_step hsystem hsucceeded
    · exact .inl hold
    · exact .inr ⟨readBack_of_verified (asked_of_reaches hstart hrun) hstages hstate,
        acknowledged_of_stages hstages hstate⟩
  | restart restart =>
    obtain ⟨engine, rfl, hdone⟩ := restarted_engine hstep
    obtain ⟨attempt, hfind, hstate⟩ := hsucceeded
    obtain ⟨old, hold, rfl⟩ := recorded_of_recovered hdone hfind
    exact .inr ⟨old, hold, settledAttempt_verified.mp hstate⟩

/-- An attempt that the journal recalls as ended in another way stays so through recoveries. -/
theorem never_succeeds_of_recounted {now later : Life} (h : Recounted k now.system)
    (hdead : Dead now.system k) (hlater : Reaches liveStep
      (fun life happening ↦ Recalls k life happening ∧ ¬ Renumbers k life happening) now later) :
    ¬ Succeeded later.system k := by
  have hburied : Buried k later.system := hlater.invariant
    ⟨ended_of_dead hdead, h.strict, h.silent (dead_unsuccessful hdead)⟩
    fun _ _ _ h hok hstep ↦ buried_liveStep h hok.1 hok.2 hstep
  exact hburied.unsuccessful

theorem verified_of_recounted {now : Life} {happening : Happening} (h : Recounted k now.system)
    (hstart : Starts life.system) (hrun : Reaches liveStep anyStep life now)
    (hguard : Recalls k now happening) (hstep : liveStep now happening = some next)
    (hfind : now.system.engine.tables.attempts.find k = some attempt)
    (hsucceeded : Succeeded next.system k) :
    attempt.state = .verified ∨ attempt.state = .acknowledged ∧
      ∃ action, happening = .act action ∧ ReadBackFor now.system k action.event := by
  by_cases hverified : attempt.state = .verified
  · exact .inl hverified
  · right
    cases happening with
    | act action =>
      obtain ⟨verified, hfound, hstate⟩ | ⟨hreadBack, old, hold, hacknowledged⟩ :=
        verifies_of_liveStep hstart hrun hstep hsucceeded
      · rw [hfind] at hfound
        cases hfound
        exact absurd hstate hverified
      · rw [hfind] at hold
        cases hold
        exact ⟨hacknowledged, action, rfl, hreadBack⟩
    | restart restart =>
      obtain ⟨engine, rfl, hdone⟩ := restarted_engine hstep
      obtain ⟨recovered, hfound, hstate⟩ := hsucceeded
      obtain ⟨old, hold, rfl⟩ := recorded_of_recovered hdone hfound
      exact absurd ⟨old, hold, settledAttempt_verified.mp hstate⟩
        (not_restores h.strict (h.silent ⟨attempt, hfind, hverified⟩) hguard)

/-- Through operations, crashes and recoveries in any order, an attempt that has come to another end
is not Verified later for as long as its number is not given to a new one and no recovery reads a
journal in which the last word on it is Verified. In Strict durability no recovery does that, if no
section has restated the attempt while it was Verified in a commit that compacts the journal, no
recovery leaves a torn record in it, and none finds the attempt Verified in a journal that has failed
or that has lost a record of the attempt to the crash. An engine does not give a number again before
its counter wraps. An attempt becomes Verified only from Acknowledged and in the section that follows
a readback for it, or by a recovery from a journal that says so. -/
theorem dead_never_succeeds (hstart : Starts life.system) {now : Life}
    (hrun : Reaches liveStep anyStep life now) :
    (Dead now.system k → ∀ later, Reaches liveStep (Keeps k) now later →
      ¬ Succeeded later.system k) ∧
    (Fresh life.system → Reaches step (fun s _ ↦ Serviceable s) life.system now.system →
      Dead now.system k → ∀ t, Reaches step (fun s _ ↦ Serviceable s) now.system t →
      ¬ Succeeded t k) ∧
    (∀ happening next, liveStep now happening = some next → Succeeded next.system k →
      Succeeded now.system k ∨ Verifies k now happening) ∧
    (Fresh life.system → life.system.engine.config.durability = .strict →
      Kept Untorn life.system.engine.durability → Reaches liveStep (Recalls k) life now →
      (Dead now.system k → ∀ later, Reaches liveStep
          (fun life happening ↦ Recalls k life happening ∧ ¬ Renumbers k life happening) now later →
        ¬ Succeeded later.system k) ∧
      ∀ happening next attempt, Recalls k now happening → liveStep now happening = some next →
        now.system.engine.tables.attempts.find k = some attempt → Succeeded next.system k →
        attempt.state = .verified ∨ attempt.state = .acknowledged ∧
          ∃ action, happening = .act action ∧ ReadBackFor now.system k action.event) := by
  refine ⟨fun hdead later hlater ↦ ?_, fun hfresh hsteps hdead t hlater ↦ ?_,
    fun happening next hstep hsucceeded ↦ verifies_of_liveStep hstart hrun hstep hsucceeded,
    fun hfresh hstrict huntorn hrecalls ↦ ?_⟩
  · have hended : Ended k later.system := hlater.invariant (ended_of_dead hdead)
      fun _ _ _ h hkeeps hstep ↦ ended_liveStep h hkeeps hstep
    exact hended.unsuccessful
  · have hserials : SerialsAhead now.system := hsteps.invariant (serialsAhead_of_fresh hfresh)
      fun _ _ _ h hroom hstep ↦ serialsAhead_step hroom h hstep
    have hissued : Issued now.system k := by
      obtain ⟨attempt, hfind, -⟩ := hdead
      exact hserials k attempt hfind
    have hended : Issued t k ∧ Ended k t := hlater.invariant (I := fun t ↦ Issued t k ∧ Ended k t)
      ⟨hissued, ended_of_dead hdead⟩
      fun _ _ _ h hroom hstep ↦ ⟨issued_step hroom h.1 hstep, ended_step_of_issued h.1 h.2 hstep⟩
    exact hended.2.unsuccessful
  · have hrecounted : Recounted k now.system :=
      hrecalls.invariant (recounted_of_fresh hfresh hstrict huntorn)
        fun _ _ _ h hguard hstep ↦ recounted_liveStep h hguard hstep
    exact ⟨fun hdead later hlater ↦ never_succeeds_of_recounted hrecounted hdead hlater,
      fun happening next attempt hguard hstep hfind hsucceeded ↦
        verified_of_recounted hrecounted hstart hrun hguard hstep hfind hsucceeded⟩

end Runs

section Samples

theorem recalls_acts (hrun : Reaches step Appends start s) :
    Reaches liveStep (Recalls k) { system := start } { system := s } := by
  induction hrun with
  | refl => exact .refl
  | @tail t u action _ hok hstep ih =>
    refine .tail ih (a := .act action) (fun _ _ ↦ hok.1) ?_
    simp only [liveStep, acted, hstep, Option.map_some, ite_self]

def lateReport : CompletionReport :=
  { status := .completed, acknowledged := true, epoch := ⟨1⟩, boot := ⟨1⟩ }

/-- An apply is left pending, and two completions of it acknowledge before either publishes. -/
def overlapped : List Action :=
  register ++ [⟨.openEnvelope sampleRequest actor 5, []⟩,
    ⟨.apply ⟨1⟩ actor 5 { epoch := ⟨1⟩, boot := ⟨1⟩ }, []⟩,
    ⟨.dispatched 0 { status := .pending }, []⟩, ⟨.readClock 0 6, []⟩, ⟨.finish 0, []⟩,
    ⟨.completeApply ⟨1⟩ lateReport actor, []⟩, ⟨.completeApply ⟨1⟩ lateReport actor, []⟩,
    ⟨.readClock 0 7, []⟩, ⟨.readClock 1 7, []⟩, ⟨.finish 0, []⟩, ⟨.finish 1, []⟩,
    ⟨.readBack 0 samplePresent 7, []⟩, ⟨.readBack 1 samplePresent 7, []⟩, ⟨.publish 0 7, []⟩]

def secondPublish : Action := ⟨.publish 0 7, []⟩

theorem untorn_journalledStart : Kept Untorn journalledStart.engine.durability := by
  obtain ⟨journal, scan, hjournal, hsound, hclosed, -⟩ := logging_journalledStart.sound
  refine .inr fun other hother _ ↦ ?_
  rw [hjournal] at hother
  cases hother
  exact ⟨hclosed, scan, hsound.clean, hsound.status⟩

theorem late_never_succeeds : ∃ now : Life, Dead now.system 1 ∧
    ∀ later, Reaches liveStep
        (fun life happening ↦ Recalls 1 life happening ∧ ¬ Renumbers 1 life happening) now later →
      ¬ Succeeded later.system 1 := by
  have hok : Guarded step Appends journalledStart (overlapped ++ [secondPublish]) := by
    decide +kernel
  have htest : (run step journalledStart (overlapped ++ [secondPublish])).any
      (decide <| Dead · 1) = true := by
    decide +kernel
  obtain ⟨s, hrun, hdead⟩ := (Option.any_eq_true _ _).mp htest
  have hreaches := reaches_of_run hok hrun
  have hrecalls : Reaches liveStep (Recalls 1) { system := journalledStart } { system := s } :=
    recalls_acts hreaches
  refine ⟨{ system := s }, of_decide_eq_true hdead, ?_⟩
  have hfresh : Fresh journalledStart := ⟨_, _, _, _, _, rfl⟩
  have hany : Reaches liveStep anyStep { system := journalledStart } { system := s } :=
    hrecalls.mono fun _ _ _ ↦ trivial
  exact ((dead_never_succeeds (.fresh hfresh) hany).2.2.2 hfresh rfl untorn_journalledStart
    hrecalls).1 (of_decide_eq_true hdead)

/-- An engine whose journal is compacted once the second completion is in it. -/
def crowdedStart : System :=
  { engine := (construct {} (some ⟨sampleBackend⟩) { epoch := ⟨1⟩, boot := ⟨1⟩ }
      (some (newJournal { maxBytes := 7000 })) []).1 }

def snapshotOf (s : System) : List (JournalRecordType × Bytes) :=
  buildSnapshotRecords s.engine.config s.engine.tables

def recoversVerified (s : System) : Bool :=
  match recoverFrom {} ((content compactedHeader :: snapshotOf s).map unplaced)
    (compactedFile (snapshotOf s)) 9 9 [] with
  | .ok engine => decide (Succeeded { engine } 1)
  | .error _ => false

theorem compacted_step {u : System} (hstep : step u action = some s)
    (hsweeps : sweeps action.event = false)
    (h : s.engine.durability.compactions ≠ u.engine.durability.compactions) :
    fileOf s.engine.durability = compactedFile (snapshotOf u) := by
  obtain ⟨decision, hsection, hturn⟩ := turn_of_step hstep
  have hwhole := whole_of_sectionOf hsection hsweeps
  have hcommit : decision.commit u.engine action.io = commitRecords u.engine.config u.engine.tables
      u.engine.durability (contents u.engine decision) action.io := by
    unfold Decision.commit
    rw [hwhole, if_neg Bool.false_ne_true]
    rfl
  cases hturn with
  | quiet => exact absurd rfl h
  | failed =>
    simp only [hcommit] at h ⊢
    exact compacted_of_commitRecords h
  | committed =>
    simp only [hcommit] at h ⊢
    exact compacted_of_commitRecords h

def forgets (u s : System) : Bool :=
  decide (Dead s 1) && s.engine.durability.journal.isSome &&
    decide (s.engine.durability.compactions ≠ u.engine.durability.compactions) &&
    decide ((compactedFile (snapshotOf u)).length ≤ kJournalMaxScanBytes)

theorem recovered_of_forgets {u : System} (hstep : step u secondPublish = some s)
    (h : forgets u s = true) (hrecovers : recoversVerified u = true) : Dead s 1 ∧ ∃ later,
      liveStep { system := s } (.restart (wholeRestart { system := s })) = some later ∧
      Succeeded later.system 1 := by
  simp only [forgets, Bool.and_eq_true, decide_eq_true_eq] at h
  obtain ⟨⟨⟨hdead, hjournal⟩, hcount⟩, hsize⟩ := h
  have hrecover := recoverEngine_compacted (fun _ (hmem : _ ∈ snapshotOf u) ↦ (snapshot_entries hmem).1)
    (fun _ hmem ↦ (snapshot_entries hmem).2) hsize {} 9 9 []
  unfold recoversVerified at hrecovers
  split at hrecovers
  · next engine hengine =>
    rw [hengine, ← compacted_step hstep rfl hcount] at hrecover
    exact ⟨hdead, _, restart_whole hjournal hrecover, of_decide_eq_true hrecovers⟩
  · cases hrecovers

/-- The second completion ends the attempt as LateRejected, and the compaction in its commit takes
that back: the recovery finds the attempt Verified. -/
theorem rejected_then_verified : Fresh crowdedStart ∧ ∃ now later : Life,
    Reaches liveStep anyStep { system := crowdedStart } now ∧ Dead now.system 1 ∧
    liveStep now (.restart (wholeRestart now)) = some later ∧ Succeeded later.system 1 := by
  have htest : (run step crowdedStart overlapped).any (fun u ↦
      recoversVerified u && (step u secondPublish).any (forgets u)) = true := by
    decide +kernel
  obtain ⟨u, hrun, htest⟩ := (Option.any_eq_true _ _).mp htest
  obtain ⟨hrecovers, htest⟩ := Bool.and_eq_true_iff.mp htest
  obtain ⟨s, hstep, hforgets⟩ := (Option.any_eq_true _ _).mp htest
  obtain ⟨hdead, later, hrestart, hsucceeded⟩ := recovered_of_forgets hstep hforgets hrecovers
  have hreaches : Reaches step anyStep crowdedStart s :=
    .tail (reaches_of_run (guarded_anyStep _ _) hrun) trivial hstep
  exact ⟨⟨_, _, _, _, _, rfl⟩, { system := s }, later,
    (BurstAccounts.reaches_acts hreaches).mono fun _ _ _ ↦ trivial, hdead, hrestart, hsucceeded⟩

end Samples

end RateGovernor.Safety.DeadAttempts
