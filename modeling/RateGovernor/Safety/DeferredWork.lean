import Mathlib.Data.List.Perm.Subperm
import RateGovernor.Dynamics.Attempts
import RateGovernor.Dynamics.Driving
import RateGovernor.Dynamics.Furnishing
import RateGovernor.Dynamics.Ticking

namespace RateGovernor.Safety.DeferredWork

open Model.CheckedMath Model.Identity Model.Reason Model.Entities Model.Envelope Model.EngineState
open Model.Bucket Model.JournalWriter Model.Durability Model.Authority Model.Calls Model.Lifecycle
open Model.Revocation Model.Maintenance Model.Execution Foundation.KeyedTable
open Foundation.GuardedRun Dynamics.Install Dynamics.Sections Dynamics.Turns Dynamics.Evolution
open Dynamics.Attempts Dynamics.Driving Dynamics.Passes Dynamics.Ticking Dynamics.Furnishing
open Dynamics.Start

variable {s t : System} {tables : Tables} {envelope : RateEnvelope} {now k : U64} {lost : Bool}

section Envelopes

structure Disclaimed (envelope : RateEnvelope) : Prop where
  notApplied : envelope.state ≠ .applied
  notVerified : envelope.effectVerified = false

/-- What a tick does about an applied envelope whose authority is gone: it comes to the envelope
before 512 updates are collected and the recorded reason is another, or it times an attempt of it
out, or it finds the session lost and does not come to the envelope. -/
def handled (tables : Tables) (now : U64) (lost : Bool) (envelope : RateEnvelope) : Bool :=
  expired tables now envelope ||
    (decide (backlog tables now lost envelope.id.value < kMaxTickEnvelopeTransitions) &&
      decide (envelope.reason ≠ authorityStatus tables envelope now)) ||
    (lost && !reached tables now lost envelope)

theorem authority_restored (tables : Tables) (now : U64) (envelope : RateEnvelope) :
    authorityStatus tables (restored now envelope) now = authorityStatus tables envelope now := by
  unfold restored cooldownStage refillStage
  split <;> split <;> rfl

theorem reason_restored (h : envelope.state = .applied) :
    (restored now envelope).reason = envelope.reason := by
  have hstate : (refillStage envelope now).1.state = .applied ∧
      (refillStage envelope now).1.reason = envelope.reason := by
    unfold refillStage
    split <;> exact ⟨h, rfl⟩
  unfold restored cooldownStage
  split
  · exact hstate.2
  · simp only [hstate.1, reduceCtorEq, decide_false, Bool.false_and, Bool.false_eq_true, if_false]
    exact hstate.2

theorem state_restored_of_applied (h : envelope.state = .applied) :
    (restored now envelope).state = .applied := by
  obtain hsame | ⟨hdegraded, -⟩ := state_restored now envelope
  · exact hsame.trans h
  · cases h.symm.trans hdegraded

theorem outlived_iff (h : envelope.state = .applied)
    (hgone : authorityStatus tables envelope now ≠ .none) :
    outlived tables now envelope = true ↔
      envelope.reason ≠ authorityStatus tables envelope now := by
  unfold outlived goesStale
  rw [authority_restored, reason_restored h, state_restored_of_applied h]
  simp only [hgone, ne_eq, not_false_eq_true, decide_true, Bool.true_and, reduceCtorEq,
    Bool.and_true, decide_eq_true_eq]

theorem disclaimed_lost : Disclaimed ((sessionLostEnvelope envelope).getD envelope) := by
  unfold sessionLostEnvelope
  simp only
  split
  · next hnone =>
    simp only [Bool.not_eq_true', Bool.or_eq_false_iff, decide_eq_false_iff_not] at hnone
    exact ⟨hnone.2.1, hnone.1.1⟩
  · rw [Option.getD_some]
    refine ⟨?_, rfl⟩
    by_cases happlied : envelope.state = .applied
    · simp only [happlied, decide_true, Bool.true_or, if_true]
      exact nofun
    · simp only
      split
      · exact nofun
      · exact happlied

theorem disclaimed_outlived (h : outlived tables now envelope = true) :
    Disclaimed (maintained tables envelope now) := by
  rw [maintained_of_outlived h]
  refine ⟨?_, rfl⟩
  simp only
  split <;> exact nofun

theorem disclaimed_ticked (h : Disclaimed envelope) :
    Disclaimed (ticked tables now lost envelope) := by
  unfold ticked rewritten
  split
  · exact ⟨nofun, rfl⟩
  · split
    · rw [Option.getD_some]
      cases houtlived : outlived tables now envelope with
      | true => exact disclaimed_outlived houtlived
      | false =>
        rw [maintained_of_not_outlived houtlived]
        refine ⟨?_, (same_restored now envelope).1.trans h.notVerified⟩
        obtain hsame | ⟨-, hauthorized⟩ := state_restored now envelope
        · exact fun happlied ↦ h.notApplied (hsame.symm.trans happlied)
        · exact fun happlied ↦ by cases hauthorized.symm.trans happlied
    · split
      · exact disclaimed_lost
      · exact h

theorem reached_of_outlived (h : outlived tables now envelope = true) :
    reached tables now lost envelope =
      decide (backlog tables now lost envelope.id.value < kMaxTickEnvelopeTransitions) := by
  have htouched : touched tables now envelope = true := by
    unfold touched
    simp only [Bool.or_eq_true]
    exact .inr h
  rw [reached, htouched, Bool.true_and]

theorem ticked_applied (h : envelope.state = .applied)
    (hgone : authorityStatus tables envelope now ≠ .none) :
    if handled tables now lost envelope = true then Disclaimed (ticked tables now lost envelope)
    else (ticked tables now lost envelope).state = .applied := by
  unfold handled ticked rewritten
  cases expired tables now envelope with
  | true => exact ⟨nofun, rfl⟩
  | false =>
    simp only [Bool.false_or, Bool.false_eq_true, if_false]
    cases houtlived : outlived tables now envelope with
    | true =>
      rw [decide_eq_true ((outlived_iff h hgone).1 houtlived), reached_of_outlived houtlived,
        Bool.and_true]
      cases decide (backlog tables now lost envelope.id.value < kMaxTickEnvelopeTransitions) with
      | true => exact disclaimed_outlived houtlived
      | false =>
        cases lost with
        | true => exact disclaimed_lost
        | false => exact h
    | false =>
      have hsaid : ¬ envelope.reason ≠ authorityStatus tables envelope now := fun hother ↦
        Bool.false_ne_true (houtlived.symm.trans ((outlived_iff h hgone).2 hother))
      rw [decide_eq_false hsaid, Bool.and_false, Bool.false_or]
      cases reached tables now lost envelope with
      | true =>
        simp only [Bool.not_true, Bool.and_false, Bool.false_eq_true, if_false, if_true,
          Option.getD_some]
        rw [maintained_of_not_outlived houtlived]
        exact state_restored_of_applied h
      | false =>
        cases lost with
        | true => exact disclaimed_lost
        | false => exact h

end Envelopes

section Ticks

/-- A tick, with the clock reading and the session it finds and what the journal answers it. -/
structure Round where
  now : U64
  session : Session
  io : Io := []

def Round.action (round : Round) : Action := ⟨.tick round.now round.session, round.io⟩

def after (s : System) (round : Round) : System :=
  performed s round.io (once s (tick s.engine round.now round.session))

variable {round : Round} {rounds : List Round}

def EveryTick (P : System → Round → Prop) : System → List Round → Prop
  | _, [] => True
  | s, round :: rest => P s round ∧ EveryTick P (after s round) rest

/-- The condition holds at one of the ticks, in the state that tick finds. -/
def SomeTick (P : System → Round → Prop) : System → List Round → Prop
  | _, [] => False
  | s, round :: rest => P s round ∨ SomeTick P (after s round) rest

theorem run_rounds (s : System) (rounds : List Round) :
    run step s (rounds.map Round.action) = some (rounds.foldl after s) := by
  induction rounds generalizing s with
  | nil => rfl
  | cons round rounds ih => exact ih (after s round)

theorem recorded_rounds : Recorded s ((round :: rounds).map Round.action) ↔
    Recorded s [round.action] ∧ Recorded (after s round) (rounds.map Round.action) := by
  have hsection : sectionOf s round.action.event =
      some (once s (tick s.engine round.now round.session)) := rfl
  rw [List.map_cons, recorded_section hsection, recorded_section hsection]
  simp only [Recorded, and_true]
  rfl

theorem tables_after (h : Recorded s [round.action]) :
    (after s round).engine.tables = installed s.engine.config s.engine.tables
      (tick s.engine round.now round.session).records := by
  have hsection : sectionOf s round.action.event =
      some (once s (tick s.engine round.now round.session)) := rfl
  exact (performed_settled ((recorded_section hsection).1 h).1).tables

theorem find_after (h : Recorded s [round.action]) (k : U64) :
    (after s round).engine.tables.envelopes.find k =
      (s.engine.tables.envelopes.find k).map
        (ticked s.engine.tables round.now (losesSession s.engine round.session)) := by
  rw [tables_after h]
  exact tick_find s.engine s.engine.config round.now round.session k

def Orphaned (k : U64) (s : System) (round : Round) : Prop :=
  ∀ envelope, s.engine.tables.envelopes.find k = some envelope →
    authorityStatus s.engine.tables envelope round.now ≠ .none

def Handled (k : U64) (s : System) (round : Round) : Prop :=
  ∃ envelope, s.engine.tables.envelopes.find k = some envelope ∧
    handled s.engine.tables round.now (losesSession s.engine round.session) envelope = true

theorem disclaimed_rounds (hrecorded : Recorded s (rounds.map Round.action))
    (hfind : s.engine.tables.envelopes.find k = some envelope) (h : Disclaimed envelope) :
    ∃ new, (rounds.foldl after s).engine.tables.envelopes.find k = some new ∧ Disclaimed new := by
  induction rounds generalizing s envelope with
  | nil => exact ⟨envelope, hfind, h⟩
  | cons round rounds ih =>
    obtain ⟨hfirst, hrest⟩ := recorded_rounds.1 hrecorded
    have hnew := find_after hfirst k
    rw [hfind, Option.map_some] at hnew
    exact ih hrest hnew (disclaimed_ticked h)

theorem disclaimed_rounds_iff (hrecorded : Recorded s (rounds.map Round.action))
    (hgone : EveryTick (Orphaned k) s rounds)
    (hfind : s.engine.tables.envelopes.find k = some envelope) (h : envelope.state = .applied) :
    (∃ new, (rounds.foldl after s).engine.tables.envelopes.find k = some new ∧ Disclaimed new) ↔
      SomeTick (Handled k) s rounds := by
  induction rounds generalizing s envelope with
  | nil =>
    refine ⟨?_, False.elim⟩
    rintro ⟨new, hnew, hdisclaimed⟩
    cases hfind.symm.trans hnew
    exact hdisclaimed.notApplied h
  | cons round rounds ih =>
    obtain ⟨hfirst, hrest⟩ := recorded_rounds.1 hrecorded
    have hnew := find_after hfirst k
    rw [hfind, Option.map_some] at hnew
    have hticked := @ticked_applied s.engine.tables envelope round.now
      (losesSession s.engine round.session) h (hgone.1 envelope hfind)
    by_cases hhandled : handled s.engine.tables round.now
        (losesSession s.engine round.session) envelope = true
    · rw [if_pos hhandled] at hticked
      have hend := disclaimed_rounds hrest hnew hticked
      exact iff_of_true hend (.inl ⟨envelope, hfind, hhandled⟩)
    · rw [if_neg hhandled] at hticked
      refine (ih hrest hgone.2 hnew hticked).trans ⟨.inr, fun hsome ↦ hsome.resolve_left ?_⟩
      rintro ⟨envelope', hfind', hhandled'⟩
      cases hfind.symm.trans hfind'
      exact hhandled hhandled'

end Ticks

section Starvation

variable {keys : List U64} {round : Round} {rounds : List Round} {next : U64}

def Filling (now : U64) (envelope : RateEnvelope) : Prop :=
  envelope.bucket.initialized = true ∧ envelope.bucket.lastRefillNs < now

theorem refill_of_filling {bucket : TokenBucket} (hinitialized : bucket.initialized = true)
    (hlast : bucket.lastRefillNs < now) :
    (refillBucket bucket now).2.elapsedNs = now - bucket.lastRefillNs ∧
      (refillBucket bucket now).1.initialized = true ∧
      (refillBucket bucket now).1.lastRefillNs = now := by
  unfold refillBucket
  rw [hinitialized, if_neg (by exact Bool.false_ne_true), if_neg (UInt64.lt_asymm hlast)]
  simp only
  split
  · split <;> exact ⟨rfl, rfl, rfl⟩
  · split <;> exact ⟨rfl, rfl, rfl⟩

theorem touched_of_filling (h : Filling now envelope) : touched tables now envelope = true := by
  obtain ⟨hinitialized, hlast⟩ := h
  have hrefill : (refillStage envelope now).2.elapsedNs = now - envelope.bucket.lastRefillNs := by
    unfold refillStage
    rw [if_pos hinitialized]
    exact (refill_of_filling hinitialized hlast).1
  have hne : now - envelope.bucket.lastRefillNs ≠ 0 := by
    intro hzero
    have hnat := congrArg UInt64.toNat hzero
    rw [UInt64.toNat_sub_of_le _ _ (UInt64.le_of_lt hlast)] at hnat
    have hlt := UInt64.lt_iff_toNat_lt.1 hlast
    have hz : (0 : U64).toNat = 0 := rfl
    omega
  unfold touched
  simp only [hrefill, hne, ne_eq, not_false_eq_true, decide_true, Bool.or_true, Bool.true_or]

theorem bucket_restored : (restored now envelope).bucket =
    if envelope.bucket.initialized = true then (refillBucket envelope.bucket now).1
    else envelope.bucket := by
  have hrefill : (refillStage envelope now).1.bucket =
      if envelope.bucket.initialized = true then (refillBucket envelope.bucket now).1
      else envelope.bucket := by
    unfold refillStage
    split <;> rfl
  unfold restored cooldownStage
  split <;> exact hrefill

/-- Whatever a tick makes of the envelope, the next one will have its bucket to fill. -/
theorem filling_ticked (h : Filling now envelope) (hlater : now < next) :
    Filling next (ticked tables now lost envelope) := by
  have hkept : Filling next envelope := ⟨h.1, UInt64.lt_trans h.2 hlater⟩
  obtain ⟨-, hinitialized, hlast⟩ := refill_of_filling h.1 h.2
  have hrestored : (restored now envelope).bucket = (refillBucket envelope.bucket now).1 := by
    rw [bucket_restored, if_pos h.1]
  have hfilled : Filling next (restored now envelope) := by
    unfold Filling
    rw [hrestored, hinitialized, hlast]
    exact ⟨rfl, hlater⟩
  unfold ticked rewritten
  split
  · exact hkept
  · split
    · rw [Option.getD_some]
      cases houtlived : outlived tables now envelope with
      | true =>
        rw [maintained_of_outlived houtlived]
        exact hfilled
      | false =>
        rw [maintained_of_not_outlived houtlived]
        exact hfilled
    · split
      · unfold sessionLostEnvelope
        simp only
        split <;> exact hkept
      · exact hkept

/-- Every one of so many envelopes before this one has a bucket that the tick would fill. -/
structure Crowd (s : System) (k now : U64) (keys : List U64) : Prop where
  distinct : keys.Nodup
  many : kMaxTickEnvelopeTransitions ≤ keys.length
  filling : ∀ key ∈ keys, key < k ∧ ∃ envelope,
    s.engine.tables.envelopes.find key = some envelope ∧ Filling now envelope

def Idle (s : System) : Prop :=
  ∀ key attempt, s.engine.tables.attempts.find key = some attempt →
    attemptInflight attempt.state = false

theorem backlog_of_crowd (h : Crowd s k now keys)
    (hfind : s.engine.tables.envelopes.find k = some envelope) :
    kMaxTickEnvelopeTransitions ≤ backlog s.engine.tables now false k := by
  have hsub : keys ⊆ ((s.engine.tables.envelopes.entries.filter fun e ↦ e.id.value < k).filter
      (touched s.engine.tables now)).map (·.id.value) := by
    intro key hmem
    obtain ⟨hlt, e, he, hfilling⟩ := h.filling key hmem
    have hkey := Registry.key_of_find he
    refine List.mem_map.2 ⟨e, ?_, hkey⟩
    refine List.mem_filter.2 ⟨List.mem_filter.2 ⟨Registry.mem_entries_of_find he, ?_⟩,
      touched_of_filling hfilling⟩
    rw [hkey]
    exact decide_eq_true hlt
  have hlength := (List.subperm_of_subset h.distinct hsub).length_le
  rw [List.length_map, ← List.countP_eq_length_filter] at hlength
  have hbefore := Registry.takeWhile_entries hfind
  unfold backlog
  rw [hbefore]
  simp only [Bool.false_eq_true, if_false, Bool.false_and, Bool.not_false, Bool.and_true,
    Nat.zero_add]
  exact h.many.trans hlength

/-- Behind a crowd, a tick with a live session and no attempt in flight leaves an envelope alone. -/
theorem ticked_of_crowd (h : Crowd s k now keys) (hidle : Idle s)
    (hfind : s.engine.tables.envelopes.find k = some envelope) :
    ticked s.engine.tables now false envelope = envelope := by
  have hkey := Registry.key_of_find hfind
  have hexpired : expired s.engine.tables now envelope = false := by
    have hnone : timedOut now kMaxTickAttemptTransitions s.engine.tables.attempts.entries = [] := by
      have hfilter : s.engine.tables.attempts.entries.filter
          (fun attempt ↦ deadlinePassed attempt now) = [] := by
        refine List.filter_eq_nil_iff.2 fun attempt hmem hpassed ↦ ?_
        unfold deadlinePassed at hpassed
        rw [hidle _ attempt (Registry.mem_entries.1 hmem)] at hpassed
        cases hpassed
      rw [timedOut, hfilter, List.take_nil]
    rw [expired, hnone]
    rfl
  have hreached : reached s.engine.tables now false envelope = false := by
    rw [reached, hkey, decide_eq_false (Nat.not_lt.2 (backlog_of_crowd h hfind)), Bool.and_false]
  unfold ticked rewritten
  rw [hexpired, hreached]
  rfl

theorem idle_after (h : Idle s) : Idle (after s round) := by
  intro key attempt hfind
  have hstep : step s round.action = some (after s round) := rfl
  have hkey := Registry.key_of_find hfind
  obtain hold | hcreated | ⟨type, hstages⟩ := attempt_step hstep hfind
  · exact h key attempt hold
  · cases hcreated
  · obtain ⟨old, hold, hmoves⟩ := moves_of_stages hstages
    refine Bool.eq_false_iff.2 fun hlive ↦ ?_
    have hdead := h _ old hold
    rw [hmoves.live hlive] at hdead
    cases hdead

/-- However long the ticks go on, an envelope behind a crowd is not written again. -/
theorem starved (h : Crowd s k now keys) (hidle : Idle s)
    (hfind : s.engine.tables.envelopes.find k = some envelope)
    (hrecorded : Recorded s (rounds.map Round.action))
    (hincreasing : (rounds.map (·.now)).Pairwise (· < ·))
    (hlater : ∀ round ∈ rounds, now ≤ round.now)
    (hlive : ∀ round ∈ rounds, round.session.live = true) :
    (rounds.foldl after s).engine.tables.envelopes.find k = some envelope := by
  induction rounds generalizing s now with
  | nil => exact hfind
  | cons round rounds ih =>
    obtain ⟨hfirst, hrest⟩ := recorded_rounds.1 hrecorded
    obtain ⟨hnext, hincreasing⟩ := List.pairwise_cons.1 hincreasing
    have hsession : losesSession s.engine round.session = false := by
      unfold losesSession
      rw [hlive round List.mem_cons_self, Bool.not_true, Bool.and_false]
    have hnow := hlater round List.mem_cons_self
    have hcrowd : Crowd s k round.now keys := by
      refine ⟨h.distinct, h.many, fun key hmem ↦ ?_⟩
      obtain ⟨hlt, e, he, hfilling⟩ := h.filling key hmem
      exact ⟨hlt, e, he, hfilling.1, UInt64.lt_of_lt_of_le hfilling.2 hnow⟩
    have hfound := find_after hfirst
    rw [hsession] at hfound
    have hkept : (after s round).engine.tables.envelopes.find k = some envelope := by
      rw [hfound, hfind, Option.map_some, ticked_of_crowd hcrowd hidle hfind]
    cases rounds with
    | nil => exact hkept
    | cons second rounds =>
      have hsecond : round.now < second.now := hnext _ List.mem_cons_self
      have hfollows : Crowd (after s round) k second.now keys := by
        refine ⟨h.distinct, h.many, fun key hmem ↦ ?_⟩
        obtain ⟨hlt, e, he, hfilling⟩ := hcrowd.filling key hmem
        have hticked := hfound key
        rw [he, Option.map_some] at hticked
        exact ⟨hlt, _, hticked, filling_ticked hfilling hsecond⟩
      have hfrom : ∀ other ∈ second :: rounds, second.now ≤ other.now := by
        intro other hmem
        obtain rfl | hmem := List.mem_cons.1 hmem
        · exact UInt64.le_refl _
        · obtain ⟨hlt, -⟩ := List.pairwise_cons.1 hincreasing
          exact UInt64.le_of_lt (hlt _ (List.mem_map.2 ⟨other, hmem, rfl⟩))
      rw [List.foldl_cons]
      exact ih hfollows (idle_after hidle) hkept hrest hincreasing hfrom
        fun other hmem ↦ hlive other (List.mem_cons_of_mem _ hmem)

end Starvation

section Reaching

variable {rounds : List Round}

/-- Ticks at later and later readings, one for each 512 envelopes, whose commits succeed and at
which the authority behind an applied envelope is gone. -/
structure Maintenance (s : System) (k : U64) (rounds : List Round) (t : System) : Prop where
  applied : ∃ envelope, s.engine.tables.envelopes.find k = some envelope ∧
    envelope.state = .applied
  ticks : rounds.length = (s.engine.tables.envelopes.size + 511) / 512
  increasing : (rounds.map (·.now)).Pairwise (· < ·)
  recorded : Recorded s (rounds.map Round.action)
  ran : run step s (rounds.map Round.action) = some t
  orphaned : EveryTick (Orphaned k) s rounds

/-- The envelope is still stored, and claims no effect any more. -/
def Reached (t : System) (k : U64) : Prop :=
  ∃ envelope, t.engine.tables.envelopes.find k = some envelope ∧ Disclaimed envelope

/-- The deferred work is reached exactly where one of the ticks handles the envelope. -/
theorem deferred_work_reached_iff (h : Maintenance s k rounds t) :
    Reached t k ↔ SomeTick (Handled k) s rounds := by
  obtain ⟨⟨envelope, hfind, happlied⟩, -, -, hrecorded, hran, horphaned⟩ := h
  rw [run_rounds] at hran
  cases hran
  exact disclaimed_rounds_iff hrecorded horphaned hfind happlied

def twoTicks : List Round := [{ now := 7, session := {} }, { now := 8, session := {} }]

/-- The first of 513 envelopes is applied, and the grant behind all of them recalled. -/
def crowdedBehind : System :=
  drive step (crowd 513) [⟨.apply ⟨1⟩ actor 5 {}, []⟩, ⟨.dispatched 0 { status := .completed }, []⟩,
    ⟨.readClock 0 6, []⟩, ⟨.finish 0, []⟩, ⟨.readBack 0 samplePresent 6, []⟩, ⟨.publish 0 6, []⟩,
    ⟨.changeGrantState ⟨1⟩ ⟨1⟩ .recalled actor, []⟩]

theorem crowdedBehind_observed :
    ((crowdedBehind.engine.tables.envelopes.find 1).any fun envelope ↦
      decide (envelope.state = .applied) &&
        decide (authorityStatus crowdedBehind.engine.tables envelope 7 ≠ .none) &&
        decide (authorityStatus crowdedBehind.engine.tables
          (ticked crowdedBehind.engine.tables 7 false envelope) 8 ≠ .none) &&
        handled crowdedBehind.engine.tables 7 false envelope) = true ∧
      crowdedBehind.engine.tables.envelopes.size = 513 := by
  decide +kernel

/-- Of 513 envelopes, two ticks reach the first. -/
theorem deferred_work_reached_sample :
    crowdedBehind.engine.tables.envelopes.size = 513 ∧
      Reached (twoTicks.foldl after crowdedBehind) 1 := by
  obtain ⟨hobserved, hsize⟩ := crowdedBehind_observed
  obtain ⟨envelope, hfind, hholds⟩ := (Option.any_eq_true _ _).1 hobserved
  simp only [Bool.and_eq_true, decide_eq_true_eq] at hholds
  obtain ⟨⟨⟨happlied, hgone⟩, hstill⟩, hhandled⟩ := hholds
  have hrecorded : ∀ rounds : List Round, Recorded crowdedBehind (rounds.map Round.action) :=
    fun _ ↦ recorded_of_none (by decide +kernel)
  refine ⟨hsize, ?_⟩
  generalize crowdedBehind = s at hsize hfind hgone hstill hhandled hrecorded ⊢
  have hsession : losesSession s.engine ({} : Session) = false := Bool.and_false _
  have horphaned : EveryTick (Orphaned 1) s twoTicks := by
    refine ⟨fun other hother ↦ ?_, fun other hother ↦ ?_, trivial⟩
    · cases hfind.symm.trans hother
      exact hgone
    · have hfirst := hrecorded [{ now := 7, session := {} }]
      rw [find_after hfirst, hfind, Option.map_some, hsession] at hother
      cases hother
      rw [tables_after hfirst, authorityStatus_tick]
      exact hstill
  have hmaintenance : Maintenance s 1 twoTicks (twoTicks.foldl after s) :=
    ⟨⟨envelope, hfind, happlied⟩, by rw [hsize]; rfl, by decide, hrecorded twoTicks,
      run_rounds s twoTicks, horphaned⟩
  refine (deferred_work_reached_iff hmaintenance).2 (.inl ⟨envelope, hfind, ?_⟩)
  rw [hsession]
  exact hhandled

/-- An envelope bound to the second grant is applied behind 512 others, and its grant recalled. -/
def crowdedOut : System :=
  drive step (crowd 512) [⟨.openEnvelope { sampleRequest with grant := ⟨2⟩ } actor 5, []⟩,
    ⟨.apply ⟨513⟩ actor 5 {}, []⟩, ⟨.dispatched 0 { status := .completed }, []⟩,
    ⟨.readClock 0 6, []⟩, ⟨.finish 0, []⟩, ⟨.readBack 0 samplePresent 6, []⟩, ⟨.publish 0 6, []⟩,
    ⟨.changeGrantState ⟨2⟩ ⟨1⟩ .recalled actor, []⟩]

theorem reachable_crowdedOut : Reachable crowdedOut :=
  (reachable_crowd (by decide)).reaches (reaches_drive fun _ _ _ ↦ trivial)

def seatKeys (n : ℕ) : List U64 := (List.range n).map fun i ↦ UInt64.ofNat (i + 1)

theorem nodup_seatKeys (n : ℕ) (h : n ≤ 4096) : (seatKeys n).Nodup := by
  refine List.Nodup.map_on (fun a ha b hb hab ↦ ?_) List.nodup_range
  have hnat := congrArg UInt64.toNat hab
  rw [UInt64.toNat_ofNat', UInt64.toNat_ofNat'] at hnat
  have ha := List.mem_range.1 ha
  have hb := List.mem_range.1 hb
  omega

theorem crowdedOut_observed :
    ((seatKeys 512).all fun key ↦ decide (key < 513) &&
        (crowdedOut.engine.tables.envelopes.find key).any fun envelope ↦
          envelope.bucket.initialized && decide (envelope.bucket.lastRefillNs < 7)) = true ∧
      (crowdedOut.engine.tables.attempts.entries.all fun attempt ↦
        !attemptInflight attempt.state) = true ∧
      ((crowdedOut.engine.tables.envelopes.find 513).any fun envelope ↦
        decide (envelope.state = .applied) &&
          decide (authorityStatus crowdedOut.engine.tables envelope 7 ≠ .none) &&
          decide (authorityStatus crowdedOut.engine.tables envelope 8 ≠ .none)) = true ∧
      crowdedOut.engine.tables.envelopes.size = 513 := by
  decide +kernel

theorem crowd_crowdedOut : Crowd crowdedOut 513 7 (seatKeys 512) := by
  refine ⟨nodup_seatKeys 512 (by decide), Nat.le_of_eq ?_, fun key hmem ↦ ?_⟩
  · rw [seatKeys, List.length_map, List.length_range]
    rfl
  · have hseat := List.all_eq_true.1 crowdedOut_observed.1 key hmem
    rw [Bool.and_eq_true, decide_eq_true_eq] at hseat
    obtain ⟨envelope, hfind, hfilling⟩ := (Option.any_eq_true _ _).1 hseat.2
    rw [Bool.and_eq_true, decide_eq_true_eq] at hfilling
    exact ⟨hseat.1, envelope, hfind, hfilling⟩

theorem idle_crowdedOut : Idle crowdedOut := by
  intro key attempt hfind
  have hdone := List.all_eq_true.1 crowdedOut_observed.2.1 attempt
    (Registry.mem_entries_of_find hfind)
  rw [Bool.not_eq_true'] at hdone
  exact hdone

/-- With 513 envelopes, two ticks do not reach the last one. -/
theorem deferred_work_starves :
    Reachable crowdedOut ∧ Maintenance crowdedOut 513 twoTicks (twoTicks.foldl after crowdedOut) ∧
      ¬ Reached (twoTicks.foldl after crowdedOut) 513 := by
  obtain ⟨-, -, hlast, hsize⟩ := crowdedOut_observed
  obtain ⟨envelope, hfind, hholds⟩ := (Option.any_eq_true _ _).1 hlast
  simp only [Bool.and_eq_true, decide_eq_true_eq] at hholds
  obtain ⟨⟨happlied, hgone⟩, hstill⟩ := hholds
  have hrecorded : ∀ rounds : List Round, Recorded crowdedOut (rounds.map Round.action) :=
    fun _ ↦ recorded_of_none (by decide +kernel)
  have hcrowd := crowd_crowdedOut
  have hidle := idle_crowdedOut
  refine ⟨reachable_crowdedOut, ?_⟩
  generalize crowdedOut = s at hsize hfind hgone hstill hrecorded hcrowd hidle ⊢
  have hkept : ∀ rounds : List Round, rounds <+: twoTicks →
      (rounds.foldl after s).engine.tables.envelopes.find 513 = some envelope := by
    intro rounds hprefix
    have hsub := hprefix.sublist
    refine starved hcrowd hidle hfind (hrecorded rounds)
      (List.Pairwise.sublist (hsub.map _) (by decide : (twoTicks.map (·.now)).Pairwise (· < ·)))
      (fun round hmem ↦ ?_) (fun round hmem ↦ ?_)
    · exact (by decide : ∀ round ∈ twoTicks, (7 : U64) ≤ round.now) round (hsub.subset hmem)
    · exact (by decide : ∀ round ∈ twoTicks, round.session.live = true) round (hsub.subset hmem)
  have horphaned : EveryTick (Orphaned 513) s twoTicks := by
    refine ⟨fun other hother ↦ ?_, fun other hother ↦ ?_, trivial⟩
    · cases hfind.symm.trans hother
      exact hgone
    · cases (hkept [{ now := 7, session := {} }] ⟨_, rfl⟩).symm.trans hother
      rw [tables_after (hrecorded [{ now := 7, session := {} }]), authorityStatus_tick]
      exact hstill
  refine ⟨⟨⟨envelope, hfind, happlied⟩, by rw [hsize]; rfl, by decide, hrecorded twoTicks,
    run_rounds s twoTicks, horphaned⟩, ?_⟩
  rintro ⟨new, hnew, hdisclaimed⟩
  cases (hkept twoTicks (List.prefix_refl _)).symm.trans hnew
  exact hdisclaimed.notApplied happlied

end Reaching

end RateGovernor.Safety.DeferredWork
