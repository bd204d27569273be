import RateGovernor.Dynamics.Ticking
import RateGovernor.Safety.ConfirmedRevokes

namespace RateGovernor.Safety.DeadSession

open Model.CheckedMath Model.Identity Model.Reason Model.Entities Model.Envelope Model.EngineState
open Model.JournalWriter Model.Durability Model.Authority Model.Calls Model.Lifecycle
open Model.Revocation Model.Maintenance Model.Execution Foundation.KeyedTable
open Foundation.GuardedRun Dynamics Dynamics.Install Dynamics.Sections Dynamics.Turns
open Dynamics.Ticking
open Dynamics.Start

variable {s t : System} {tables : Tables} {envelope : RateEnvelope} {now k : U64}
  {session : Session} {io : Io}

section Claims

def ClaimsEffect (envelope : RateEnvelope) : Prop :=
  envelope.state = .applied ∨ envelope.state = .dispatching ∨ envelope.effectVerified = true ∨
    envelope.appliedRateUps ≠ 0

structure Quiet (envelope : RateEnvelope) : Prop where
  notApplied : envelope.state ≠ .applied
  notDispatching : envelope.state ≠ .dispatching
  notVerified : envelope.effectVerified = false

/-- The envelope is left with no claim that is not already questioned. -/
structure Withdrawn (old new : RateEnvelope) : Prop extends Quiet new where
  questioned : ClaimsEffect old → new.requiresRevalidation = true

/-- The envelope makes no claim, or none that is not already questioned. -/
structure Harmless (envelope : RateEnvelope) : Prop extends Quiet envelope where
  questioned : envelope.appliedRateUps ≠ 0 → envelope.requiresRevalidation = true

/-- The maintenance pass writes the stored envelope back over what the loss of the session makes of
it, and no later pass overwrites that. -/
def Overwritten (tables : Tables) (now : U64) (envelope : RateEnvelope) : Prop :=
  reached tables now true envelope = true ∧ outlived tables now envelope = false ∧
    expired tables now envelope = false

theorem withdrawn_doubted : Withdrawn envelope
    (doubtedEnvelope envelope .attemptDeadlineExceeded now) :=
  ⟨⟨nofun, nofun, rfl⟩, fun _ ↦ rfl⟩

theorem withdrawn_lost : Withdrawn envelope ((sessionLostEnvelope envelope).getD envelope) := by
  unfold sessionLostEnvelope
  simp only
  split
  · next hnone =>
    simp only [Bool.not_eq_true', Bool.or_eq_false_iff, decide_eq_false_iff_not] at hnone
    obtain ⟨⟨hverified, hrate⟩, happlied, hdispatching⟩ := hnone
    refine ⟨⟨happlied, hdispatching, hverified⟩, ?_⟩
    rintro (h | h | h | h)
    · exact absurd h happlied
    · exact absurd h hdispatching
    · cases hverified.symm.trans h
    · exact absurd h hrate
  · rw [Option.getD_some]
    by_cases hactive : envelope.state = .applied ∨ envelope.state = .dispatching
    · have hactive : (decide (envelope.state = .applied) ||
          decide (envelope.state = .dispatching)) = true := by
        simpa only [Bool.or_eq_true, decide_eq_true_eq] using hactive
      refine ⟨⟨?_, ?_, rfl⟩, fun _ ↦ rfl⟩ <;> simp only [hactive, if_true] <;> exact nofun
    · rw [not_or] at hactive
      refine ⟨⟨?_, ?_, rfl⟩, fun _ ↦ rfl⟩ <;>
        simp only [hactive.1, hactive.2, decide_false, Bool.or_false, Bool.false_eq_true, if_false]
      · exact hactive.1
      · exact hactive.2

theorem withdrawn_outlived (h : outlived tables now envelope = true) :
    Withdrawn envelope (maintained tables envelope now) := by
  rw [maintained_of_outlived h]
  refine ⟨⟨?_, ?_, rfl⟩, fun hclaims ↦ ?_⟩
  · simp only
    split <;> exact nofun
  · simp only
    split <;> exact nofun
  · obtain ⟨hverified, hrate, -⟩ := same_restored now envelope
    have hstate := state_restored now envelope
    have hholds : holdsEffect (restored now envelope) = true := by
      unfold holdsEffect
      rw [hverified, hrate]
      obtain h | h | h | h := hclaims
      · obtain hsame | ⟨hdegraded, -⟩ := hstate
        · simp only [hsame, h, decide_true, Bool.true_or]
        · cases h.symm.trans hdegraded
      · obtain hsame | ⟨hdegraded, -⟩ := hstate
        · simp only [hsame, h, decide_true, Bool.true_or, Bool.or_true]
        · cases h.symm.trans hdegraded
      · simp only [h, Bool.true_or, Bool.or_true]
      · simp only [h, ne_eq, not_false_eq_true, decide_true, Bool.or_true]
    simp only [hholds, Bool.true_or]

theorem withdrawn_maintained_iff (h : outlived tables now envelope = false) :
    Withdrawn envelope (maintained tables envelope now) ↔ Harmless envelope := by
  rw [maintained_of_not_outlived h]
  obtain ⟨hverified, -, hdoubt⟩ := same_restored now envelope
  have hstate := state_restored now envelope
  constructor
  · rintro ⟨⟨happlied, hdispatching, hnot⟩, hquestioned⟩
    simp only at happlied hdispatching hnot hquestioned
    rw [hverified] at hnot
    rw [hdoubt] at hquestioned
    have hrate (hrate : envelope.appliedRateUps ≠ 0) : envelope.requiresRevalidation = true :=
      hquestioned (.inr (.inr (.inr hrate)))
    obtain hsame | ⟨hdegraded, -⟩ := hstate
    · rw [hsame] at happlied hdispatching
      exact ⟨⟨happlied, hdispatching, hnot⟩, hrate⟩
    · refine ⟨⟨?_, ?_, hnot⟩, hrate⟩ <;> rw [hdegraded] <;> exact nofun
  · rintro ⟨⟨happlied, hdispatching, hnot⟩, hquestioned⟩
    refine ⟨⟨?_, ?_, hverified.trans hnot⟩, fun hclaims ↦ hdoubt.trans ?_⟩
    · obtain hsame | ⟨-, hauthorized⟩ := hstate
      · exact fun h ↦ happlied (hsame.symm.trans h)
      · exact fun h ↦ by cases hauthorized.symm.trans h
    · obtain hsame | ⟨-, hauthorized⟩ := hstate
      · exact fun h ↦ hdispatching (hsame.symm.trans h)
      · exact fun h ↦ by cases hauthorized.symm.trans h
    · obtain h | h | h | h := hclaims
      · exact absurd h happlied
      · exact absurd h hdispatching
      · cases hnot.symm.trans h
      · exact hquestioned h

theorem withdrawn_ticked_iff : Withdrawn envelope (ticked tables now true envelope) ↔
    (Overwritten tables now envelope → Harmless envelope) := by
  unfold ticked rewritten Overwritten
  cases hexpired : expired tables now envelope with
  | true =>
    simp only [if_true, Option.getD_some, Bool.true_eq_false, and_false, false_imp_iff, iff_true]
    exact withdrawn_doubted
  | false =>
    simp only [Bool.false_eq_true, if_false, and_true]
    cases reached tables now true envelope with
    | false =>
      simp only [Bool.false_eq_true, if_false, if_true, false_and, false_imp_iff, iff_true]
      exact withdrawn_lost
    | true =>
      simp only [if_true, Option.getD_some, true_and]
      cases houtlived : outlived tables now envelope with
      | true =>
        simp only [Bool.true_eq_false, false_imp_iff, iff_true]
        exact withdrawn_outlived houtlived
      | false =>
        simp only [true_imp_iff]
        exact withdrawn_maintained_iff houtlived

end Claims

section Ticks

/-- A tick finds the session of the bound backend dead, and its commit succeeds. -/
structure FindsDead (s t : System) (now : U64) (session : Session) (io : Io) : Prop where
  bound : s.engine.control.backend.isSome = true
  admitted : s.engine.control.backendBound = true
  dead : session.live = false
  stepped : step s ⟨.tick now session, io⟩ = some t
  recorded : ((tick s.engine now session).perform s.engine io).2.1.journalFailed = false

/-- No claim that the session supported has survived the tick. -/
structure AllWithdrawn (s t : System) : Prop where
  quiet : ∀ k envelope, t.engine.tables.envelopes.find k = some envelope → Quiet envelope
  questioned : ∀ k old, s.engine.tables.envelopes.find k = some old → ClaimsEffect old →
    ∃ new, t.engine.tables.envelopes.find k = some new ∧ new.requiresRevalidation = true
  unbound : t.engine.control.backendBound = false

theorem loses_of_findsDead (h : FindsDead s t now session io) :
    losesSession s.engine session = true := by
  unfold losesSession
  rw [h.bound, h.admitted, h.dead]
  rfl

theorem find_of_findsDead (h : FindsDead s t now session io) (k : U64) :
    t.engine.tables.envelopes.find k =
      (s.engine.tables.envelopes.find k).map (ticked s.engine.tables now true) := by
  have hfind := tick_find s.engine s.engine.config now session k
  rw [loses_of_findsDead h] at hfind
  rw [← hfind]
  obtain ⟨decision, hsection, hturn⟩ := turn_of_step h.stepped
  cases hsection
  cases hturn with
  | quiet hempty =>
    have hempty : (tick s.engine now session).records = [] := hempty
    rw [hempty]
    rfl
  | failed hrecords hfailed =>
    have hrecords : (tick s.engine now session).records ≠ [] := hrecords
    have hfailed : ((tick s.engine now session).commit s.engine io).status = some _ := hfailed
    have hrecorded := h.recorded
    unfold Decision.perform at hrecorded
    rw [if_neg (by simpa using hrecords)] at hrecorded
    simp only [hfailed] at hrecorded
    cases hrecorded
  | committed => rfl

theorem unbound_of_findsDead (h : FindsDead s t now session io) :
    t.engine.control.backendBound = false := by
  have hunbound : (if losesSession s.engine session = true then false
      else s.engine.control.backendBound) = false := by
    rw [if_pos (loses_of_findsDead h)]
  obtain ⟨decision, hsection, hturn⟩ := turn_of_step h.stepped
  cases hsection
  cases hturn <;> exact hunbound

/-- A tick that finds the session dead withdraws every claim, save those that its maintenance pass
writes back. -/
theorem all_withdrawn_iff (h : FindsDead s t now session io) :
    AllWithdrawn s t ↔ ∀ k envelope, s.engine.tables.envelopes.find k = some envelope →
      Overwritten s.engine.tables now envelope → Harmless envelope := by
  constructor
  · intro hall k envelope hfind
    have hnew := find_of_findsDead h k
    rw [hfind, Option.map_some] at hnew
    refine withdrawn_ticked_iff.1 ⟨hall.quiet k _ hnew, fun hclaims ↦ ?_⟩
    obtain ⟨new, hnew', hquestioned⟩ := hall.questioned k envelope hfind hclaims
    cases hnew.symm.trans hnew'
    exact hquestioned
  · intro hspared
    have hticked (k : U64) (old : RateEnvelope)
        (hfind : s.engine.tables.envelopes.find k = some old) :
        Withdrawn old (ticked s.engine.tables now true old) :=
      withdrawn_ticked_iff.2 (hspared k old hfind)
    refine ⟨fun k envelope hnew ↦ ?_, fun k old hfind hclaims ↦ ?_, unbound_of_findsDead h⟩
    · rw [find_of_findsDead h] at hnew
      obtain ⟨old, hfind, rfl⟩ := Option.map_eq_some_iff.1 hnew
      exact (hticked k old hfind).toQuiet
    · refine ⟨_, ?_, (hticked k old hfind).questioned hclaims⟩
      rw [find_of_findsDead h, hfind]
      rfl

end Ticks

section Sample

open ConfirmedRevokes

def deadSession : Session := { live := false, epoch := ⟨1⟩, boot := ⟨1⟩ }

theorem findsDead_sampleApplied (now : U64) : ∃ t, FindsDead sampleApplied t now deadSession [] := by
  refine ⟨performed sampleApplied [] (once sampleApplied (tick sampleApplied.engine now deadSession)),
    by decide +kernel, by decide +kernel, rfl, rfl, ?_⟩
  have hstatus : ((tick sampleApplied.engine now deadSession).commit sampleApplied.engine []).status =
      none := by
    unfold Decision.commit
    exact Halting.commitMany_of_none (by decide +kernel)
  unfold Decision.perform
  split
  · rfl
  · simp only [hstatus]
    rfl

/-- At the instant the buckets were last filled the pass has nothing to write. -/
theorem all_withdrawn_sample : ∃ t, FindsDead sampleApplied t 5 deadSession [] ∧
    AllWithdrawn sampleApplied t := by
  obtain ⟨t, ht⟩ := findsDead_sampleApplied 5
  refine ⟨t, ht, (all_withdrawn_iff ht).2 fun k envelope hfind hover ↦ ?_⟩
  have hnone : ∀ e ∈ sampleApplied.engine.tables.envelopes.entries,
      reached sampleApplied.engine.tables 5 true e = false := by decide +kernel
  rw [Overwritten, hnone envelope (Registry.mem_entries_of_find hfind)] at hover
  exact absurd hover.1 Bool.false_ne_true

/-- A later tick refills the bucket of the applied envelope, and with it writes the claim back. -/
theorem dead_session_kept :
    ¬ ∀ s t now session io, Reachable s → FindsDead s t now session io → AllWithdrawn s t := by
  intro h
  obtain ⟨t, ht⟩ := findsDead_sampleApplied 200
  have hall := h sampleApplied t 200 deadSession []
    ⟨sampleStart, fresh_sampleStart, reaches_drive fun _ _ _ ↦ trivial⟩ ht
  have happlied : (sampleApplied.engine.tables.envelopes.find 1).map (fun envelope ↦
      (ticked sampleApplied.engine.tables 200 true envelope).state) = some .applied := by
    decide +kernel
  obtain ⟨envelope, hfind, hstate⟩ := Option.map_eq_some_iff.1 happlied
  have hnew := find_of_findsDead ht 1
  rw [hfind, Option.map_some] at hnew
  exact (hall.quiet 1 _ hnew).notApplied hstate

end Sample

end RateGovernor.Safety.DeadSession
