import RateGovernor.Dynamics.Rereading
import RateGovernor.Safety.TornTail

namespace RateGovernor.Safety.BurstAccounts

open Model.CheckedMath Model.Identity Model.Reason Model.Entities Model.Envelope Model.Bucket
open Model.Journal Model.JournalWriter Model.EngineState Model.Durability Model.Execution
open Model.Recovery Foundation.ByteCodec Foundation.KeyedTable Foundation.GuardedRun
open Dynamics.Install Dynamics.Sections Dynamics.Staging Dynamics.Commits Dynamics.Journaling
open Dynamics.Reopening Dynamics.Integrity Dynamics.Start Dynamics.Buckets Dynamics.Restoring
open Dynamics.Surviving Dynamics.Torn Dynamics.Demotion Dynamics.Framing
open Dynamics.Transactions Dynamics.Rereading TornTail

variable {life next : Life} {start : System} {k : U64} {envelope : RateEnvelope}

section Lives

/-- A crash, and the recovery from it with its last argument given. -/
structure Restart where
  crash : Crash
  truncate : Bool := false
  tailIo : Io := []

/-- What happens to a process: an event of its engine, or a crash and a recovery. -/
inductive Happening
  | act (action : Action)
  | restart (restart : Restart)

/-- A process, and the file its journal was opened on, as long as that has only been appended to. -/
structure Life where
  system : System
  origin : Bytes := []

def journalled (life : Life) : Bytes := fileOf life.system.engine.durability

def leftover (life : Life) (restart : Restart) : Bytes := (journalled life).take restart.crash.cut

def restarted (life : Life) (restart : Restart) : Option Life :=
  (journalFile life.system).bind fun file ↦
    match recoverEngineWith restart.truncate restart.crash.config (file.take restart.crash.cut)
      restart.crash.demotedNs restart.crash.advancedNs restart.crash.io restart.tailIo with
    | .error _ => none
    | .ok engine => some { system := { engine }, origin := leftover life restart }

def acted (life : Life) (action : Action) : Option Life :=
  (step life.system action).map fun system ↦
    { system, origin := if journalled life <+: fileOf system.engine.durability then life.origin
        else [] }

def liveStep (life : Life) : Happening → Option Life
  | .act action => acted life action
  | .restart restart => restarted life restart

theorem restarted_engine {restart : Restart} (h : restarted life restart = some next) :
    ∃ engine, next = { system := { engine }, origin := leftover life restart } ∧
      recoverEngineWith restart.truncate restart.crash.config (leftover life restart)
        restart.crash.demotedNs restart.crash.advancedNs restart.crash.io restart.tailIo =
          .ok engine := by
  obtain ⟨file, hfile, hrecovered⟩ := Option.bind_eq_some_iff.1 h
  have hleftover : leftover life restart = file.take restart.crash.cut := by
    rw [leftover, journalled, fileOf]
    exact congrArg (fun file : Option Bytes ↦ (file.getD []).take restart.crash.cut) hfile
  rw [hleftover]
  split at hrecovered
  · cases hrecovered
  · next engine hok =>
    cases hrecovered
    exact ⟨engine, by rw [hleftover], hok⟩

/-- An engine that has just been constructed, over a new journal or over none. -/
def Newborn (start : System) : Prop :=
  ∃ config backend session file? io,
    (∀ file, file? = some file → ∃ journalConfig created,
      JournalFile.create journalConfig created = some file) ∧
    start = { engine := (construct config backend session file? io).1 }

/-- No crash leaves a counters record to be read as a bucket, or a torn record that what was
appended behind it has completed. -/
def ReadsTrue (life : Life) : Happening → Prop
  | .act _ => True
  | .restart restart => misreadIn (leftover life restart) = [] ∧
      ¬ Completed life.origin (leftover life restart)

instance (life : Life) : (happening : Happening) → Decidable (ReadsTrue life happening)
  | .act _ => isTrue trivial
  | .restart _ => inferInstanceAs (Decidable (_ ∧ _))

end Lives

section Preservation

structure Vouched (life : Life) : Prop where
  accounted : AllAccounted life.system.engine.tables.envelopes
  sane : Sane life.origin
  enduring : Enduring life.origin life.system.engine.durability

theorem sane_nil : Sane [] := by
  intro n
  rw [List.take_nil]
  exact restores_nil

theorem reliable_of_no_journal {durability : Durability} (h : durability.journal = none) :
    Reliable durability := by
  refine ⟨fun journal hjournal ↦ ?_, .inr fun journal hjournal ↦ ?_⟩
  · rw [h] at hjournal
    cases hjournal
  · rw [h] at hjournal
    cases hjournal

theorem vouched_newborn (h : Newborn start) : Vouched { system := start } := by
  obtain ⟨config, backend, session, file?, io, hcreated, rfl⟩ := h
  refine ⟨?_, sane_nil, .inl ?_⟩
  · rw [tables_construct]
    exact allAccounted_empty
  · have hjournal : Reliable { journal := file? } := by
      refine ⟨fun journal hsome ↦ ?_, .inr fun journal hsome _ ↦ ?_⟩
      · obtain ⟨journalConfig, created, hcreate⟩ := hcreated journal hsome
        exact sane_create hcreate
      · obtain ⟨journalConfig, created, hcreate⟩ := hcreated journal hsome
        exact untorn_create hcreate
    unfold construct
    simp only
    split
    · exact hjournal
    · split
      · exact reliable_commitRecords hjournal (admissible_banner _ _) (restores_banner _ _ _)
          allAccounted_empty
      · exact hjournal

theorem vouched_act {action : Action} (h : Vouched life) (hstep : acted life action = some next) :
    Vouched next := by
  obtain ⟨system, hsystem, rfl⟩ := Option.map_eq_some_iff.1 hstep
  obtain ⟨decision, hsection, rfl⟩ := Option.map_eq_some_iff.1 hsystem
  have hrecording := recording_of_sectionOf h.accounted hsection
  have hentries := admissible_of_sectionOf hsection
  have hall : AllAccounted (decision.perform life.system.engine action.io).1.tables.envelopes := by
    obtain hsame | hinstalled := tables_perform decision life.system.engine action.io
    · exact hsame ▸ h.accounted
    · rw [hinstalled]
      exact installed_accounted h.accounted hsection
  have hsane (extended : Prop) [Decidable extended] :
      Sane (if extended then life.origin else []) := by
    split
    · exact h.sane
    · exact sane_nil
  refine ⟨hall, hsane _, ?_⟩
  obtain hreliable | ⟨htorn, htrailing⟩ := h.enduring
  · exact .inl (reliable_perform hreliable hentries hrecording h.accounted)
  · have hself : Trailing (journalled life) life.system.engine.durability := by
      refine ⟨fun journal hjournal ↦ ?_, htrailing.idle⟩
      rw [journalled, fileOf, hjournal]
      exact List.prefix_rfl
    have hperform (base : Bytes) (hbase : Trailing base life.system.engine.durability) :
        Trailing base (decision.perform life.system.engine action.io).1.durability ∨
          Reliable (decision.perform life.system.engine action.io).1.durability :=
      trailing_perform hbase hentries hrecording h.accounted
    obtain hbehind | hreliable := hperform _ htrailing
    · obtain hextends | hreliable := hperform _ hself
      · cases hjournal : (decision.perform life.system.engine action.io).1.durability.journal with
        | none => exact .inl (reliable_of_no_journal hjournal)
        | some journal =>
          have hextended : journalled life <+:
              fileOf (performed life.system action.io decision).engine.durability := by
            rw [performed, fileOf, hjournal]
            exact hextends.behind journal hjournal
          simp only [if_pos hextended]
          exact .inr ⟨htorn, hbehind⟩
      · exact .inl hreliable
    · exact .inl hreliable

theorem vouched_restart {restart : Restart} (h : Vouched life)
    (hok : ReadsTrue life (.restart restart)) (hstep : restarted life restart = some next) :
    Vouched next := by
  obtain ⟨file, hfile, hrecovered⟩ := Option.bind_eq_some_iff.1 hstep
  obtain ⟨journal, hjournal, rfl⟩ := Option.map_eq_some_iff.1 hfile
  have hleftover : leftover life restart = journal.file.take restart.crash.cut := by
    rw [leftover, journalled, fileOf, hjournal]
    rfl
  obtain ⟨hmisread, hcompleted⟩ := hok
  rw [hleftover] at hmisread hcompleted
  have hsane : Sane (journal.file.take restart.crash.cut) := by
    obtain hreliable | ⟨htorn, htrailing⟩ := h.enduring
    · exact (hreliable.sane journal hjournal).take _
    · obtain ⟨more, hmore⟩ := htrailing.behind journal hjournal
      obtain hn | hn := Nat.lt_or_ge restart.crash.cut life.origin.length
      · rw [← hmore, List.take_append_of_le_length (Nat.le_of_lt hn)]
        exact h.sane.take _
      · refine sane_behind h.sane htorn ?_ hcompleted
        rw [← hmore, List.take_append, List.take_of_length_le hn]
        exact List.prefix_append _ _
  unfold recoverEngineWith at hrecovered
  cases hengine : recoverEngine restart.crash.config (journal.file.take restart.crash.cut)
      restart.crash.demotedNs restart.crash.advancedNs restart.crash.io with
  | error error =>
    rw [hengine] at hrecovered
    cases hrecovered
  | ok engine =>
    rw [hengine] at hrecovered
    cases hrecovered
    obtain ⟨hok, -⟩ := recoverEngine_ok hengine
    obtain ⟨henduring, hall⟩ := enduring_recovered hok hsane hmisread hengine
    refine ⟨?_, ?_, ?_⟩
    · obtain ⟨durability, heq⟩ := tailDropped_eq restart.truncate
        (scanJournalFile (journal.file.take restart.crash.cut)) engine restart.tailIo
      rw [heq]
      exact hall
    · rw [hleftover]
      exact hsane
    · rw [hleftover]
      exact enduring_tailDropped henduring hall

theorem vouched_of_reaches (hstart : Newborn start)
    (hrun : Reaches liveStep ReadsTrue { system := start } life) : Vouched life := by
  refine hrun.invariant (vouched_newborn hstart) fun s happening t h hok hstep ↦ ?_
  cases happening with
  | act action => exact vouched_act h hstep
  | restart restart => exact vouched_restart h hok hstep

end Preservation

/-- The bucket of an envelope is within its limits, which are those of its plan, and no refill takes
tokens away. -/
structure KeepsAccounts (envelope : RateEnvelope) : Prop where
  tokens : envelope.bucket.tokens ≤ envelope.bucket.capacity
  fraction : envelope.bucket.fractionalNumerator < kNanosecondsPerSecond
  plan : envelope.hasPlan = true → envelope.bucket.initialized = true →
    envelope.bucket.capacity = envelope.plan.burstTokens ∧
      envelope.bucket.rateUps = envelope.plan.ceilingUps
  refills : ∀ now, envelope.bucket.tokens.toNat +
      (refillBucket envelope.bucket now).2.tokensGranted.toNat =
    (refillBucket envelope.bucket now).1.tokens.toNat

/-- As long as no crash leaves records to be misread, every envelope keeps its accounts. -/
theorem accounts_kept (hstart : Newborn start)
    (hrun : Reaches liveStep ReadsTrue { system := start } life)
    (hfind : life.system.engine.tables.envelopes.find k = some envelope) :
    KeepsAccounts envelope := by
  obtain ⟨hwithin, hfunded⟩ := (vouched_of_reaches hstart hrun).accounted k envelope hfind
  refine ⟨hwithin.tokens, hwithin.fraction, fun hplanned _ ↦ ?_, fun now ↦ ?_⟩
  · exact ⟨(hfunded hplanned).capacity, (hfunded hplanned).rate⟩
  · exact (refills_refillBucket _ _).gains hwithin

section Samples

def unlimited : JournalConfig := { maxBytes := 0 }

/-- An engine over a new journal, bound to a live session of the sample backend. -/
def journalledStart : System :=
  { engine := (construct {} (some ⟨sampleBackend⟩) { epoch := ⟨1⟩, boot := ⟨1⟩ }
      (some (newJournal unlimited)) []).1 }

theorem newborn_journalledStart : Newborn journalledStart := by
  refine ⟨_, _, _, _, _, fun file hfile ↦ ?_, rfl⟩
  cases hfile
  exact ⟨unlimited, [], rfl⟩

def bannerEntry : JournalRecordType × Bytes :=
  Staged.record journalledStart.engine.config.boot (.epoch ⟨1⟩ .engineShutdown)

theorem logging_journalledStart :
    Logging journalledStart.engine.durability [firstRecord] [bannerEntry] := by
  have hfits : Fits firstRecord := Nat.le_of_ble_eq_true rfl
  obtain ⟨scan, haccept, hstatus, hcommitted⟩ : ∃ scan, ({} : Scan).accept firstRecord = some scan ∧
      scan.result.status = .ok ∧ scan.result.committed = [firstRecord] := ⟨_, rfl, rfl, rfl⟩
  obtain ⟨-, -, -, -, sizeBytes, lastSequence, recordCount, hjournal⟩ | ⟨⟨failure, hfailure⟩, -⟩ :=
    @writeRecord_cases { config := unlimited } .fileHeader 0 bannerPayload [] _ rfl hfits rfl
  · have hnew : Logging { journal := some (newJournal unlimited) } [firstRecord] [] := by
      refine ⟨rfl, newJournal unlimited, scan, rfl, ⟨rfl, by decide, ?_, hstatus⟩, rfl, [], ?_, rfl⟩
      · rw [newJournal, hjournal]
        exact clean_nil.frame hfits haccept
      · rw [hcommitted]
        rfl
    have hplain : ∀ record ∈ [bannerEntry], Plain record.1 := fun record hmem ↦ by
      obtain rfl := List.mem_singleton.1 hmem
      exact ⟨nofun, nofun⟩
    have hroom : Roomy { journal := some (newJournal unlimited) } (transactionSize [bannerEntry] + 0) :=
      fun journal hjournal ↦ by cases hjournal; exact .inl rfl
    have hstrict : journalledStart.engine.config.durability = .strict := rfl
    obtain ⟨-, hlogging, -⟩ | ⟨⟨error, herror⟩, -⟩ := commitRecords_spec hstrict hnew
      (List.cons_ne_nil bannerEntry []) hplain hroom
      (rfl : commitRecords _ journalledStart.engine.tables _ [bannerEntry] [] = _)
    · exact hlogging
    · cases herror
  · cases hfailure

def sampleEntries (actions : List Action) : List (JournalRecordType × Bytes) :=
  content firstRecord :: bannerEntry :: committedAlong journalledStart actions

def wholeRestart (life : Life) : Restart :=
  { crash := { cut := (journalled life).length, config := {}, demotedNs := 9, advancedNs := 9
               io := [] } }

/-- Runs the actions, recovers from the whole of the journal and tests what it has become of. -/
def recovering (actions : List Action) (P : System → Engine → Bool) : Bool :=
  match run step journalledStart actions with
  | none => false
  | some s =>
    decide ((fileOf s.engine.durability).length ≤ kJournalMaxScanBytes) &&
    match recoverFrom {} ((sampleEntries actions).map unplaced) (fileOf s.engine.durability) 9 9 []
      with
    | .error _ => false
    | .ok engine => P s engine

theorem of_recovering {actions : List Action} {P : System → Engine → Bool}
    (hok : Guarded step Appends journalledStart actions) (h : recovering actions P = true) :
    ∃ s engine, run step journalledStart actions = some s ∧
      recoverEngine {} (fileOf s.engine.durability) 9 9 [] = .ok engine ∧
      Logging s.engine.durability [firstRecord] ([bannerEntry] ++
        committedAlong journalledStart actions) ∧ P s engine = true := by
  unfold recovering at h
  split at h
  · cases h
  · next s hrun =>
    obtain ⟨hsize, h⟩ := Bool.and_eq_true_iff.1 h
    have hstrict : journalledStart.engine.config.durability = .strict := rfl
    have hlogging := logging_run hstrict logging_journalledStart hok hrun
    obtain ⟨hscan, -⟩ := scan_of_logging hlogging (of_decide_eq_true hsize)
    have hrecords : recordsIn (fileOf s.engine.durability) = sampleEntries actions :=
      hlogging.recordsIn
    split at h
    · cases h
    · next engine hengine =>
      rw [← hrecords, ← recoverEngine_eq hscan] at hengine
      exact ⟨s, engine, hrun, hengine, hlogging, h⟩

def rereading (actions : List Action) (P : RateEnvelope → Bool) : Bool :=
  recovering actions fun _ engine ↦ (engine.tables.envelopes.find 1).any P

theorem reaches_acts {s : System} (hrun : Reaches step anyStep start s) :
    Reaches liveStep ReadsTrue { system := start } { system := s } := by
  induction hrun with
  | refl => exact .refl
  | @tail t u action _ _ hstep ih =>
    refine .tail ih (a := .act action) trivial ?_
    simp only [liveStep, acted, hstep, Option.map_some, ite_self]

theorem restart_whole {s : System} {engine : Engine}
    (hjournal : s.engine.durability.journal.isSome = true)
    (hengine : recoverEngine {} (fileOf s.engine.durability) 9 9 [] = .ok engine) :
    liveStep { system := s } (.restart (wholeRestart { system := s })) =
      some { system := { engine }, origin := fileOf s.engine.durability } := by
  have htake : (fileOf s.engine.durability).take (wholeRestart { system := s }).crash.cut =
      fileOf s.engine.durability := List.take_length
  obtain ⟨journal, hsome⟩ := Option.isSome_iff_exists.mp hjournal
  have hfile : journalFile s = some (fileOf s.engine.durability) := by
    rw [journalFile, fileOf, hsome]
    rfl
  have hleftover : leftover { system := s } (wholeRestart { system := s }) =
      fileOf s.engine.durability := htake
  simp only [liveStep, restarted, hfile, Option.bind_some, hleftover, htake]
  simp only [recoverEngineWith, wholeRestart, hengine]
  rfl

theorem of_rereading {actions : List Action} {P : RateEnvelope → Bool}
    (hok : Guarded step Appends journalledStart actions) (h : rereading actions P = true) :
    ∃ s life envelope, Reaches liveStep ReadsTrue { system := journalledStart } { system := s } ∧
      recordsIn (leftover { system := s } (wholeRestart { system := s })) = sampleEntries actions ∧
      liveStep { system := s } (.restart (wholeRestart { system := s })) = some life ∧
      life.system.engine.tables.envelopes.find 1 = some envelope ∧ P envelope = true := by
  obtain ⟨s, engine, hrun, hengine, hlogging, hfound⟩ := of_recovering hok h
  obtain ⟨envelope, hfind, hholds⟩ := (Option.any_eq_true _ _).1 hfound
  have hleftover : leftover { system := s } (wholeRestart { system := s }) =
      fileOf s.engine.durability := List.take_length
  obtain ⟨journal, _, hjournal, -⟩ := hlogging.sound
  refine ⟨s, _, envelope, reaches_acts (reaches_of_run (guarded_anyStep _ _) hrun), ?_,
    restart_whole (hjournal ▸ rfl) hengine, hfind, hholds⟩
  rw [hleftover]
  exact hlogging.recordsIn

theorem not_completed_of_nil (file : Bytes) : ¬ Completed [] file := fun h ↦ h.1 rfl

theorem accounts_kept_after_restart : ∃ life envelope,
    Reaches liveStep ReadsTrue { system := journalledStart } life ∧
    life.system.engine.tables.envelopes.find 1 = some envelope ∧
    (envelope.hasPlan = true ∧ envelope.bucket.initialized = true) ∧ KeepsAccounts envelope := by
  have hmisread : (sampleEntries applySample).foldl misread [] = [] := by decide +kernel
  obtain ⟨s, life, envelope, hrun, hrecords, hstep, hfind, hplanned⟩ := of_rereading
    (show Guarded step Appends journalledStart applySample by decide +kernel)
    (show rereading applySample (fun envelope ↦ envelope.hasPlan && envelope.bucket.initialized) =
      true by decide +kernel)
  have hguard : ReadsTrue { system := s } (.restart (wholeRestart { system := s })) := by
    refine ⟨?_, not_completed_of_nil _⟩
    rw [misreadIn, hrecords]
    exact hmisread
  have hreaches := hrun.tail hguard hstep
  exact ⟨life, envelope, hreaches, hfind, Bool.and_eq_true_iff.1 hplanned,
    accounts_kept newborn_journalledStart hreaches hfind⟩

def spendSample : List Action := applySample ++ [⟨.consumeBurst ⟨1⟩ 3 7, []⟩]

/-- The record of a spent burst is read back as a bucket that holds the
identities of the envelope's flow and resource. -/
theorem accounts_lost_after_spending : Newborn journalledStart ∧ ∃ life envelope,
    Reaches liveStep anyStep { system := journalledStart } life ∧
    life.system.engine.tables.envelopes.find 1 = some envelope ∧ ¬ KeepsAccounts envelope := by
  obtain ⟨s, life, envelope, hrun, -, hstep, hfind, hlost⟩ := of_rereading
    (show Guarded step Appends journalledStart spendSample by decide +kernel)
    (show rereading spendSample (fun envelope ↦
      envelope.hasPlan && envelope.bucket.initialized &&
        decide (envelope.bucket.capacity ≠ envelope.plan.burstTokens)) = true by decide +kernel)
  simp only [Bool.and_eq_true, decide_eq_true_eq] at hlost
  refine ⟨newborn_journalledStart, life, envelope,
    (hrun.mono fun _ _ _ ↦ trivial).tail trivial hstep, hfind, fun h ↦ ?_⟩
  exact hlost.2 (h.plan hlost.1.1 hlost.1.2).1

end Samples

end RateGovernor.Safety.BurstAccounts
