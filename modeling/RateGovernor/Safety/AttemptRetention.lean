import RateGovernor.Dynamics.Demotion
import RateGovernor.Dynamics.Filing
import RateGovernor.Dynamics.Shelving

namespace RateGovernor.Safety.AttemptRetention

open Model.CheckedMath Model.Identity Model.Entities Model.Envelope Model.RecordCodec
open Model.EnvelopeCodec Model.Journal Model.JournalWriter Model.EngineState Model.Durability
open Model.Authority Model.Lifecycle Model.Maintenance Model.Execution Model.Recovery
open Foundation.ByteCodec Foundation.KeyedTable Foundation.GuardedRun Dynamics.Install
open Dynamics.Staging Dynamics.Turns Dynamics.Issue Dynamics.Attempts Dynamics.Reopening
open Dynamics.Demotion Dynamics.Filing Dynamics.Start Dynamics.Shelving

variable {s t start : System} {incident : Incident} {config : EngineConfig}
  {tables tables' : Tables} {records : List Staged} {replay : Replay} {committed : List JournalRecord}

/-- One call of `retain_attempt_locked`: the tables it finds and the attempt it retains. -/
structure Retention where
  config : EngineConfig
  tables : Tables
  attempt : EnforcementAttempt

/-- The call forgets no attempt that is in flight, the new one included, and leaves the containers
in step. -/
structure Retention.Sound (call : Retention) : Prop where
  spared : ∀ k a, (call.tables.attempts.put call.attempt).find k = some a →
    attemptInflight a.state = true →
      ∃ a', (call.tables.retainAttempt call.config call.attempt).attempts.find k = some a'
  inStep : InStep (call.tables.retainAttempt call.config call.attempt)

def Retention.Fits (call : Retention) : Prop :=
  Dynamics.Shelving.Fits call.config call.tables call.attempt

instance (call : Retention) : Decidable call.Fits :=
  inferInstanceAs (Decidable (Dynamics.Shelving.Fits _ _ _))

theorem sound_iff {call : Retention} (h : InStep call.tables) : call.Sound ↔ call.Fits :=
  ⟨fun hsound ↦ (inStep_retain_iff h).1 hsound.inStep, fun hfits ↦
    ⟨fun _ a hfind hlive ↦ ⟨a, find_retain_of_fits h hfits hfind hlive⟩,
      (inStep_retain_iff h).2 hfits⟩⟩

section Calls

def installRetentions (config : EngineConfig) : Tables → List Staged → List Retention
  | _, [] => []
  | tables, record :: records =>
    let rest := installRetentions config (tables.install config record) records
    match record with
    | .created attempt => ⟨config, tables, attempt⟩ :: rest
    | _ => rest

def replayRetentions (config : EngineConfig) : Replay → List JournalRecord → List Retention
  | _, [] => []
  | replay, record :: records =>
    let rest := replayRetentions config (replay.record config record.type record.payload) records
    match restoredAttempt record with
    | some attempt => ⟨config, replay.tables, attempt⟩ :: rest
    | none => rest

/-- The calls of `retain_attempt_locked` an incident makes, in their order. -/
def retentions (s : System) : Incident → List Retention
  | .act action => match sectionOf s action.event with
    | none => []
    | some decision =>
      if (decision.commit s.engine action.io).status = none then
        installRetentions s.engine.config s.engine.tables decision.records
      else []
  | .crash crash => match journalFile s with
    | none => []
    | some file =>
      let records := (scanJournalFile (file.take crash.cut)).committed
      let effective := (effectiveConfig crash.config records).normalized
      replayRetentions effective (.fresh effective) records

/-- Every attempt the incident retains fits where it is retained. -/
def Fitting (s : System) (incident : Incident) : Prop :=
  ∀ call ∈ retentions s incident, call.Fits

instance (s : System) (incident : Incident) : Decidable (Fitting s incident) :=
  inferInstanceAs (Decidable (∀ call ∈ retentions s incident, call.Fits))

end Calls

section Containers

theorem inStep_congr (h : InStep tables) (hattempts : tables'.attempts = tables.attempts)
    (hlists : tables'.attemptsByEnvelope = tables.attemptsByEnvelope)
    (horder : tables'.attemptOrder = tables.attemptOrder) : InStep tables' := by
  have hlist (e : RateEnvelopeId) : tables'.attemptList e = tables.attemptList e :=
    congrArg (fun lists ↦ (lists[e.value]?).getD []) hlists
  constructor
  · intro k a hfind
    rw [hattempts] at hfind
    rw [hlist]
    exact h.listed k a hfind
  · intro e k hmem
    rw [hlist] at hmem
    rw [hattempts]
    exact h.stored e k hmem
  · intro e
    rw [hlist]
    exact h.nodup e
  · rw [horder]
    exact h.distinct
  · intro k
    rw [horder, hattempts]
    exact h.ordered k

theorem inStep_empty (hattempts : tables.attempts = .empty)
    (hlists : tables.attemptsByEnvelope = ∅) (horder : tables.attemptOrder = []) :
    InStep tables := by
  have hnone (k : U64) : tables.attempts.find k = none := by
    rw [hattempts]
    exact Registry.find_empty k
  have hlist (e : RateEnvelopeId) : tables.attemptList e = [] := by
    rw [Tables.attemptList, hlists]
    rfl
  constructor
  · intro k a hfind
    cases (hnone k).symm.trans hfind
  · intro e k hmem
    rw [hlist] at hmem
    cases hmem
  · intro e
    rw [hlist]
    exact List.nodup_nil
  · rw [horder]
    exact List.nodup_nil
  · intro k
    rw [horder, hnone]
    refine ⟨fun hmem ↦ absurd hmem List.not_mem_nil, ?_⟩
    rintro ⟨a, ha⟩
    cases ha

theorem inStep_installed (h : InStep tables)
    (hnone : ∀ record ∈ records, ∀ attempt, record ≠ .created attempt)
    (hmoved : ∀ type a, .attempt type a ∈ records →
      ∃ old, tables.attempts.find a.id.value = some old ∧ a.envelope = old.envelope) :
    InStep (installed config tables records) := by
  obtain ⟨horder, hlists⟩ := @installed_lists config _ tables hnone
  have hlist (e : RateEnvelopeId) : (installed config tables records).attemptList e =
      tables.attemptList e := congrArg (fun lists ↦ (lists[e.value]?).getD []) hlists
  have hback {k : U64} {a : EnforcementAttempt}
      (hfind : (installed config tables records).attempts.find k = some a) :
      ∃ old, tables.attempts.find k = some old ∧ a.envelope = old.envelope := by
    obtain ⟨record, hmem, hrecord⟩ | hold := installed_attempts _ _ hfind
    · cases record with
      | created value => exact absurd rfl (hnone _ hmem value)
      | attempt type value =>
        cases hrecord
        obtain ⟨old, hold, henvelope⟩ := hmoved _ _ hmem
        rw [Registry.key_of_find hfind] at hold
        exact ⟨old, hold, henvelope⟩
      | _ => cases hrecord
    · exact ⟨a, hold, rfl⟩
  have hforth {k : U64} {old : EnforcementAttempt} (hfind : tables.attempts.find k = some old) :
      ∃ a, (installed config tables records).attempts.find k = some a ∧
        a.envelope = old.envelope := by
    rw [installed_attempts_putAll _ _ hnone]
    obtain ⟨a, ha, -⟩ := Registry.find_putAll_of_find (f := attempt?) hfind records
    rw [← installed_attempts_putAll _ _ hnone] at ha
    obtain ⟨old', hold', henvelope⟩ := hback ha
    cases hfind.symm.trans hold'
    rw [installed_attempts_putAll _ _ hnone] at ha
    exact ⟨a, ha, henvelope⟩
  constructor
  · intro k a hfind
    obtain ⟨old, hold, henvelope⟩ := hback hfind
    rw [hlist, henvelope]
    exact h.listed k old hold
  · intro e k hmem
    rw [hlist] at hmem
    obtain ⟨old, hold, rfl⟩ := h.stored e k hmem
    exact hforth hold
  · intro e
    rw [hlist]
    exact h.nodup e
  · rw [horder]
    exact h.distinct
  · intro k
    rw [horder, h.ordered]
    refine ⟨fun ⟨old, hold⟩ ↦ ?_, fun ⟨a, ha⟩ ↦ ?_⟩
    · obtain ⟨a, ha, -⟩ := hforth hold
      exact ⟨a, ha⟩
    · obtain ⟨old, hold, -⟩ := hback ha
      exact ⟨old, hold⟩

end Containers

section Sections

variable {action : Action} {decision : Section}

theorem installRetentions_of_none (tables : Tables)
    (hnone : ∀ record ∈ records, ∀ attempt, record ≠ .created attempt) :
    installRetentions config tables records = [] := by
  induction records generalizing tables with
  | nil => rfl
  | cons record records ih =>
    have hrest := ih (tables.install config record)
      fun other hmem ↦ hnone other (List.mem_cons_of_mem _ hmem)
    cases record with
    | created attempt => exact absurd rfl (hnone _ List.mem_cons_self attempt)
    | _ => exact hrest

theorem installRetentions_append (tables : Tables) (before after : List Staged) :
    installRetentions config tables (before ++ after) = installRetentions config tables before ++
      installRetentions config (installed config tables before) after := by
  induction before generalizing tables with
  | nil => rfl
  | cons record before ih =>
    have hrest := ih (tables.install config record)
    cases record with
    | created attempt => exact congrArg (List.cons _) hrest
    | _ => exact hrest

/-- What a section installs keeps the containers in step exactly when the attempts it retains fit. -/
theorem installed_inStep (h : InStep s.engine.tables)
    (hsection : sectionOf s action.event = some decision) :
    let calls := installRetentions s.engine.config s.engine.tables decision.records
    ((∀ call ∈ calls, call.Sound) ↔ ∀ call ∈ calls, call.Fits) ∧
      ((∀ call ∈ calls, call.Fits) →
        InStep (installed s.engine.config s.engine.tables decision.records)) := by
  simp only
  cases files_of_issues (issues_of_sectionOf hsection) with
  | nothing hnone =>
    rw [installRetentions_of_none _ hnone]
    refine ⟨⟨fun _ _ hmem ↦ (nomatch hmem), fun _ _ hmem ↦ (nomatch hmem)⟩, fun _ ↦ ?_⟩
    refine inStep_installed h hnone fun type a hmem ↦ ?_
    obtain ⟨old, hold, hmoves⟩ := moves_of_stages (stages_of_sectionOf hsection hmem)
    exact ⟨old, hold, congrArg AttemptIdentity.envelope hmoves.same⟩
  | @attempt before after attempt hsplit haround =>
    obtain ⟨envelopes, hbefore⟩ := @installed_of_envelopes s.engine.config _ s.engine.tables
      fun record hmem ↦ haround record (List.mem_append_left _ hmem)
    have hbase : InStep { s.engine.tables with envelopes } := inStep_congr h rfl rfl rfl
    obtain ⟨envelopes', hafter⟩ := @installed_of_envelopes s.engine.config _
      (({ s.engine.tables with envelopes } : Tables).retainAttempt s.engine.config attempt)
      fun record hmem ↦ haround record (List.mem_append_right _ hmem)
    have htables : installed s.engine.config s.engine.tables decision.records =
        { ({ s.engine.tables with envelopes } : Tables).retainAttempt s.engine.config attempt with
          envelopes := envelopes' } := by
      rw [← hafter, ← hbefore, hsplit]
      unfold installed
      rw [List.foldl_append]
      rfl
    have hnew (list : List Staged) (hmem : ∀ record ∈ list, ∃ type envelope,
        record = .envelope type envelope) : ∀ record ∈ list, ∀ a, record ≠ .created a := by
      intro record hrecord a
      obtain ⟨type, envelope, rfl⟩ := hmem record hrecord
      exact nofun
    have hcalls : installRetentions s.engine.config s.engine.tables decision.records =
        [⟨s.engine.config, { s.engine.tables with envelopes }, attempt⟩] := by
      rw [hsplit, installRetentions_append, installRetentions_of_none _ (hnew before fun r hr ↦
        haround r (List.mem_append_left _ hr)), hbefore, List.nil_append]
      exact congrArg (List.cons _) (installRetentions_of_none _ (hnew after fun r hr ↦
        haround r (List.mem_append_right _ hr)))
    rw [hcalls, htables]
    simp only [List.mem_singleton, forall_eq]
    have hcall : Retention.Sound ⟨s.engine.config, { s.engine.tables with envelopes }, attempt⟩ ↔ _ :=
      sound_iff hbase
    refine ⟨hcall, fun hfits ↦ ?_⟩
    exact inStep_congr (hcall.2 hfits).inStep rfl rfl rfl

end Sections

section Replays

theorem record_attempts (config : EngineConfig) (replay : Replay) (record : JournalRecord) :
    match restoredAttempt record with
    | some attempt => (replay.record config record.type record.payload).tables =
        replay.tables.retainAttempt config attempt
    | none => (replay.record config record.type record.payload).tables.attempts =
          replay.tables.attempts ∧
        (replay.record config record.type record.payload).tables.attemptsByEnvelope =
          replay.tables.attemptsByEnvelope ∧
        (replay.record config record.type record.payload).tables.attemptOrder =
          replay.tables.attemptOrder := by
  unfold restoredAttempt Replay.record
  generalize record.type = type
  cases type with
  | attemptCreated | attemptDispatched | attemptAcknowledged | attemptTerminated | attemptVerified
  | attemptCompensating =>
    simp only
    cases decodePayload decodeAttempt record.payload with
    | none => exact ⟨rfl, rfl, rfl⟩
    | some attempt => rfl
  | envelopeCounters =>
    simp only
    split
    · exact ⟨rfl, rfl, rfl⟩
    · unfold Replay.patchCounters
      repeat' split
      all_goals exact ⟨rfl, rfl, rfl⟩
  | _ =>
    dsimp only
    repeat' split
    all_goals exact ⟨rfl, rfl, rfl⟩

theorem replay_inStep (h : InStep replay.tables) :
    ((∀ call ∈ replayRetentions config replay committed, call.Sound) ↔
      ∀ call ∈ replayRetentions config replay committed, call.Fits) ∧
    ((∀ call ∈ replayRetentions config replay committed, call.Fits) →
      InStep (applySnapshotRecords config replay committed).tables) := by
  induction committed generalizing replay with
  | nil => exact ⟨⟨fun _ _ hmem ↦ (nomatch hmem), fun _ _ hmem ↦ (nomatch hmem)⟩, fun _ ↦ h⟩
  | cons record committed ih =>
    have hrecord := record_attempts config replay record
    unfold replayRetentions
    simp only
    cases hattempt : restoredAttempt record with
    | none =>
      rw [hattempt] at hrecord
      obtain ⟨hattempts, hlists, horder⟩ := hrecord
      exact ih (inStep_congr h hattempts hlists horder)
    | some attempt =>
      rw [hattempt] at hrecord
      have hcall := @sound_iff ⟨config, replay.tables, attempt⟩ h
      have hnext (hfits : Dynamics.Shelving.Fits config replay.tables attempt) :
          InStep (replay.record config record.type record.payload).tables := by
        rw [hrecord]
        exact (inStep_retain_iff h).2 hfits
      simp only [List.mem_cons, forall_eq_or_imp]
      refine ⟨⟨fun ⟨hsound, hrest⟩ ↦ ?_, fun ⟨hfits, hrest⟩ ↦ ?_⟩, fun ⟨hfits, hrest⟩ ↦ ?_⟩
      · exact ⟨hcall.1 hsound, (ih (hnext (hcall.1 hsound))).1.1 hrest⟩
      · exact ⟨hcall.2 hfits, (ih (hnext hfits)).1.2 hrest⟩
      · exact (ih (hnext hfits)).2 hrest

theorem inStep_of_recoverEngine {file : Bytes} {demotedNs advancedNs : U64} {io : Io}
    {engine : Engine} (h : recoverEngine config file demotedNs advancedNs io = .ok engine)
    (hreplayed : InStep (replayed config file)) : InStep engine.tables := by
  obtain ⟨-, hdemoted, hadvanced, rfl⟩ := recoverEngine_ok h
  obtain ⟨-, -, htables⟩ := demoteForRecovery_done hdemoted
  rw [← tables_rebuilt config file io] at hreplayed
  have hstep : InStep (demoted config file demotedNs io).1.tables := by
    refine htables ▸ inStep_installed hreplayed ?_ ?_
    · intro record hmem attempt
      obtain ⟨found, -, rfl⟩ | ⟨v, -, w, -, rfl⟩ := demoteForRecovery_records hmem <;> exact nofun
    · intro type a hmem
      obtain ⟨found, hfound, hrecord⟩ | ⟨v, -, w, -, hrecord⟩ := demoteForRecovery_records hmem
      · cases hrecord
        exact ⟨found, Registry.mem_entries.1 (List.mem_filter.1 hfound).1, rfl⟩
      · cases hrecord
  unfold advanced advancedOnRecovery at hadvanced ⊢
  split at hadvanced
  · next hconfigured =>
    rw [if_pos hconfigured]
    obtain ⟨-, -, htables'⟩ := advanceEpoch_done hadvanced
    rw [htables']
    refine inStep_installed hstep ?_ ?_
    · intro record hmem attempt
      obtain rfl | ⟨envelope, rfl⟩ := advanceEpoch_records hmem <;> exact nofun
    · intro type a hmem
      obtain hrecord | ⟨envelope, hrecord⟩ := advanceEpoch_records hmem <;> cases hrecord
  · next hconfigured =>
    rw [if_neg hconfigured]
    exact hstep

end Replays

section Lives

/-- In what an incident does to an engine whose containers are in step, the first attempt that does
not fit is the first to put them out of step or to cost one that is in flight. -/
theorem lifeStep_inStep (h : InStep s.engine.tables) (hstep : lifeStep s incident = some t) :
    ((∀ call ∈ retentions s incident, call.Sound) ↔ Fitting s incident) ∧
      (Fitting s incident → InStep t.engine.tables) := by
  cases incident with
  | act action =>
    obtain ⟨decision, hsection, hturn⟩ := turn_of_step hstep
    have hinstalled := installed_inStep h hsection
    unfold Fitting retentions
    simp only [hsection]
    split
    · next hstatus =>
      refine ⟨hinstalled.1, fun hfits ↦ ?_⟩
      cases hturn with
      | quiet => exact h
      | failed => exact h
      | committed => exact hinstalled.2 hfits
    · next hstatus =>
      refine ⟨⟨fun _ _ hmem ↦ (nomatch hmem), fun _ _ hmem ↦ (nomatch hmem)⟩, fun _ ↦ ?_⟩
      cases hturn with
      | quiet => exact h
      | failed => exact h
      | committed _ hcommitted => exact absurd hcommitted hstatus
  | crash crash =>
    obtain ⟨file, hfile, hrecovered⟩ := Option.bind_eq_some_iff.1 hstep
    unfold Fitting retentions
    simp only [hfile]
    generalize hcut : file.take crash.cut = cut at hrecovered
    have hfresh (config : EngineConfig) : InStep (Replay.fresh config).tables :=
      inStep_empty rfl rfl rfl
    have hreplay (effective : EngineConfig) := @replay_inStep effective (.fresh effective)
      (scanJournalFile cut).committed (hfresh effective)
    refine ⟨(hreplay _).1, fun hfits ↦ ?_⟩
    split at hrecovered
    · cases hrecovered
    · next engine hok =>
      cases hrecovered
      exact inStep_of_recoverEngine hok ((hreplay _).2 hfits)

/-- Through operations, crashes and recoveries, the containers are in step as long as every attempt
that is retained fits; and where the next incident retains attempts, it spares those in flight and
leaves the containers in step after each exactly when they fit. -/
theorem retention_sound_iff (hfresh : Fresh start) (hrun : Reaches lifeStep Fitting start s) :
    InStep s.engine.tables ∧ ∀ incident t, lifeStep s incident = some t →
      ((∀ call ∈ retentions s incident, call.Sound) ↔ Fitting s incident) := by
  have hstart : InStep start.engine.tables := by
    obtain ⟨⟨epoch, htables⟩, -⟩ := empty_of_fresh hfresh
    rw [htables]
    exact inStep_empty rfl rfl rfl
  have hinStep : InStep s.engine.tables := hrun.invariant (I := fun s ↦ InStep s.engine.tables) hstart
    fun _ _ _ h hfits hstep ↦ (lifeStep_inStep h hstep).2 hfits
  exact ⟨hinStep, fun _ _ hstep ↦ (lifeStep_inStep hinStep hstep).1⟩

end Lives

section Sample

def pairStart : System :=
  { engine := (construct { durability := .none, maxAttemptsPerEnvelope := 2 }
      (some ⟨sampleBackend⟩) { epoch := ⟨1⟩, boot := ⟨1⟩ } none []).1 }

def confirmedApply (now : U64) : List Action :=
  [⟨.apply ⟨1⟩ actor now {}, []⟩, ⟨.dispatched 0 { status := .completed }, []⟩,
    ⟨.readClock 0 now, []⟩, ⟨.finish 0, []⟩, ⟨.readBack 0 samplePresent now, []⟩,
    ⟨.publish 0 now, []⟩]

def twoApplies : List Action :=
  register ++ [⟨.openEnvelope sampleRequest actor 5, []⟩] ++ confirmedApply 6 ++ confirmedApply 7

def thirdApply : Incident := .act ⟨.apply ⟨1⟩ actor 8 {}, []⟩

/-- The third apply costs the first one, which has been finished, its attempt. -/
theorem retention_sound_sample : ∃ s t : System, lifeStep s thirdApply = some t ∧
    (s.engine.tables.attempts.find 1).isSome = true ∧
    (t.engine.tables.attempts.find 1).isNone = true ∧
    (t.engine.tables.attempts.find 3).isSome = true ∧
    InStep s.engine.tables ∧ ∀ call ∈ retentions s thirdApply, call.Sound := by
  obtain ⟨s, hs⟩ := Option.isSome_iff_exists.1 (by decide +kernel :
    (run lifeStep pairStart (twoApplies.map .act)).isSome = true)
  have hevicted : (run lifeStep pairStart (twoApplies.map .act)).any (fun s ↦
      (lifeStep s thirdApply).any (fun t ↦ (s.engine.tables.attempts.find 1).isSome &&
        (t.engine.tables.attempts.find 1).isNone && (t.engine.tables.attempts.find 3).isSome) &&
        decide (Fitting s thirdApply)) = true := by
    decide +kernel
  rw [hs, Option.any_some, Bool.and_eq_true] at hevicted
  obtain ⟨t, ht, hfound⟩ := (Option.any_eq_true _ _).1 hevicted.1
  simp only [Bool.and_eq_true] at hfound
  have hreaches : Reaches lifeStep Fitting pairStart s := reaches_of_run (by decide +kernel) hs
  obtain ⟨hinStep, hsound⟩ := retention_sound_iff ⟨_, _, _, _, _, rfl⟩ hreaches
  exact ⟨s, t, ht, hfound.1.1, hfound.1.2, hfound.2, hinStep,
    (hsound _ _ ht).2 (of_decide_eq_true hevicted.2)⟩

def narrowStart : System :=
  { engine := (construct { durability := .none, maxEnvelopes := 1, maxAttemptsPerEnvelope := 1 }
      (some ⟨sampleBackend⟩) { epoch := ⟨1⟩, boot := ⟨1⟩ } none []).1 }

def narrowDispatched : System := drive lifeStep narrowStart (dispatchSample.map .act)

def narrowRevoke : Incident := .act ⟨.revoke ⟨1⟩ .none actor 6 {}, []⟩

/-- The revoke costs the apply its attempt, which is still in flight. -/
theorem inflight_attempt_forgotten :
    ¬ ∀ start s incident t, Fresh start → Reaches lifeStep anyStep start s →
      lifeStep s incident = some t → ∀ call ∈ retentions s incident, call.Sound := by
  intro h
  obtain ⟨t, ht⟩ := Option.isSome_iff_exists.1 (by decide +kernel :
    (lifeStep narrowDispatched narrowRevoke).isSome = true)
  have hforgotten : ((retentions narrowDispatched narrowRevoke).any fun call ↦
      (((call.tables.attempts.put call.attempt).find 1).any fun a ↦ attemptInflight a.state) &&
        ((call.tables.retainAttempt call.config call.attempt).attempts.find 1).isNone) = true := by
    decide +kernel
  obtain ⟨call, hmem, hcall⟩ := List.any_eq_true.1 hforgotten
  rw [Bool.and_eq_true] at hcall
  obtain ⟨a, hfind, hlive⟩ := (Option.any_eq_true _ _).1 hcall.1
  obtain ⟨a', hkept⟩ := (h narrowStart narrowDispatched narrowRevoke t ⟨_, _, _, _, _, rfl⟩
    (reaches_drive fun _ _ _ ↦ trivial) ht call hmem).spared 1 a hfind hlive
  rw [hkept] at hcall
  cases hcall.2

end Sample

end RateGovernor.Safety.AttemptRetention
