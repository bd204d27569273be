import RateGovernor.Dynamics.Passes

namespace RateGovernor.Dynamics.Ticking

open Model.CheckedMath Model.Identity Model.Reason Model.Entities Model.Envelope Model.EngineState
open Model.Bucket Model.Durability Model.Authority Model.Calls Model.Lifecycle Model.Completion
open Model.Revocation Model.Maintenance Model.Execution Foundation.KeyedTable Install Sections
open Bindings States Staging Turns Waiting Passes

variable {engine : Engine} {tables : Tables} {config : EngineConfig} {now k : U64} {lost : Bool}
  {session : Session} {envelope : RateEnvelope} {updates : List RateEnvelope}

theorem id_sessionLost {lost : RateEnvelope} (h : sessionLostEnvelope envelope = some lost) :
    lost.id = envelope.id :=
  congrArg Binding.id (binding_of_sessionLost h)

theorem collected_sessionLost (tables : Tables) :
    collectSessionLostUpdates tables = tables.envelopes.entries.filterMap sessionLostEnvelope := by
  have hsub : ((tables.envelopes.entries.filterMap sessionLostEnvelope).map (·.id.value)).Sublist
      (tables.envelopes.entries.map (·.id.value)) := by
    induction tables.envelopes.entries with
    | nil => exact List.Sublist.refl _
    | cons envelope list ih =>
      cases hlost : sessionLostEnvelope envelope with
      | none =>
        rw [List.filterMap_cons_none hlost]
        exact ih.cons _
      | some lost =>
        rw [List.filterMap_cons_some hlost, List.map_cons, List.map_cons, id_sessionLost hlost]
        exact ih.cons_cons _
  exact foldl_mergeBy_of_nodup [] (hsub.nodup (Registry.nodup_entries _))

theorem updates_tickStart : (tickStart engine now lost).envelopeUpdates =
    if lost = true then engine.tables.envelopes.entries.filterMap sessionLostEnvelope else [] := by
  unfold tickStart
  simp only
  split
  · rw [← collected_sessionLost]
    refine foldl_mergeBy_of_nodup [] ?_
    exact nodup_foldl_mergeBy _ List.nodup_nil
  · rfl

theorem updatesOf_tickStart : updatesOf (tickStart engine now lost) k =
    if lost = true then (engine.tables.envelopes.find k).bind sessionLostEnvelope else none := by
  unfold updatesOf
  rw [updates_tickStart]
  split
  · rw [entryOf_filterMap (fun _ _ h ↦ congrArg _ (id_sessionLost h)) (Registry.nodup_entries _),
      entryOf_entries]
  · rfl

/-- How many updates a tick holds when its pass comes to the envelope with this key. -/
def backlog (tables : Tables) (now : U64) (lost : Bool) (k : U64) : ℕ :=
  (if lost then tables.envelopes.entries.countP fun e ↦ (sessionLostEnvelope e).isSome else 0) +
    (tables.envelopes.entries.takeWhile fun e ↦ e.id.value ≠ k).countP fun e ↦
      touched tables now e && !(lost && (sessionLostEnvelope e).isSome)

/-- Whether the tick writes what its maintenance pass makes of the envelope. -/
def reached (tables : Tables) (now : U64) (lost : Bool) (envelope : RateEnvelope) : Bool :=
  touched tables now envelope &&
    backlog tables now lost envelope.id.value < kMaxTickEnvelopeTransitions

def expired (tables : Tables) (now : U64) (envelope : RateEnvelope) : Bool :=
  (timedOut now kMaxTickAttemptTransitions tables.attempts.entries).any fun attempt ↦
    attempt.envelope.value = envelope.id.value

/-- What a tick stages for an envelope. The last of its passes to write the envelope decides. -/
def rewritten (tables : Tables) (now : U64) (lost : Bool) (envelope : RateEnvelope) :
    Option RateEnvelope :=
  if expired tables now envelope then some (doubtedEnvelope envelope .attemptDeadlineExceeded now)
  else if reached tables now lost envelope then some (maintained tables envelope now)
  else if lost then sessionLostEnvelope envelope
  else none

def ticked (tables : Tables) (now : U64) (lost : Bool) (envelope : RateEnvelope) : RateEnvelope :=
  (rewritten tables now lost envelope).getD envelope

theorem split_entries (hfind : tables.envelopes.find k = some envelope) :
    ∃ after, tables.envelopes.entries =
      (tables.envelopes.entries.takeWhile fun e ↦ e.id.value ≠ k) ++ envelope :: after :=
  split_of_entryOf ((entryOf_entries _).trans hfind)

theorem length_start : (tickStart engine now lost).envelopeUpdates.length =
    if lost = true then engine.tables.envelopes.entries.countP fun e ↦ (sessionLostEnvelope e).isSome
    else 0 := by
  rw [updates_tickStart]
  split
  · rw [List.length_filterMap_eq_countP]
  · rfl

theorem length_before :
    (((engine.tables.envelopes.entries.takeWhile fun e ↦ e.id.value ≠ k).foldl
      (tickEnvelope engine.tables now) (tickStart engine now lost)).envelopeUpdates.length <
        kMaxTickEnvelopeTransitions) ↔
      backlog engine.tables now lost k < kMaxTickEnvelopeTransitions := by
  have hsub := (List.takeWhile_sublist (l := engine.tables.envelopes.entries)
    fun e ↦ decide (e.id.value ≠ k))
  have hcharged : charged engine.tables now (tickStart engine now lost)
      (engine.tables.envelopes.entries.takeWhile fun e ↦ e.id.value ≠ k) =
        (engine.tables.envelopes.entries.takeWhile fun e ↦ e.id.value ≠ k).countP fun e ↦
          touched engine.tables now e && !(lost && (sessionLostEnvelope e).isSome) := by
    refine List.countP_congr fun e hmem ↦ ?_
    have hstored := Registry.mem_entries.1 (hsub.mem hmem)
    rw [updatesOf_tickStart]
    cases lost with
    | false => simp only [Bool.false_eq_true, if_false, Option.isNone_none, Bool.false_and,
        Bool.not_false]
    | true =>
      simp only [if_true, hstored, Option.bind_some, Bool.true_and, Option.not_isSome]
  rw [length_pass ((hsub.map _).nodup (Registry.nodup_entries _)), hcharged, length_start]
  unfold backlog
  omega

theorem updatesOf_tickPasses (engine : Engine) (now : U64) (lost : Bool) (k : U64) :
    updatesOf (tickPasses engine now lost) k =
    (engine.tables.envelopes.find k).bind (rewritten engine.tables now lost) := by
  have hnone : (engine.tables.envelopes.entries.foldl (tickEnvelope engine.tables now)
      (tickStart engine now lost)).attemptUpdates = [] := by
    have hkept (list : List RateEnvelope) (state : TickState) :
        (list.foldl (tickEnvelope engine.tables now) state).attemptUpdates =
          state.attemptUpdates := by
      induction list generalizing state with
      | nil => rfl
      | cons envelope list ih => exact ih _
    exact hkept _ _
  unfold tickPasses
  rw [updatesOf_attempts (Registry.nodup_entries _) (fun a _ ↦ by rw [hnone]; rfl), hnone,
    List.length_nil, Nat.sub_zero]
  cases hfind : engine.tables.envelopes.find k with
  | none =>
    have hnew : k ∉ engine.tables.envelopes.entries.map (·.id.value) := by
      intro hmem
      obtain ⟨e, he, hkey⟩ := List.mem_map.1 hmem
      rw [Registry.mem_entries, hkey, hfind] at he
      cases he
    rw [updatesOf_pass_of_notMem hnew, updatesOf_tickStart, doubted, hfind]
    simp only [Option.bind_none, ite_self, Option.map_none, Option.none_or]
  | some envelope =>
    obtain ⟨after, hentries⟩ := split_entries hfind
    have hkey := Registry.key_of_find hfind
    have hdistinct := Registry.nodup_entries engine.tables.envelopes
    rw [hentries] at hdistinct
    have hpass := updatesOf_pass engine.tables now (tickStart engine now lost) hdistinct
    rw [← hentries, hkey, updatesOf_tickStart, hfind] at hpass
    simp only [length_before] at hpass
    rw [hpass, doubted, hfind]
    simp only [Option.map_some, Option.some_or, Option.bind_some, rewritten, expired, reached, hkey,
      Bool.and_eq_true, decide_eq_true_eq]

theorem find_staged {r : Registry RateEnvelope (·.id.value)} {attempts : List EnforcementAttempt}
    (h : (updates.map (·.id.value)).Nodup) :
    (r.putAll envelope? (stageEnvelopes updates ++ stageTerminated attempts)).find k =
      (entryOf (·.id.value) k updates).or (r.find k) := by
  induction updates generalizing r with
  | nil =>
    have hnone : r.putAll envelope? (stageTerminated attempts) = r := by
      refine Registry.putAll_of_none fun record hmem ↦ ?_
      obtain ⟨attempt, -, rfl⟩ := List.mem_map.1 hmem
      rfl
    exact congrArg (Registry.find · k) hnone
  | cons update updates ih =>
    rw [List.map_cons, List.nodup_cons] at h
    have hput := ih (r := r.put update) h.2
    refine hput.trans ?_
    rw [entryOf_cons, Registry.find_put]
    split
    · next hkey =>
      rw [entryOf_none (by rw [← hkey]; exact h.1)]
      rfl
    · rfl

def losesSession (engine : Engine) (session : Session) : Bool :=
  engine.control.backend.isSome && engine.control.backendBound && !session.live

/-- A tick that commits leaves every envelope as its passes rewrite it. -/
theorem tick_find (engine : Engine) (config : EngineConfig) (now : U64) (session : Session)
    (k : U64) :
    (installed config engine.tables (tick engine now session).records).envelopes.find k =
      (engine.tables.envelopes.find k).map
        (ticked engine.tables now (losesSession engine session)) := by
  have hdistinct := (degrades_tickPasses engine now (losesSession engine session)).distinct
  rw [(installed_registries _ _).2.2.2.2.2.2]
  refine (find_staged hdistinct).trans ?_
  have hupdates := updatesOf_tickPasses engine now (losesSession engine session) k
  rw [updatesOf] at hupdates
  rw [hupdates]
  cases engine.tables.envelopes.find k with
  | none => rfl
  | some envelope =>
    rw [Option.bind_some, Option.map_some, ticked]
    cases rewritten engine.tables now (losesSession engine session) envelope <;> rfl

theorem installed_envelopes (list : List RateEnvelope) :
    installed config tables (stageEnvelopes list) =
      { tables with envelopes := list.foldl Registry.put tables.envelopes } := by
  induction list generalizing tables with
  | nil => rfl
  | cons envelope list ih =>
    exact @ih { tables with envelopes := tables.envelopes.put envelope }

theorem installed_terminated (list : List EnforcementAttempt) :
    installed config tables (stageTerminated list) =
      { tables with attempts := list.foldl Registry.put tables.attempts } := by
  induction list generalizing tables with
  | nil => rfl
  | cons attempt list ih =>
    exact @ih { tables with attempts := tables.attempts.put attempt }

theorem authorityStatus_tick (engine : Engine) (config : EngineConfig) (now : U64)
    (session : Session) :
    authorityStatus (installed config engine.tables (tick engine now session).records) =
      authorityStatus engine.tables := by
  have hrecords : installed config engine.tables (tick engine now session).records =
      installed config (installed config engine.tables (stageEnvelopes _)) (stageTerminated _) :=
    List.foldl_append
  rw [hrecords, installed_envelopes, installed_terminated]
  rfl

section Stages

/-- What the maintenance pass makes of an envelope before it looks at the authority behind it. -/
def restored (now : U64) (envelope : RateEnvelope) : RateEnvelope :=
  cooldownStage (refillStage envelope now).1 now

/-- Whether the pass finds the authority behind an envelope gone, and says so. -/
def outlived (tables : Tables) (now : U64) (envelope : RateEnvelope) : Bool :=
  goesStale (restored now envelope) (authorityStatus tables (restored now envelope) now)

theorem same_restored (now : U64) (envelope : RateEnvelope) :
    (restored now envelope).effectVerified = envelope.effectVerified ∧
      (restored now envelope).appliedRateUps = envelope.appliedRateUps ∧
      (restored now envelope).requiresRevalidation = envelope.requiresRevalidation := by
  have hrefill : (refillStage envelope now).1.effectVerified = envelope.effectVerified ∧
      (refillStage envelope now).1.appliedRateUps = envelope.appliedRateUps ∧
      (refillStage envelope now).1.requiresRevalidation = envelope.requiresRevalidation := by
    unfold refillStage
    split <;> exact ⟨rfl, rfl, rfl⟩
  unfold restored cooldownStage
  split <;> exact hrefill

theorem state_restored (now : U64) (envelope : RateEnvelope) :
    (restored now envelope).state = envelope.state ∨
      envelope.state = .degraded ∧ (restored now envelope).state = .authorized := by
  have hrefill := state_refillStage envelope now
  by_cases hdegraded : envelope.state = .degraded
  · unfold restored cooldownStage
    split
    · exact .inl hrefill
    · simp only
      split
      · exact .inr ⟨hdegraded, rfl⟩
      · exact .inl hrefill
  · refine .inl ((state_cooldownStage ?_ now).trans hrefill)
    rw [hrefill]
    exact hdegraded

theorem maintained_of_not_outlived (h : outlived tables now envelope = false) :
    maintained tables envelope now = { restored now envelope with updatedNs := now } := by
  have hkept : staleStage (restored now envelope)
      (authorityStatus tables (restored now envelope) now) = restored now envelope := by
    unfold staleStage
    rw [if_pos]
    rw [show goesStale _ _ = false from h]
    rfl
  exact congrArg (fun e : RateEnvelope ↦ { e with updatedNs := now }) hkept

theorem maintained_of_outlived (h : outlived tables now envelope = true) :
    maintained tables envelope now =
      { restored now envelope with
        requiresRevalidation :=
          holdsEffect (restored now envelope) || (restored now envelope).requiresRevalidation
        effectVerified := false
        state := if holdsEffect (restored now envelope) then .revokePending else .stale
        reason := authorityStatus tables (restored now envelope) now
        updatedNs := now } := by
  have hgone : staleStage (restored now envelope)
      (authorityStatus tables (restored now envelope) now) =
        { restored now envelope with
          requiresRevalidation :=
            holdsEffect (restored now envelope) || (restored now envelope).requiresRevalidation
          effectVerified := false
          state := if holdsEffect (restored now envelope) then .revokePending else .stale
          reason := authorityStatus tables (restored now envelope) now } := by
    unfold staleStage
    rw [if_neg]
    rw [show goesStale _ _ = true from h]
    exact Bool.false_ne_true
  exact congrArg (fun e : RateEnvelope ↦ { e with updatedNs := now }) hgone

end Stages

end RateGovernor.Dynamics.Ticking
