import Mathlib.Data.List.Nodup
import RateGovernor.Dynamics.Retention
import RateGovernor.Dynamics.Serials

namespace RateGovernor.Dynamics.Filing

open Model.CheckedMath Model.Identity Model.Entities Model.Envelope Model.EngineState
open Model.Durability Model.Lifecycle Model.Revocation Model.Execution Foundation.KeyedTable
open Foundation.GuardedRun Install Sections Staging Turns Evolution Bindings Halting Issue Attempts
open Retention Start Serials

variable {config : EngineConfig} {tables : Tables} {attempt : EnforcementAttempt}

/-- The stored attempts are applies and revokes, known by their key, and at most one of each kind
is in flight for an envelope. -/
structure Regular (attempts : Registry EnforcementAttempt (·.id.value)) : Prop where
  kind : ∀ k a, attempts.find k = some a → a.kind = .apply ∨ a.kind = .revoke
  key : ∀ k a, attempts.find k = some a → a.idempotencyKey =
    computeIdempotencyKey a.envelope a.envelopeGeneration a.kind
  settled : ∀ k a, attempts.find k = some a →
    attemptInflight a.state = true ∨ attemptStateIsTerminal a.state = true
  single : ∀ k k' a a', attempts.find k = some a → attempts.find k' = some a' →
    attemptInflight a.state = true → attemptInflight a'.state = true →
    a.envelope = a'.envelope → a.kind = a'.kind → k = k'

/-- The stored attempts are on the lists they are forgotten by, and few enough to stay there. The
lists may also name attempts that were forgotten. -/
structure Shelved (config : EngineConfig) (tables : Tables) : Prop where
  listed : ∀ k a, tables.attempts.find k = some a → k ∈ tables.attemptList a.envelope
  ordered : ∀ k a, tables.attempts.find k = some a → k ∈ tables.attemptOrder
  nodup : ∀ e, (tables.attemptList e).Nodup
  room : tables.attemptOrder.length ≤ (config.maxEnvelopes * config.maxAttemptsPerEnvelope).toNat
  few : ∀ e (keys : List U64), keys.Nodup →
    (∀ k ∈ keys, ∃ a, tables.attempts.find k = some a ∧ a.envelope = e) →
    keys.length ≤ config.maxAttemptsPerEnvelope.toNat

section Live

theorem live_le_two {attempts : Registry EnforcementAttempt (·.id.value)} {keys : List U64}
    (e : RateEnvelopeId) (h : Regular attempts) (hnodup : keys.Nodup)
    (hlive : ∀ k ∈ keys, ∃ a, attempts.find k = some a ∧ a.envelope = e ∧
      attemptInflight a.state = true) : keys.length ≤ 2 := by
  have hkinds : (keys.map fun k ↦ (attempts.find k).map (·.kind)) ⊆
      [some .apply, some .revoke] := by
    intro kind hkind
    obtain ⟨k, hk, rfl⟩ := List.mem_map.1 hkind
    obtain ⟨a, hfind, -, -⟩ := hlive k hk
    rw [hfind]
    obtain hkind | hkind := h.kind k a hfind
    · exact List.mem_cons.2 (.inl (congrArg some hkind))
    · exact List.mem_cons_of_mem _ (List.mem_singleton.2 (congrArg some hkind))
  have hdistinct : (keys.map fun k ↦ (attempts.find k).map (·.kind)).Nodup := by
    refine List.Nodup.map_on (fun k hk k' hk' heq ↦ ?_) hnodup
    obtain ⟨a, hfind, henvelope, hinflight⟩ := hlive k hk
    obtain ⟨a', hfind', henvelope', hinflight'⟩ := hlive k' hk'
    rw [hfind, hfind'] at heq
    exact h.single k k' a a' hfind hfind' hinflight hinflight' (henvelope.trans henvelope'.symm)
      (Option.some.inj heq)
  have hlength := (List.subperm_of_subset hdistinct hkinds).length_le
  rwa [List.length_map] at hlength

end Live

section Descent

/-- Every attempt left was there before, for the same purpose and no less settled. -/
def Descends (attempts attempts' : Registry EnforcementAttempt (·.id.value)) : Prop :=
  ∀ k a', attempts'.find k = some a' → ∃ a, attempts.find k = some a ∧
    identity a' = identity a ∧ (attemptInflight a'.state = true → attemptInflight a.state = true) ∧
    (attemptInflight a'.state = true ∨ attemptStateIsTerminal a'.state = true)

variable {attempts attempts' : Registry EnforcementAttempt (·.id.value)}

theorem Descends.of_sub (h : Regular attempts)
    (hsub : ∀ k a, attempts'.find k = some a → attempts.find k = some a) :
    Descends attempts attempts' :=
  fun k a hfind ↦ ⟨a, hsub k a hfind, rfl, id, h.settled k a (hsub k a hfind)⟩

theorem Regular.descends (h : Regular attempts) (hdescends : Descends attempts attempts') :
    Regular attempts' where
  kind k a' hfind := by
    obtain ⟨a, hold, hsame, -⟩ := hdescends k a' hfind
    rw [show a'.kind = a.kind from congrArg AttemptIdentity.kind hsame]
    exact h.kind k a hold
  key k a' hfind := by
    obtain ⟨a, hold, hsame, -⟩ := hdescends k a' hfind
    rw [show a'.idempotencyKey = a.idempotencyKey from congrArg AttemptIdentity.idempotencyKey hsame,
      show a'.envelope = a.envelope from congrArg AttemptIdentity.envelope hsame,
      show a'.envelopeGeneration = a.envelopeGeneration from
        congrArg AttemptIdentity.envelopeGeneration hsame,
      show a'.kind = a.kind from congrArg AttemptIdentity.kind hsame]
    exact h.key k a hold
  settled k a' hfind := by
    obtain ⟨a, -, -, -, hsettled⟩ := hdescends k a' hfind
    exact hsettled
  single k l a' b' hk hl hlive hlive' henvelope hkind := by
    obtain ⟨a, ha, hsame, hinflight, -⟩ := hdescends k a' hk
    obtain ⟨b, hb, hsame', hinflight', -⟩ := hdescends l b' hl
    refine h.single k l a b ha hb (hinflight hlive) (hinflight' hlive') ?_ ?_
    · rw [← show a'.envelope = a.envelope from congrArg AttemptIdentity.envelope hsame, henvelope]
      exact congrArg AttemptIdentity.envelope hsame'
    · rw [← show a'.kind = a.kind from congrArg AttemptIdentity.kind hsame, hkind]
      exact congrArg AttemptIdentity.kind hsame'

theorem Shelved.descends {tables' : Tables} (h : Shelved config tables)
    (hdescends : Descends tables.attempts tables'.attempts)
    (horder : tables'.attemptOrder = tables.attemptOrder)
    (hlists : tables'.attemptsByEnvelope = tables.attemptsByEnvelope) : Shelved config tables' := by
  have hlist (e : RateEnvelopeId) : tables'.attemptList e = tables.attemptList e := by
    unfold Tables.attemptList
    rw [hlists]
  have hsame {k : U64} {a' : EnforcementAttempt} (hfind : tables'.attempts.find k = some a') :
      ∃ a, tables.attempts.find k = some a ∧ a'.envelope = a.envelope := by
    obtain ⟨a, hold, hsame, -⟩ := hdescends k a' hfind
    exact ⟨a, hold, congrArg AttemptIdentity.envelope hsame⟩
  refine ⟨fun k a' hfind ↦ ?_, fun k a' hfind ↦ ?_, fun e ↦ ?_, ?_, fun e keys hnodup hstored ↦ ?_⟩
  · obtain ⟨a, hold, henvelope⟩ := hsame hfind
    rw [hlist, henvelope]
    exact h.listed k a hold
  · obtain ⟨a, hold, -⟩ := hsame hfind
    rw [horder]
    exact h.ordered k a hold
  · rw [hlist]
    exact h.nodup e
  · rw [horder]
    exact h.room
  · refine h.few e keys hnodup fun k hk ↦ ?_
    obtain ⟨a', hfind, henvelope⟩ := hstored k hk
    obtain ⟨a, hold, hsame⟩ := hsame hfind
    exact ⟨a, hold, hsame.symm.trans henvelope⟩

end Descent

section Creation

variable {attempts : Registry EnforcementAttempt (·.id.value)}

theorem Regular.create (h : Regular attempts)
    (hfresh : attempts.find attempt.id.value = none)
    (hkind : attempt.kind = .apply ∨ attempt.kind = .revoke)
    (hkey : attempt.idempotencyKey =
      computeIdempotencyKey attempt.envelope attempt.envelopeGeneration attempt.kind)
    (hstate : attemptInflight attempt.state = true)
    (hidle : ∀ k a, attempts.find k = some a → attemptInflight a.state = true →
      a.envelope = attempt.envelope → a.kind ≠ attempt.kind) : Regular (attempts.put attempt) := by
  have hfind {k : U64} {a : EnforcementAttempt} (hstored : (attempts.put attempt).find k = some a) :
      a = attempt ∧ k = attempt.id.value ∨ attempts.find k = some a := by
    rw [Registry.find_put] at hstored
    split at hstored
    · next hk =>
      cases hstored
      exact .inl ⟨rfl, hk.symm⟩
    · exact .inr hstored
  refine ⟨fun k a hk ↦ ?_, fun k a hk ↦ ?_, fun k a hk ↦ ?_, fun k l a b hk hl ha hb he hsame ↦ ?_⟩
  · obtain ⟨rfl, -⟩ | hold := hfind hk
    · exact hkind
    · exact h.kind k a hold
  · obtain ⟨rfl, -⟩ | hold := hfind hk
    · exact hkey
    · exact h.key k a hold
  · obtain ⟨rfl, -⟩ | hold := hfind hk
    · exact .inl hstate
    · exact h.settled k a hold
  · obtain ⟨rfl, rfl⟩ | hold := hfind hk
    · obtain ⟨rfl, rfl⟩ | hold' := hfind hl
      · rfl
      · exact absurd hsame.symm (hidle l b hold' hb he.symm)
    · obtain ⟨rfl, rfl⟩ | hold' := hfind hl
      · exact absurd hsame (hidle k a hold ha he)
      · exact h.single k l a b hold hold' ha hb he hsame

theorem Shelved.create (h : Shelved config tables) (hseveral : 2 ≤ config.maxAttemptsPerEnvelope.toNat)
    (hunlisted : ∀ e, attempt.id.value ∉ tables.attemptList e)
    (hregular : Regular (tables.attempts.put attempt)) :
    Shelved config (tables.retainAttempt config attempt) ∧
      ∀ k a, (tables.retainAttempt config attempt).attempts.find k = some a →
        (tables.attempts.put attempt).find k = some a := by
  have hevicted := evicted_enlisted (h.nodup attempt.envelope) (hunlisted attempt.envelope) config
  obtain ⟨hkept, hroom, -⟩ := evictOldest_spec
    (config.maxEnvelopes * config.maxAttemptsPerEnvelope) (refiled config tables attempt)
  have hlist (e : RateEnvelopeId) : (tables.retainAttempt config attempt).attemptList e =
      if attempt.envelope = e then (cutBack config tables attempt).2 else tables.attemptList e := by
    rw [← refiled_attemptList (h.nodup _) (hunlisted _)]
    rfl
  have hfind {k : U64} {a : EnforcementAttempt}
      (hstored : (tables.retainAttempt config attempt).attempts.find k = some a) :=
    refiled_find (h.nodup _) (hunlisted _) h.listed (hkept k a hstored).1
  have hsub {k : U64} {a : EnforcementAttempt}
      (hstored : (tables.retainAttempt config attempt).attempts.find k = some a) :
      (tables.attempts.put attempt).find k = some a := by
    rw [Registry.find_put]
    obtain ⟨rfl, rfl⟩ | hold := (hfind hstored).1
    · exact if_pos rfl
    · rw [if_neg, hold]
      rintro rfl
      exact hunlisted _ (h.listed _ _ hold)
  refine ⟨⟨fun k a hstored ↦ (hfind hstored).2, fun k a hstored ↦ ?_, fun e ↦ ?_, hroom,
    fun e keys hnodup hstored ↦ ?_⟩, fun k a hstored ↦ hsub hstored⟩
  · refine (hkept k a hstored).2 ((hevicted.ordered k).2 ⟨?_, fun hgone ↦ ?_⟩)
    · rw [enlist_of_unlisted (hunlisted _), List.mem_append, List.mem_singleton]
      obtain ⟨-, rfl⟩ | hold := (hfind hstored).1
      · exact .inr rfl
      · exact .inl (h.ordered k a hold)
    · have hnone := hevicted.find k
      rw [if_pos hgone] at hnone
      have hfound : (refiled config tables attempt).attempts.find k = some a := (hkept k a hstored).1
      exact absurd (hnone.symm.trans hfound) nofun
  · rw [hlist]
    split
    · exact hevicted.nodup
    · exact h.nodup e
  · by_cases henvelope : attempt.envelope = e
    · have hmem : keys ⊆ (cutBack config tables attempt).2 := by
        intro k hk
        obtain ⟨a, hfound, ha⟩ := hstored k hk
        have hlisted := (hfind hfound).2
        rw [ha] at hlisted
        have heq := hlist e
        rw [if_pos henvelope] at heq
        exact heq ▸ hlisted
      obtain hshort | hlive := evictTerminal_done (Nat.le_refl (tables.enlisted attempt).length)
      · exact Nat.le_trans (List.subperm_of_subset hnodup hmem).length_le hshort
      · refine Nat.le_trans (live_le_two e hregular hnodup fun k hk ↦ ?_) hseveral
        obtain ⟨a, hfound, ha⟩ := hstored k hk
        refine ⟨a, hsub hfound, ha, (hregular.settled k a (hsub hfound)).resolve_right fun hdone ↦ ?_⟩
        have hstill : (cutBack config tables attempt).1.attempts.find k = some a :=
          (hkept k a hfound).1
        have hterminal : (cutBack config tables attempt).1.terminalAt k = false :=
          hlive k (hmem hk)
        unfold Tables.terminalAt at hterminal
        rw [hstill] at hterminal
        exact absurd (hdone.symm.trans hterminal) nofun
    · refine h.few e keys hnodup fun k hk ↦ ?_
      obtain ⟨a, hfound, ha⟩ := hstored k hk
      obtain ⟨rfl, -⟩ | hold := (hfind hfound).1
      · exact absurd ha henvelope
      · exact ⟨a, hold, ha⟩

end Creation

section Step

variable {s t : System} {action : Action} {event : Event} {decision : Section}

/-- A section stages no new attempt, or one with nothing but envelopes around it. -/
inductive Files (records : List Staged) : Prop
  | nothing (none : ∀ record ∈ records, ∀ attempt, record ≠ .created attempt)
  | attempt {before after : List Staged} {attempt : EnforcementAttempt}
      (split : records = before ++ .created attempt :: after)
      (around : ∀ record ∈ before ++ after, ∃ type envelope, record = .envelope type envelope)

theorem files_of_issues (h : Issues s decision) : Files decision.records := by
  cases h with
  | nothing ids records =>
    refine .nothing fun record hmem attempt hrecord ↦ records record hmem ?_
    rw [hrecord]
    trivial
  | envelope request now room ids records =>
    rw [records]
    refine .nothing fun record hmem attempt ↦ ?_
    rw [List.mem_singleton.1 hmem]
    exact nofun
  | apply envelope backend id now session admitted plan ids records =>
    rw [records]
    simp only [dispatchApply, plan, Bool.not_true, Bool.false_eq_true, if_false, publish]
    refine .attempt rfl fun record hmem ↦ ?_
    obtain hmem | hmem := List.mem_append.1 hmem
    · split at hmem
      · cases hmem
      · exact ⟨_, _, List.mem_singleton.1 hmem⟩
    · exact ⟨_, _, List.mem_singleton.1 hmem⟩
  | revoke envelope backend id reason now session admitted ids records =>
    rw [records]
    exact .attempt (List.nil_append _).symm fun record hmem ↦ ⟨_, _, List.mem_singleton.1 hmem⟩

theorem installed_of_envelopes {records : List Staged} (tables : Tables)
    (h : ∀ record ∈ records, ∃ type envelope, record = .envelope type envelope) :
    ∃ envelopes, installed config tables records = { tables with envelopes } := by
  induction records generalizing tables with
  | nil => exact ⟨tables.envelopes, rfl⟩
  | cons record records ih =>
    obtain ⟨type, envelope, rfl⟩ := h record List.mem_cons_self
    exact ih (tables.install config (.envelope type envelope))
      fun other hmem ↦ h other (List.mem_cons_of_mem _ hmem)

theorem installed_lists {records : List Staged} (tables : Tables)
    (h : ∀ record ∈ records, ∀ attempt, record ≠ .created attempt) :
    (installed config tables records).attemptOrder = tables.attemptOrder ∧
      (installed config tables records).attemptsByEnvelope = tables.attemptsByEnvelope := by
  induction records generalizing tables with
  | nil => exact ⟨rfl, rfl⟩
  | cons record records ih =>
    obtain ⟨horder, hlists⟩ := ih (tables.install config record)
      fun other hmem ↦ h other (List.mem_cons_of_mem _ hmem)
    cases record with
    | created attempt => exact absurd rfl (h _ List.mem_cons_self attempt)
    | _ => exact ⟨horder, hlists⟩

/-- The attempts of an engine, filed under the envelopes they are for. -/
structure Filed (s : System) : Prop where
  regular : Regular s.engine.tables.attempts
  shelved : Shelved s.engine.config s.engine.tables
  envelope : ∀ k a, s.engine.tables.attempts.find k = some a → ∃ e,
    s.engine.tables.envelopes.find a.envelope.value = some e ∧ a.envelopeGeneration = e.generation
  issued : ∀ e, ∀ k ∈ s.engine.tables.attemptList e, Issued s k

theorem regular_of_none {attempts : Registry EnforcementAttempt (·.id.value)}
    (h : ∀ k, attempts.find k = none) : Regular attempts := by
  have absurd_find {k : U64} {a : EnforcementAttempt} {P : Prop}
      (hfind : attempts.find k = some a) : P := by
    rw [h] at hfind
    cases hfind
  exact ⟨fun _ _ hk ↦ absurd_find hk, fun _ _ hk ↦ absurd_find hk, fun _ _ hk ↦ absurd_find hk,
    fun _ _ _ _ hk ↦ absurd_find hk⟩

theorem filed_of_fresh (h : Fresh s) : Filed s := by
  have hnone := no_attempt_of_fresh h
  obtain ⟨⟨epoch, htables⟩, -⟩ := empty_of_fresh h
  have absurd_find {k : U64} {a : EnforcementAttempt} {P : Prop}
      (hfind : s.engine.tables.attempts.find k = some a) : P := by
    rw [hnone] at hfind
    cases hfind
  have hlist (e : RateEnvelopeId) : s.engine.tables.attemptList e = [] := by
    rw [htables]
    rfl
  refine ⟨regular_of_none hnone, ⟨fun _ _ hk ↦ absurd_find hk, fun _ _ hk ↦ absurd_find hk,
    fun e ↦ ?_, ?_, fun e keys _ hstored ↦ ?_⟩, fun _ _ hk ↦ absurd_find hk, fun e k hk ↦ ?_⟩
  · rw [hlist]
    exact List.nodup_nil
  · rw [htables]
    exact Nat.zero_le _
  · cases keys with
    | nil => exact Nat.zero_le _
    | cons k keys =>
      obtain ⟨a, hfind, -⟩ := hstored k List.mem_cons_self
      exact absurd_find hfind
  · rw [hlist] at hk
    cases hk

theorem descends_installed (hsection : sectionOf s event = some decision)
    (hregular : Regular s.engine.tables.attempts)
    (hnone : ∀ record ∈ decision.records, ∀ attempt, record ≠ .created attempt) :
    Descends s.engine.tables.attempts
      (installed s.engine.config s.engine.tables decision.records).attempts := by
  intro k a hfind
  obtain ⟨record, hmem, hrecord⟩ | hold := installed_attempts _ _ hfind
  · cases record with
    | created value => exact absurd rfl (hnone _ hmem value)
    | attempt type value =>
      cases hrecord
      obtain ⟨old, hfound, hmoves⟩ := moves_of_stages (stages_of_sectionOf hsection hmem)
      rw [Registry.key_of_find hfind] at hfound
      exact ⟨old, hfound, hmoves.same, hmoves.live, hmoves.settled⟩
    | _ => cases hrecord
  · exact ⟨a, hold, rfl, id, hregular.settled k a hold⟩

theorem idle_of_creates (h : Filed s) {envelope : RateEnvelope} (hcreates : Creates s attempt envelope)
    {k : U64} {a : EnforcementAttempt} (hfind : s.engine.tables.attempts.find k = some a)
    (hlive : attemptInflight a.state = true) (henvelope : a.envelope = attempt.envelope) :
    a.kind ≠ attempt.kind := by
  intro hkind
  obtain ⟨e, hstored, hgeneration⟩ := h.envelope k a hfind
  have hkey : a.idempotencyKey = attempt.idempotencyKey := by
    rw [henvelope, hcreates.envelopeId, hcreates.found] at hstored
    cases hstored
    rw [h.regular.key k a hfind, hcreates.key, henvelope, hkind, hgeneration, hcreates.generation]
  have hidle := List.find?_eq_none.1 hcreates.idle a (Registry.mem_entries_of_find hfind)
  simp only [hkey, hlive, decide_true, Bool.and_self, not_true_eq_false] at hidle

theorem envelope_kept (hids : IdsAhead s) (hstep : step s action = some t) {id : RateEnvelopeId}
    {generation : Generation}
    (h : ∃ e, s.engine.tables.envelopes.find id.value = some e ∧ generation = e.generation) :
    ∃ e, t.engine.tables.envelopes.find id.value = some e ∧ generation = e.generation := by
  obtain ⟨e, hstored, rfl⟩ := h
  obtain ⟨e', hstored', hbinding⟩ := binding_step hids hstep hstored
  exact ⟨e', hstored', (congrArg Binding.generation hbinding).symm⟩

theorem filed_create {before after : List Staged} (h : Filed s)
    (hseveral : 2 ≤ s.engine.config.maxAttemptsPerEnvelope.toNat)
    (hunlisted : ∀ e, attempt.id.value ∉ s.engine.tables.attemptList e)
    {envelope : RateEnvelope} (hcreates : Creates s attempt envelope)
    (haround : ∀ record ∈ before ++ after, ∃ type envelope, record = .envelope type envelope) :
    let tables := installed s.engine.config s.engine.tables (before ++ .created attempt :: after)
    Regular tables.attempts ∧ Shelved s.engine.config tables ∧
      (∀ k a, tables.attempts.find k = some a →
        a = attempt ∨ s.engine.tables.attempts.find k = some a) ∧
      ∀ e, ∀ k ∈ tables.attemptList e, k = attempt.id.value ∨ k ∈ s.engine.tables.attemptList e := by
  obtain ⟨envelopes, hbefore⟩ := @installed_of_envelopes s.engine.config _ s.engine.tables
    fun record hmem ↦ haround record (List.mem_append_left _ hmem)
  have hbase : Shelved s.engine.config { s.engine.tables with envelopes } :=
    ⟨h.shelved.listed, h.shelved.ordered, h.shelved.nodup, h.shelved.room, h.shelved.few⟩
  have hfresh : s.engine.tables.attempts.find attempt.id.value = none := by
    cases hfind : s.engine.tables.attempts.find attempt.id.value with
    | none => rfl
    | some a => exact absurd (h.shelved.listed _ a hfind) (hunlisted _)
  have hregular : Regular (s.engine.tables.attempts.put attempt) :=
    h.regular.create hfresh hcreates.kind hcreates.key (by rw [hcreates.state]; rfl)
      fun k a hfind hlive ↦ idle_of_creates h hcreates hfind hlive
  obtain ⟨hshelved, hsub⟩ := hbase.create hseveral hunlisted hregular
  obtain ⟨envelopes', hafter⟩ := @installed_of_envelopes s.engine.config _
    (({ s.engine.tables with envelopes } : Tables).retainAttempt s.engine.config attempt)
    fun record hmem ↦ haround record (List.mem_append_right _ hmem)
  have htables : installed s.engine.config s.engine.tables (before ++ .created attempt :: after) =
      { ({ s.engine.tables with envelopes } : Tables).retainAttempt s.engine.config attempt with
        envelopes := envelopes' } := by
    rw [← hafter, ← hbefore]
    unfold installed
    rw [List.foldl_append]
    rfl
  rw [htables]
  refine ⟨hregular.descends (.of_sub hregular hsub),
    ⟨hshelved.listed, hshelved.ordered, hshelved.nodup, hshelved.room, hshelved.few⟩,
    fun k a hfind ↦ ?_, fun e k hk ↦ ?_⟩
  · have hput := hsub k a hfind
    rw [Registry.find_put] at hput
    split at hput
    · cases hput
      exact .inl rfl
    · exact .inr hput
  · have hmem : k ∈ (refiled s.engine.config { s.engine.tables with envelopes } attempt).attemptList
      e := hk
    rw [refiled_attemptList (hbase.nodup _) (hunlisted _)] at hmem
    split at hmem
    · next henvelope =>
      have hlisted : k ∈ s.engine.tables.enlisted attempt :=
        (evicted_enlisted (hbase.nodup _) (hunlisted _) s.engine.config).sub k hmem
      rw [mem_enlisted (hunlisted _), henvelope] at hlisted
      exact hlisted.symm
    · exact .inr hmem

theorem filed_step (h : Filed s) (hseveral : 2 ≤ s.engine.config.maxAttemptsPerEnvelope.toNat)
    (hids : IdsAhead s) (hroom : Serviceable s) (hstep : step s action = some t) : Filed t := by
  obtain ⟨decision, hsection, hturn⟩ := turn_of_step hstep
  have hissued (e : RateEnvelopeId) (k : U64) (hk : k ∈ s.engine.tables.attemptList e) :
      Issued t k := issued_step hroom (h.issued e k hk) hstep
  have hkept {id : RateEnvelopeId} {generation : Generation} :=
    @envelope_kept s t action hids hstep id generation
  cases hturn with
  | quiet => exact ⟨h.regular, h.shelved, h.envelope, hissued⟩
  | failed => exact ⟨h.regular, h.shelved, h.envelope, hissued⟩
  | committed hrecords hstatus =>
    cases files_of_issues (issues_of_sectionOf hsection) with
    | nothing hnone =>
      have hdescends := descends_installed hsection h.regular hnone
      obtain ⟨horder, hlists⟩ := @installed_lists s.engine.config _ s.engine.tables hnone
      refine ⟨h.regular.descends hdescends, h.shelved.descends hdescends horder hlists,
        fun k a hfind ↦ ?_, fun e k hk ↦ ?_⟩
      · obtain ⟨old, hold, hsame, -⟩ := hdescends k a hfind
        rw [show a.envelope = old.envelope from congrArg AttemptIdentity.envelope hsame,
          show a.envelopeGeneration = old.envelopeGeneration from
            congrArg AttemptIdentity.envelopeGeneration hsame]
        exact hkept (h.envelope k old hold)
      · refine hissued e k ?_
        unfold Tables.attemptList at hk ⊢
        simp only [hlists] at hk
        exact hk
    | @attempt before after attempt hsplit haround =>
      have hmem : .created attempt ∈ decision.records := by
        rw [hsplit]
        exact List.mem_append_right _ List.mem_cons_self
      obtain ⟨envelope, hcreates⟩ := creates_of_stages (stages_of_sectionOf hsection hmem)
      have hnext := (serials_of_issues (issues_of_sectionOf hsection) hroom).2 attempt hmem
      rw [← hcreates.issued] at hnext
      have hunlisted (e : RateEnvelopeId) : attempt.id.value ∉ s.engine.tables.attemptList e := by
        intro hk
        obtain hstuck | hlt := h.issued e _ hk
        · obtain ⟨error, herror⟩ := commit_stuck action.io hstuck hrecords
          rw [herror] at hstatus
          cases hstatus
        · rw [hcreates.issued] at hlt
          exact absurd hlt (UInt64.lt_irrefl _)
      obtain ⟨hregular, hshelved, hstored, hlisted⟩ :=
        filed_create h hseveral hunlisted hcreates haround
      rw [← hsplit] at hregular hshelved hstored hlisted
      refine ⟨hregular, hshelved, fun k a hfind ↦ ?_, fun e k hk ↦ ?_⟩
      · obtain rfl | hold := hstored k a hfind
        · refine hkept ⟨envelope, ?_, hcreates.generation⟩
          rw [hcreates.envelopeId]
          exact hcreates.found
        · exact hkept (h.envelope k a hold)
      · obtain rfl | hold := hlisted e k hk
        · exact .inr hnext
        · exact hissued e k hold

end Step

end RateGovernor.Dynamics.Filing
