import RateGovernor.Dynamics.Retention

namespace RateGovernor.Dynamics.Shelving

open Model.CheckedMath Model.Identity Model.Entities Model.Envelope Model.EngineState
open Foundation.KeyedTable Install Attempts Retention

variable {config : EngineConfig} {tables : Tables} {attempt : EnforcementAttempt} {k : U64}

/-- The three containers of attempts hold the same attempts, and each of them once. -/
structure InStep (tables : Tables) : Prop where
  listed : ∀ k a, tables.attempts.find k = some a → k ∈ tables.attemptList a.envelope
  stored : ∀ e, ∀ k ∈ tables.attemptList e, ∃ a, tables.attempts.find k = some a ∧ a.envelope = e
  nodup : ∀ e, (tables.attemptList e).Nodup
  distinct : tables.attemptOrder.Nodup
  ordered : ∀ k, k ∈ tables.attemptOrder ↔ ∃ a, tables.attempts.find k = some a

/-- How many finished attempts the list of the envelope can do without and gives up. -/
def surplus (config : EngineConfig) (tables : Tables) (attempt : EnforcementAttempt) : ℕ :=
  min ((tables.enlisted attempt).countP (tables.enlist attempt).terminalAt)
    ((tables.enlisted attempt).length - config.maxAttemptsPerEnvelope.toNat)

/-- The attempt is new or stored for the same envelope, and with the surplus of its envelope gone no
more attempts are kept than the product of the two limits, as it is computed, allows. -/
structure Fits (config : EngineConfig) (tables : Tables) (attempt : EnforcementAttempt) : Prop where
  same : ∀ old, tables.attempts.find attempt.id.value = some old → old.envelope = attempt.envelope
  room : (tables.enlist attempt).attemptOrder.length ≤
    (config.maxEnvelopes * config.maxAttemptsPerEnvelope).toNat + surplus config tables attempt

instance (config : EngineConfig) (tables : Tables) (attempt : EnforcementAttempt) :
    Decidable (Fits config tables attempt) :=
  decidable_of_iff ((∀ old ∈ tables.attempts.find attempt.id.value,
      old.envelope = attempt.envelope) ∧ (tables.enlist attempt).attemptOrder.length ≤
        (config.maxEnvelopes * config.maxAttemptsPerEnvelope).toNat + surplus config tables attempt)
    ⟨fun h ↦ ⟨h.1, h.2⟩, fun h ↦ ⟨h.same, h.room⟩⟩

section Entry

/-- The tables with an attempt entered in the three containers, before any is forgotten. -/
def entered (tables : Tables) (attempt : EnforcementAttempt) : Tables :=
  { tables.enlist attempt with
    attemptsByEnvelope := tables.attemptsByEnvelope.insert attempt.envelope.value
      (tables.enlisted attempt) }

theorem attemptList_entered (tables : Tables) (attempt : EnforcementAttempt) (e : RateEnvelopeId) :
    (entered tables attempt).attemptList e =
    if attempt.envelope = e then tables.enlisted attempt else tables.attemptList e := by
  simp only [Tables.attemptList, entered, getElem?_insert]
  by_cases h : attempt.envelope = e
  · rw [if_pos (congrArg StrongId.value h), if_pos h]
    rfl
  · rw [if_neg fun heq ↦ h (StrongId.eq_of_value heq), if_neg h]

theorem mem_enlisted_iff : k ∈ tables.enlisted attempt ↔
    k ∈ tables.attemptList attempt.envelope ∨ k = attempt.id.value := by
  simp only [Tables.enlisted, List.contains_iff_mem]
  split
  · next hmem =>
    refine ⟨.inl, fun h ↦ h.elim id ?_⟩
    rintro rfl
    exact hmem
  · rw [List.mem_append, List.mem_singleton]

theorem nodup_enlisted_of (h : (tables.attemptList attempt.envelope).Nodup) :
    (tables.enlisted attempt).Nodup := by
  simp only [Tables.enlisted, List.contains_iff_mem]
  split
  · exact h
  · next hnew =>
    refine List.nodup_append.2 ⟨h, List.pairwise_singleton _ _, ?_⟩
    intro a ha b hb heq
    rw [List.mem_singleton.1 hb] at heq
    exact hnew (heq ▸ ha)

theorem mem_order_enlist_iff (h : InStep tables) : k ∈ (tables.enlist attempt).attemptOrder ↔
    k ∈ tables.attemptOrder ∨ k = attempt.id.value := by
  simp only [Tables.enlist, List.contains_iff_mem]
  split
  · next hmem =>
    refine ⟨.inl, fun hk ↦ hk.elim id ?_⟩
    rintro rfl
    obtain ⟨a, hfind, -⟩ := h.stored _ _ hmem
    exact (h.ordered _).2 ⟨a, hfind⟩
  · rw [List.mem_append, List.mem_singleton]

theorem nodup_order_enlist (h : InStep tables)
    (hsame : ∀ old, tables.attempts.find attempt.id.value = some old →
      old.envelope = attempt.envelope) : (tables.enlist attempt).attemptOrder.Nodup := by
  simp only [Tables.enlist, List.contains_iff_mem]
  split
  · exact h.distinct
  · next hnew =>
    refine List.nodup_append.2 ⟨h.distinct, List.pairwise_singleton _ _, ?_⟩
    intro a ha b hb heq
    rw [List.mem_singleton.1 hb] at heq
    obtain ⟨old, hold⟩ := (h.ordered _).1 (heq ▸ ha)
    have hlisted := h.listed _ _ hold
    rw [hsame old hold] at hlisted
    exact hnew hlisted

theorem inStep_entered (h : InStep tables)
    (hsame : ∀ old, tables.attempts.find attempt.id.value = some old →
      old.envelope = attempt.envelope) : InStep (entered tables attempt) where
  listed k a hfind := by
    have hput : (tables.attempts.put attempt).find k = some a := hfind
    rw [attemptList_entered]
    rw [Registry.find_put] at hput
    split at hput
    · next hk =>
      cases hput
      rw [if_pos rfl, mem_enlisted_iff]
      exact .inr hk.symm
    · have hlisted := h.listed k a hput
      split
      · next henvelope =>
        rw [mem_enlisted_iff, henvelope]
        exact .inl hlisted
      · exact hlisted
  stored e k hmem := by
    have hput : (entered tables attempt).attempts.find k =
        if attempt.id.value = k then some attempt else tables.attempts.find k :=
      Registry.find_put _ _ _
    rw [hput]
    rw [attemptList_entered] at hmem
    split at hmem
    · next henvelope =>
      by_cases hk : attempt.id.value = k
      · rw [if_pos hk]
        exact ⟨attempt, rfl, henvelope⟩
      · rw [if_neg hk]
        rw [mem_enlisted_iff, henvelope] at hmem
        exact h.stored e k (hmem.resolve_right fun heq ↦ hk heq.symm)
    · next henvelope =>
      obtain ⟨a, hfind, ha⟩ := h.stored e k hmem
      rw [if_neg]
      · exact ⟨a, hfind, ha⟩
      · rintro rfl
        exact henvelope ((hsame a hfind).symm.trans ha)
  nodup e := by
    rw [attemptList_entered]
    split
    · exact nodup_enlisted_of (h.nodup _)
    · exact h.nodup e
  distinct := nodup_order_enlist h hsame
  ordered k := by
    have hput : (entered tables attempt).attempts.find k =
        if attempt.id.value = k then some attempt else tables.attempts.find k :=
      Registry.find_put _ _ _
    rw [hput]
    refine (mem_order_enlist_iff h).trans ?_
    rw [h.ordered]
    split
    · next hk => exact ⟨fun _ ↦ ⟨attempt, rfl⟩, fun _ ↦ .inr hk.symm⟩
    · next hk => exact ⟨fun hor ↦ hor.resolve_right fun heq ↦ hk heq.symm, .inl⟩

end Entry

section Cut

theorem evicted_cutBack (config : EngineConfig) (h : InStep (entered tables attempt)) :
    Evicted (tables.enlist attempt) (tables.enlisted attempt) (cutBack config tables attempt) := by
  have hnodup := h.nodup attempt.envelope
  rw [attemptList_entered, if_pos rfl] at hnodup
  exact evictTerminal_spec (Nat.le_refl _) hnodup

theorem attemptList_refiled (config : EngineConfig) (tables : Tables) (attempt : EnforcementAttempt)
    (e : RateEnvelopeId) : (refiled config tables attempt).attemptList e =
      if attempt.envelope = e then (cutBack config tables attempt).2 else tables.attemptList e := by
  obtain ⟨attempts, order, hframe, -⟩ := evictTerminal_tables config.maxAttemptsPerEnvelope
    (tables.enlisted attempt).length (tables.enlist attempt) (tables.enlisted attempt)
  have hlists : (cutBack config tables attempt).1.attemptsByEnvelope =
      tables.attemptsByEnvelope := congrArg (·.attemptsByEnvelope) hframe
  simp only [Tables.attemptList, refiled, hlists, getElem?_insert]
  by_cases h : attempt.envelope = e
  · rw [if_pos (congrArg StrongId.value h), if_pos h]
    rfl
  · rw [if_neg fun heq ↦ h (StrongId.eq_of_value heq), if_neg h]

theorem inStep_refiled (h : InStep (entered tables attempt)) :
    InStep (refiled config tables attempt) := by
  have hevicted := evicted_cutBack config h
  have hfind (k : U64) : (refiled config tables attempt).attempts.find k =
      if k ∈ tables.enlisted attempt ∧ k ∉ (cutBack config tables attempt).2 then none
      else (entered tables attempt).attempts.find k := hevicted.find k
  have hentered := attemptList_entered tables attempt
  refine ⟨fun k a hstored ↦ ?_, fun e k hmem ↦ ?_, fun e ↦ ?_, hevicted.distinct h.distinct,
    fun k ↦ ?_⟩
  · rw [hfind] at hstored
    split at hstored
    · cases hstored
    · next hkept =>
      have hlisted := h.listed k a hstored
      rw [hentered] at hlisted
      rw [attemptList_refiled]
      split at hlisted
      · next henvelope =>
        rw [if_pos henvelope]
        exact not_not.1 fun hgone ↦ hkept ⟨hlisted, hgone⟩
      · next henvelope =>
        rw [if_neg henvelope]
        exact hlisted
  · rw [hfind]
    rw [attemptList_refiled] at hmem
    have hstored := h.stored e k
    rw [hentered] at hstored
    split at hmem
    · next henvelope =>
      rw [if_pos henvelope] at hstored
      rw [if_neg fun hgone ↦ hgone.2 hmem]
      exact hstored (hevicted.sub k hmem)
    · next henvelope =>
      rw [if_neg henvelope] at hstored
      obtain ⟨a, ha, hae⟩ := hstored hmem
      rw [if_neg]
      · exact ⟨a, ha, hae⟩
      · rintro ⟨hlisted, -⟩
        have hother := h.stored attempt.envelope k
        rw [hentered, if_pos rfl] at hother
        obtain ⟨b, hb, hbe⟩ := hother hlisted
        cases ha.symm.trans hb
        exact henvelope (hbe.symm.trans hae)
  · rw [attemptList_refiled]
    split
    · exact hevicted.nodup
    · next henvelope =>
      have hnodup := h.nodup e
      rwa [hentered, if_neg henvelope] at hnodup
  · refine (hevicted.ordered k).trans ?_
    rw [hfind]
    split
    · next hgone => exact ⟨fun hk ↦ absurd hgone hk.2, fun ⟨_, hk⟩ ↦ nomatch hk⟩
    · next hkept => exact ⟨fun hk ↦ (h.ordered k).1 hk.1, fun hk ↦ ⟨(h.ordered k).2 hk, hkept⟩⟩

end Cut

section Forgetting

variable {limit : U64} {fuel : ℕ} {list : List U64} {a : EnforcementAttempt}

theorem terminalAt_dropAttempt {victim : U64} (h : k ≠ victim) :
    (dropAttempt tables victim).terminalAt k = tables.terminalAt k := by
  simp only [Tables.terminalAt, dropAttempt, Registry.find_remove, if_neg h.symm]

theorem length_order_evictTerminal (hfuel : list.length ≤ fuel) (hlist : list.Nodup)
    (hsub : ∀ k ∈ list, k ∈ tables.attemptOrder) (horder : tables.attemptOrder.Nodup) :
    (evictTerminal limit fuel tables list).1.attemptOrder.length +
      min (list.countP tables.terminalAt) (list.length - limit.toNat) =
        tables.attemptOrder.length := by
  induction fuel generalizing tables list with
  | zero =>
    rw [List.eq_nil_of_length_eq_zero (Nat.le_zero.1 hfuel)]
    exact Nat.add_zero _
  | succ fuel ih =>
    unfold evictTerminal
    split
    · next hshort =>
      rw [Nat.sub_eq_zero_of_le hshort, Nat.min_zero]
      exact Nat.add_zero _
    · next hlong =>
      split
      · next hnone =>
        have hcount : list.countP tables.terminalAt = 0 := by
          rw [List.countP_eq_zero]
          exact List.find?_eq_none.1 hnone
        rw [hcount, Nat.zero_min]
        exact Nat.add_zero _
      · next victim hvictim =>
        have hmem := List.mem_of_find?_eq_some hvictim
        have hterminal := List.find?_some hvictim
        have herase (k : U64) (hk : k ∈ list.erase victim) : k ≠ victim ∧ k ∈ list :=
          hlist.mem_erase_iff.1 hk
        have hdropped : (dropAttempt tables victim).attemptOrder =
            tables.attemptOrder.erase victim := by
          rw [horder.erase_eq_filter]
          exact List.filter_congr fun k _ ↦ (decide_not ..).trans rfl
        have hlength : (dropAttempt tables victim).attemptOrder.length + 1 =
            tables.attemptOrder.length := by
          have hpositive := List.length_pos_of_mem (hsub victim hmem)
          rw [hdropped, List.length_erase_of_mem (hsub victim hmem)]
          omega
        have hcount : (list.erase victim).countP (dropAttempt tables victim).terminalAt + 1 =
            list.countP tables.terminalAt := by
          have hsame : (list.erase victim).countP (dropAttempt tables victim).terminalAt =
              (list.erase victim).countP tables.terminalAt :=
            List.countP_congr fun k hk ↦ by rw [terminalAt_dropAttempt (herase k hk).1]
          rw [hsame, (List.perm_cons_erase hmem).countP_eq, List.countP_cons_of_pos hterminal]
        have hshorter := List.length_erase_of_mem hmem
        have hfollows := @ih (dropAttempt tables victim) (list.erase victim)
          (by omega) (hlist.erase _)
          (fun k hk ↦ by
            rw [hdropped, horder.mem_erase_iff]
            exact ⟨(herase k hk).1, hsub k (herase k hk).2⟩)
          (by rw [hdropped]; exact horder.erase _)
        have hgoal : (evictTerminal limit fuel (dropAttempt tables victim)
            (list.erase victim)).1.attemptOrder.length +
              min (list.countP tables.terminalAt) (list.length - limit.toNat) =
                tables.attemptOrder.length := by
          omega
        exact hgoal

theorem find_evictTerminal (hfind : tables.attempts.find k = some a)
    (hlive : attemptStateIsTerminal a.state = false) :
    (evictTerminal limit fuel tables list).1.attempts.find k = some a := by
  induction fuel generalizing tables list with
  | zero => exact hfind
  | succ fuel ih =>
    unfold evictTerminal
    split
    · exact hfind
    · split
      · exact hfind
      · next victim hvictim =>
        refine ih ?_
        rw [Registry.find_remove, if_neg]
        · exact hfind
        · rintro rfl
          have hterminal := List.find?_some hvictim
          simp only [Tables.terminalAt, hfind, hlive, Bool.false_eq_true] at hterminal

theorem youngest_evictTerminal {older : List U64} (hfind : tables.attempts.find k = some a)
    (hlive : attemptStateIsTerminal a.state = false)
    (horder : tables.attemptOrder = older ++ [k]) (hnew : k ∉ older) :
    ∃ older, (evictTerminal limit fuel tables list).1.attemptOrder = older ++ [k] ∧ k ∉ older := by
  induction fuel generalizing tables list older with
  | zero => exact ⟨older, horder, hnew⟩
  | succ fuel ih =>
    unfold evictTerminal
    split
    · exact ⟨older, horder, hnew⟩
    · split
      · exact ⟨older, horder, hnew⟩
      · next victim hvictim =>
        have hother : victim ≠ k := by
          rintro rfl
          have hterminal := List.find?_some hvictim
          simp only [Tables.terminalAt, hfind, hlive, Bool.false_eq_true] at hterminal
        refine @ih _ _ (older.filter (· ≠ victim)) ?_ ?_ ?_
        · rw [Registry.find_remove, if_neg hother]
          exact hfind
        · simp only [horder, List.filter_append, List.filter_cons, hother.symm, ne_eq,
            not_false_eq_true, decide_true, if_true, List.filter_nil]
        · exact fun hmem ↦ hnew (List.mem_filter.1 hmem).1

theorem evictTerminal_shrinks :
    (∀ k ∈ (evictTerminal limit fuel tables list).1.attemptOrder, k ∈ tables.attemptOrder) ∧
      ∀ k ∈ (evictTerminal limit fuel tables list).2, k ∈ list := by
  induction fuel generalizing tables list with
  | zero => exact ⟨fun _ h ↦ h, fun _ h ↦ h⟩
  | succ fuel ih =>
    unfold evictTerminal
    split
    · exact ⟨fun _ h ↦ h, fun _ h ↦ h⟩
    · split
      · exact ⟨fun _ h ↦ h, fun _ h ↦ h⟩
      · next victim _ =>
        obtain ⟨horder, hlist⟩ := @ih (dropAttempt tables victim) (list.erase victim)
        exact ⟨fun k hk ↦ (List.mem_filter.1 (horder k hk)).1,
          fun k hk ↦ List.mem_of_mem_erase (hlist k hk)⟩

end Forgetting

section Newest

theorem find_foldl_remove_of_notMem {r : Registry EnforcementAttempt (·.id.value)}
    {victims : List U64} (h : k ∉ victims) : (victims.foldl Registry.remove r).find k = r.find k := by
  induction victims generalizing r with
  | nil => rfl
  | cons victim victims ih =>
    rw [List.foldl_cons, ih fun hmem ↦ h (List.mem_cons_of_mem _ hmem), Registry.find_remove,
      if_neg]
    rintro rfl
    exact h List.mem_cons_self

theorem find_retain_of_room (hroom : config.maxEnvelopes * config.maxAttemptsPerEnvelope ≠ 0)
    (hlive : attemptStateIsTerminal attempt.state = false)
    (hunlisted : attempt.id.value ∉ tables.attemptList attempt.envelope)
    (hnew : attempt.id.value ∉ tables.attemptOrder) :
    (tables.retainAttempt config attempt).attempts.find attempt.id.value = some attempt := by
  have hcontains : ¬ (tables.attemptList attempt.envelope).contains attempt.id.value = true := by
    simpa only [List.contains_iff_mem] using hunlisted
  have hput : (tables.enlist attempt).attempts.find attempt.id.value = some attempt :=
    Registry.find_put_self _ attempt
  have horder : (tables.enlist attempt).attemptOrder =
      tables.attemptOrder ++ [attempt.id.value] := if_neg hcontains
  obtain ⟨older, hlast, hother⟩ := @youngest_evictTerminal _ _ config.maxAttemptsPerEnvelope
    (tables.enlisted attempt).length (tables.enlisted attempt) _ _ hput hlive horder hnew
  have hpositive : (0 : U64).toNat < _ := UInt64.lt_iff_toNat_lt.1 (UInt64.pos_iff_ne_zero.2 hroom)
  unfold Tables.retainAttempt evictOldest
  simp only [hlast, List.length_append, List.length_singleton]
  rw [find_foldl_remove_of_notMem]
  · exact find_evictTerminal hput hlive
  · rw [List.take_append_of_le_length (by omega)]
    exact fun hmem ↦ hother (List.mem_of_mem_take hmem)

theorem mem_order_retain (h : k ∈ (tables.retainAttempt config attempt).attemptOrder) :
    k ∈ tables.attemptOrder ∨ k = attempt.id.value := by
  have henlisted : k ∈ (tables.enlist attempt).attemptOrder :=
    evictTerminal_shrinks.1 k (List.mem_of_mem_drop h)
  unfold Tables.enlist at henlisted
  simp only at henlisted
  split at henlisted
  · exact .inl henlisted
  · exact (List.mem_append.1 henlisted).imp_right List.mem_singleton.1

theorem mem_list_retain {e : RateEnvelopeId}
    (h : k ∈ (tables.retainAttempt config attempt).attemptList e) :
    k ∈ tables.attemptList e ∨ k = attempt.id.value := by
  have hrefiled : k ∈ (refiled config tables attempt).attemptList e := h
  rw [attemptList_refiled] at hrefiled
  split at hrefiled
  · next henvelope =>
    have henlisted := mem_enlisted_iff.1 (evictTerminal_shrinks.2 k hrefiled)
    rwa [henvelope] at henlisted
  · exact .inl hrefiled

end Newest

section Retaining

theorem length_order_refiled (config : EngineConfig) (h : InStep (entered tables attempt)) :
    (refiled config tables attempt).attemptOrder.length + surplus config tables attempt =
      (tables.enlist attempt).attemptOrder.length := by
  have hlist := h.nodup attempt.envelope
  have hstored := h.stored attempt.envelope
  rw [attemptList_entered, if_pos rfl] at hlist hstored
  refine length_order_evictTerminal (Nat.le_refl _) hlist (fun k hk ↦ ?_) h.distinct
  obtain ⟨a, hfind, -⟩ := hstored k hk
  exact (h.ordered k).2 ⟨a, hfind⟩

theorem attemptList_retainAttempt (config : EngineConfig) (tables : Tables)
    (attempt : EnforcementAttempt) (e : RateEnvelopeId) :
    (tables.retainAttempt config attempt).attemptList e =
      (refiled config tables attempt).attemptList e := rfl

/-- Where an attempt is stored for another envelope, retaining one under its number leaves that
envelope with a number that is not its own any more. -/
theorem same_of_inStep (h : InStep tables)
    (hstep : InStep (tables.retainAttempt config attempt)) {old : EnforcementAttempt}
    (hold : tables.attempts.find attempt.id.value = some old) :
    old.envelope = attempt.envelope := by
  by_contra hother
  have hlisted := h.listed _ _ hold
  obtain ⟨a, hfind, ha⟩ := hstep.stored old.envelope attempt.id.value (by
    rw [attemptList_retainAttempt, attemptList_refiled, if_neg (Ne.symm hother)]
    exact hlisted)
  have hkept : (refiled config tables attempt).attempts.find attempt.id.value = some a :=
    ((evictOldest_spec _ _).1 _ _ hfind).1
  obtain ⟨attempts, order, hframe, hsub⟩ := evictTerminal_tables config.maxAttemptsPerEnvelope
    (tables.enlisted attempt).length (tables.enlist attempt) (tables.enlisted attempt)
  have hattempts : (refiled config tables attempt).attempts = attempts :=
    congrArg (·.attempts) hframe
  rw [hattempts] at hkept
  have hput : (tables.attempts.put attempt).find attempt.id.value = some a := hsub _ _ hkept
  rw [Registry.find_put_self] at hput
  cases hput
  exact hother ha.symm

theorem retainAttempt_of_fits (h : InStep tables) (hfits : Fits config tables attempt) :
    tables.retainAttempt config attempt = refiled config tables attempt := by
  have hlength := length_order_refiled config (inStep_entered h hfits.same)
  have hroom := hfits.room
  have hle : (refiled config tables attempt).attemptOrder.length ≤
      (config.maxEnvelopes * config.maxAttemptsPerEnvelope).toNat := by omega
  exact evictOldest_of_le hle

/-- Retaining an attempt keeps the containers in step exactly when the attempt fits. -/
theorem inStep_retain_iff (h : InStep tables) :
    InStep (tables.retainAttempt config attempt) ↔ Fits config tables attempt := by
  constructor
  · intro hstep
    have hsame (old : EnforcementAttempt)
        (hold : tables.attempts.find attempt.id.value = some old) :
        old.envelope = attempt.envelope := same_of_inStep h hstep hold
    refine ⟨hsame, ?_⟩
    by_contra hlong
    have hentered := inStep_entered h hsame
    have hlength := length_order_refiled config hentered
    have hrefiled : InStep (refiled config tables attempt) := inStep_refiled hentered
    -- The oldest attempt is dropped, and its envelope goes on listing it.
    obtain ⟨victim, rest, horder⟩ : ∃ victim rest,
        (refiled config tables attempt).attemptOrder = victim :: rest := by
      cases hcase : (refiled config tables attempt).attemptOrder with
      | nil =>
        rw [hcase, List.length_nil] at hlength
        omega
      | cons victim rest => exact ⟨victim, rest, rfl⟩
    have hmem : victim ∈ (refiled config tables attempt).attemptOrder := by
      rw [horder]
      exact List.mem_cons_self
    obtain ⟨a, ha⟩ := (hrefiled.ordered victim).1 hmem
    obtain ⟨b, hb, -⟩ := hstep.stored a.envelope victim (hrefiled.listed _ _ ha)
    have hexcess : (refiled config tables attempt).attemptOrder.length -
        (config.maxEnvelopes * config.maxAttemptsPerEnvelope).toNat =
          (refiled config tables attempt).attemptOrder.length -
            (config.maxEnvelopes * config.maxAttemptsPerEnvelope).toNat - 1 + 1 := by
      omega
    have hgone : (tables.retainAttempt config attempt).attempts.find victim = none := by
      refine find_foldl_remove_of_mem ?_
      show victim ∈ (refiled config tables attempt).attemptOrder.take
        ((refiled config tables attempt).attemptOrder.length -
          (config.maxEnvelopes * config.maxAttemptsPerEnvelope).toNat)
      rw [hexcess, horder, List.take_succ_cons]
      exact List.mem_cons_self
    cases hgone.symm.trans hb
  · intro hfits
    rw [retainAttempt_of_fits h hfits]
    exact inStep_refiled (inStep_entered h hfits.same)

theorem find_retain_of_fits (h : InStep tables) (hfits : Fits config tables attempt)
    {a : EnforcementAttempt} (hfind : (tables.attempts.put attempt).find k = some a)
    (hlive : attemptInflight a.state = true) :
    (tables.retainAttempt config attempt).attempts.find k = some a := by
  rw [retainAttempt_of_fits h hfits]
  have hentered : (tables.enlist attempt).attempts.find k = some a := hfind
  refine find_evictTerminal hentered ?_
  cases hterminal : attemptStateIsTerminal a.state with
  | false => rfl
  | true => exact absurd hlive (by rw [not_inflight_of_terminal hterminal]; exact nofun)

end Retaining

end RateGovernor.Dynamics.Shelving
