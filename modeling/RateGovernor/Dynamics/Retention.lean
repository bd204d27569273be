import Mathlib.Algebra.Group.Action.Defs
import Mathlib.Algebra.Order.BigOperators.Group.List
import Mathlib.Data.List.Perm.Subperm
import RateGovernor.Dynamics.Attempts

namespace RateGovernor.Dynamics.Retention

open Model.CheckedMath Model.Identity Model.Entities Model.Envelope Model.EngineState
open Foundation.KeyedTable Install

variable {config : EngineConfig} {tables : Tables} {attempt old : EnforcementAttempt}

/-- The lists of attempts agree with the attempts stored, and are within the limits. -/
structure Indexed (config : EngineConfig) (tables : Tables) : Prop where
  listed : ∀ k a, tables.attempts.find k = some a → k ∈ tables.attemptList a.envelope
  stored : ∀ e, ∀ k ∈ tables.attemptList e, ∃ a, tables.attempts.find k = some a ∧ a.envelope = e
  nodup : ∀ e, (tables.attemptList e).Nodup
  bounded : ∀ e, (tables.attemptList e).length ≤ config.maxAttemptsPerEnvelope.toNat
  distinct : tables.attemptOrder.Nodup
  ordered : ∀ k, k ∈ tables.attemptOrder ↔ ∃ a, tables.attempts.find k = some a
  room : tables.attemptOrder.length ≤
    (config.maxEnvelopes * config.maxAttemptsPerEnvelope).toNat

section Known

theorem evictTerminal_of_le {limit : U64} {fuel : ℕ} {list : List U64}
    (h : list.length ≤ limit.toNat) : evictTerminal limit fuel tables list = (tables, list) := by
  cases fuel with
  | zero => rfl
  | succ fuel => rw [evictTerminal, if_pos h]

theorem evictOldest_of_le {limit : U64} (h : tables.attemptOrder.length ≤ limit.toNat) :
    evictOldest limit tables = tables := by
  unfold evictOldest
  simp only [Nat.sub_eq_zero_of_le h, List.take_zero, List.foldl_nil, List.drop_zero]

theorem lookup_of_mem {k : U64} {e : RateEnvelopeId} (h : k ∈ tables.attemptList e) :
    tables.attemptsByEnvelope[e.value]? = some (tables.attemptList e) := by
  unfold Tables.attemptList at h ⊢
  cases hlookup : tables.attemptsByEnvelope[e.value]? with
  | none =>
    rw [hlookup] at h
    cases h
  | some list => rfl

theorem retainAttempt_known (h : Indexed config tables)
    (hfind : tables.attempts.find attempt.id.value = some old)
    (henvelope : attempt.envelope = old.envelope) :
    tables.retainAttempt config attempt = { tables with attempts := tables.attempts.put attempt } := by
  have hmem : attempt.id.value ∈ tables.attemptList attempt.envelope := by
    rw [henvelope]
    exact h.listed _ _ hfind
  have hcontains : (tables.attemptList attempt.envelope).contains attempt.id.value = true := by
    simpa only [List.contains_iff_mem] using hmem
  have hlist : tables.enlisted attempt = tables.attemptList attempt.envelope := by
    rw [Tables.enlisted, if_pos hcontains]
  have henlist : tables.enlist attempt =
      { tables with attempts := tables.attempts.put attempt } := by
    rw [Tables.enlist, if_pos hcontains]
  unfold Tables.retainAttempt
  simp only [hlist, henlist, evictTerminal_of_le (h.bounded _)]
  rw [insert_of_getElem? (lookup_of_mem hmem)]
  exact evictOldest_of_le h.room

theorem Indexed.put (h : Indexed config tables)
    (hfind : tables.attempts.find attempt.id.value = some old)
    (henvelope : attempt.envelope = old.envelope) :
    Indexed config { tables with attempts := tables.attempts.put attempt } where
  listed k a hstored := by
    rw [Registry.find_put] at hstored
    split at hstored
    · next hk =>
      cases hstored
      rw [← hk, henvelope]
      exact h.listed _ _ hfind
    · exact h.listed k a hstored
  stored e k hmem := by
    obtain ⟨a, hstored, henv⟩ := h.stored e k hmem
    rw [Registry.find_put]
    split
    · next hk =>
      rw [← hk, hfind] at hstored
      cases hstored
      exact ⟨attempt, rfl, henvelope.trans henv⟩
    · exact ⟨a, hstored, henv⟩
  nodup := h.nodup
  bounded := h.bounded
  distinct := h.distinct
  ordered k := by
    refine (h.ordered k).trans ?_
    rw [Registry.find_put]
    split
    · next hk => exact ⟨fun _ ↦ ⟨attempt, rfl⟩, fun _ ↦ ⟨old, by rw [← hk]; exact hfind⟩⟩
    · exact Iff.rfl
  room := h.room

end Known

section Eviction

/-- What the eviction of finished attempts from one list leaves. -/
structure Evicted (tables : Tables) (list : List U64) (result : Tables × List U64) : Prop where
  frame : ∃ attempts order, result.1 = { tables with attempts, attemptOrder := order }
  sub : ∀ k ∈ result.2, k ∈ list
  nodup : result.2.Nodup
  find : ∀ k, result.1.attempts.find k =
    if k ∈ list ∧ k ∉ result.2 then none else tables.attempts.find k
  ordered : ∀ k, k ∈ result.1.attemptOrder ↔ k ∈ tables.attemptOrder ∧ ¬(k ∈ list ∧ k ∉ result.2)
  distinct : tables.attemptOrder.Nodup → result.1.attemptOrder.Nodup

theorem Evicted.refl {list : List U64} (h : list.Nodup) : Evicted tables list (tables, list) where
  frame := ⟨_, _, rfl⟩
  sub _ hmem := hmem
  nodup := h
  find k := by rw [if_neg fun hk ↦ hk.2 hk.1]
  ordered k := ⟨fun hmem ↦ ⟨hmem, fun hk ↦ hk.2 hk.1⟩, fun hk ↦ hk.1⟩
  distinct hnodup := hnodup

def dropAttempt (tables : Tables) (victim : U64) : Tables :=
  { tables with
    attempts := tables.attempts.remove victim
    attemptOrder := tables.attemptOrder.filter (· ≠ victim) }

theorem Evicted.erase {list : List U64} {victim : U64} {result : Tables × List U64}
    (hlist : list.Nodup) (hvictim : victim ∈ list)
    (h : Evicted (dropAttempt tables victim) (list.erase victim) result) :
    Evicted tables list result := by
  have hmem (k : U64) : k ∈ list.erase victim ↔ k ≠ victim ∧ k ∈ list := hlist.mem_erase_iff
  have hgone : victim ∉ result.2 := fun hk ↦ ((hmem _).1 (h.sub _ hk)).1 rfl
  refine ⟨?_, fun k hk ↦ ((hmem k).1 (h.sub k hk)).2, h.nodup, fun k ↦ ?_, fun k ↦ ?_, ?_⟩
  · obtain ⟨attempts, order, heq⟩ := h.frame
    exact ⟨attempts, order, heq⟩
  · rw [h.find]
    by_cases hk : k = victim
    · subst hk
      rw [if_neg fun h ↦ ((hmem k).1 h.1).1 rfl, if_pos ⟨hvictim, hgone⟩]
      exact (Registry.find_remove _ _ _).trans (if_pos rfl)
    · have hkept : (dropAttempt tables victim).attempts.find k = tables.attempts.find k :=
        (Registry.find_remove _ _ _).trans (if_neg (Ne.symm hk))
      simp only [hkept, hmem, ne_eq, hk, not_false_eq_true, true_and]
  · rw [h.ordered, hmem]
    simp only [dropAttempt, List.mem_filter, decide_eq_true_eq]
    by_cases hk : k = victim
    · subst hk
      exact ⟨fun h ↦ absurd rfl h.1.2, fun h ↦ absurd ⟨hvictim, hgone⟩ h.2⟩
    · simp only [ne_eq, hk, not_false_eq_true, and_true, true_and]
  · exact fun hnodup ↦ h.distinct (hnodup.filter _)

theorem evictTerminal_spec {limit : U64} {fuel : ℕ} {list : List U64} (hfuel : list.length ≤ fuel)
    (hlist : list.Nodup) : Evicted tables list (evictTerminal limit fuel tables list) := by
  induction fuel generalizing tables list with
  | zero => exact .refl hlist
  | succ fuel ih =>
    unfold evictTerminal
    split
    · exact .refl hlist
    · split
      · exact .refl hlist
      · next victim hvictim =>
        have hmem := List.mem_of_find?_eq_some hvictim
        refine .erase hlist hmem (ih ?_ (hlist.erase _))
        rw [List.length_erase_of_mem hmem]
        omega

/-- The eviction goes on until the list is within the limit or holds no finished attempt. -/
theorem evictTerminal_done {limit : U64} {fuel : ℕ} {list : List U64} (hfuel : list.length ≤ fuel) :
    (evictTerminal limit fuel tables list).2.length ≤ limit.toNat ∨
      ∀ k ∈ (evictTerminal limit fuel tables list).2,
        (evictTerminal limit fuel tables list).1.terminalAt k = false := by
  induction fuel generalizing tables list with
  | zero =>
    rw [List.eq_nil_of_length_eq_zero (Nat.le_zero.1 hfuel)]
    exact .inl (Nat.zero_le _)
  | succ fuel ih =>
    unfold evictTerminal
    split
    · next hle => exact .inl hle
    · split
      · next hnone =>
        rw [List.find?_eq_none] at hnone
        exact .inr fun k hk ↦ Bool.eq_false_of_not_eq_true (hnone k hk)
      · next victim hvictim =>
        refine ih ?_
        rw [List.length_erase_of_mem (List.mem_of_find?_eq_some hvictim)]
        omega

theorem evictTerminal_bounded {limit : U64} {fuel : ℕ} {list : List U64}
    (hfuel : list.length ≤ fuel) (hlist : list.Nodup)
    (hlive : (list.filter fun k ↦ !tables.terminalAt k).length ≤ limit.toNat) :
    (evictTerminal limit fuel tables list).2.length ≤ limit.toNat := by
  induction fuel generalizing tables list with
  | zero =>
    rw [List.eq_nil_of_length_eq_zero (Nat.le_zero.1 hfuel)]
    exact Nat.zero_le _
  | succ fuel ih =>
    unfold evictTerminal
    split
    · next hle => exact hle
    · next hlong =>
      split
      · next hnone =>
        refine absurd ?_ hlong
        rw [List.find?_eq_none] at hnone
        rwa [List.filter_eq_self.2 fun k hk ↦ by simpa using hnone k hk] at hlive
      · next victim hvictim =>
        have hmem := List.mem_of_find?_eq_some hvictim
        have hterminal := List.find?_some hvictim
        refine ih (by rw [List.length_erase_of_mem hmem]; omega) (hlist.erase _) ?_
        refine Nat.le_trans (Nat.le_of_eq (congrArg List.length ?_)) hlive
        have hkept : ∀ k ∈ list.erase victim,
            (!(dropAttempt tables victim).terminalAt k) = !tables.terminalAt k := by
          intro k hk
          have hne : victim ≠ k := fun heq ↦ (hlist.mem_erase_iff.1 hk).1 heq.symm
          unfold Tables.terminalAt dropAttempt
          simp only [Registry.find_remove, if_neg hne]
        refine (List.filter_congr hkept).trans ?_
        rw [hlist.erase_eq_filter, List.filter_filter]
        refine List.filter_congr fun k hk ↦ ?_
        by_cases hk : k = victim
        · subst hk
          rw [hterminal]
          rfl
        · rw [bne_iff_ne.2 hk, Bool.and_true]

end Eviction

section Creation

theorem find_foldl_remove_of_mem {r : Registry EnforcementAttempt (·.id.value)} {victims : List U64}
    {k : U64} (h : k ∈ victims) : (victims.foldl Registry.remove r).find k = none := by
  cases hfind : (victims.foldl Registry.remove r).find k with
  | none => rfl
  | some a =>
    induction victims generalizing r with
    | nil => cases h
    | cons victim victims ih =>
      obtain rfl | h := List.mem_cons.1 h
      · rw [List.foldl_cons] at hfind
        have hremove := find_foldl_remove hfind
        rw [Registry.find_remove, if_pos rfl] at hremove
        cases hremove
      · exact ih h hfind

theorem evictOldest_spec (limit : U64) (tables : Tables) :
    (∀ k a, (evictOldest limit tables).attempts.find k = some a →
      tables.attempts.find k = some a ∧
        (k ∈ tables.attemptOrder → k ∈ (evictOldest limit tables).attemptOrder)) ∧
    (evictOldest limit tables).attemptOrder.length ≤ limit.toNat ∧
    (evictOldest limit tables).attemptsByEnvelope = tables.attemptsByEnvelope := by
  refine ⟨fun k a hfind ↦ ⟨find_foldl_remove hfind, fun hmem ↦ ?_⟩, ?_, rfl⟩
  · rw [← List.take_append_drop (tables.attemptOrder.length - limit.toNat) tables.attemptOrder,
      List.mem_append] at hmem
    refine hmem.resolve_left fun hgone ↦ ?_
    have hnone : (evictOldest limit tables).attempts.find k = none := find_foldl_remove_of_mem hgone
    rw [hnone] at hfind
    cases hfind
  · simp only [evictOldest, List.length_drop]
    omega

theorem order_length_le {limit : ℕ} (hdistinct : tables.attemptOrder.Nodup)
    (hlisted : ∀ k ∈ tables.attemptOrder, ∃ a, tables.attempts.find k = some a ∧
      k ∈ tables.attemptList a.envelope ∧ ∃ e, tables.envelopes.find a.envelope.value = some e)
    (hbounded : ∀ e, (tables.attemptList e).length ≤ limit) :
    tables.attemptOrder.length ≤ tables.envelopes.size * limit := by
  have hsub : tables.attemptOrder ⊆
      tables.envelopes.entries.flatMap fun e ↦ tables.attemptList e.id := by
    intro k hk
    obtain ⟨a, -, hmem, e, he⟩ := hlisted k hk
    refine List.mem_flatMap.2 ⟨e, Registry.mem_entries_of_find he, ?_⟩
    have hid : e.id = a.envelope := by
      have hkey := Registry.key_of_find he
      exact congrArg StrongId.mk hkey
    rw [hid]
    exact hmem
  have hsum : ((tables.envelopes.entries.map fun e ↦ (tables.attemptList e.id).length)).sum ≤
      tables.envelopes.entries.length * limit := by
    have hle := List.sum_le_card_nsmul
      (tables.envelopes.entries.map fun e ↦ (tables.attemptList e.id).length) limit (by
        intro n hn
        obtain ⟨e, -, rfl⟩ := List.mem_map.1 hn
        exact hbounded e.id)
    rwa [List.length_map, smul_eq_mul] at hle
  calc tables.attemptOrder.length
      ≤ (tables.envelopes.entries.flatMap fun e ↦ tables.attemptList e.id).length :=
        (List.subperm_of_subset hdistinct hsub).length_le
    _ ≤ tables.envelopes.entries.length * limit := by rw [List.length_flatMap]; exact hsum
    _ = tables.envelopes.size * limit := by rw [Registry.length_entries]

def cutBack (config : EngineConfig) (tables : Tables) (attempt : EnforcementAttempt) :
    Tables × List U64 :=
  evictTerminal config.maxAttemptsPerEnvelope (tables.enlisted attempt).length
    (tables.enlist attempt) (tables.enlisted attempt)

/-- The tables with an attempt retained, before the oldest are dropped. -/
def refiled (config : EngineConfig) (tables : Tables) (attempt : EnforcementAttempt) : Tables :=
  { (cutBack config tables attempt).1 with
    attemptsByEnvelope := (cutBack config tables attempt).1.attemptsByEnvelope.insert
      attempt.envelope.value (cutBack config tables attempt).2 }

section Unlisted

variable (hnodup : (tables.attemptList attempt.envelope).Nodup)
  (hunlisted : attempt.id.value ∉ tables.attemptList attempt.envelope)

include hunlisted

theorem enlisted_of_unlisted :
    tables.enlisted attempt = tables.attemptList attempt.envelope ++ [attempt.id.value] := by
  have hcontains : ¬(tables.attemptList attempt.envelope).contains attempt.id.value = true := by
    simpa only [List.contains_iff_mem] using hunlisted
  rw [Tables.enlisted, if_neg hcontains]

theorem enlist_of_unlisted :
    tables.enlist attempt = { tables with
      attempts := tables.attempts.put attempt
      attemptOrder := tables.attemptOrder ++ [attempt.id.value] } := by
  have hcontains : ¬(tables.attemptList attempt.envelope).contains attempt.id.value = true := by
    simpa only [List.contains_iff_mem] using hunlisted
  rw [Tables.enlist, if_neg hcontains]

theorem mem_enlisted {k : U64} : k ∈ tables.enlisted attempt ↔
    k ∈ tables.attemptList attempt.envelope ∨ k = attempt.id.value := by
  rw [enlisted_of_unlisted hunlisted, List.mem_append, List.mem_singleton]

include hnodup

theorem nodup_enlisted : (tables.enlisted attempt).Nodup := by
  rw [enlisted_of_unlisted hunlisted]
  refine List.nodup_append.2 ⟨hnodup, List.pairwise_singleton _ _, ?_⟩
  rintro k hk _ hid rfl
  rw [List.mem_singleton.1 hid] at hk
  exact hunlisted hk

theorem evicted_enlisted (config : EngineConfig) : Evicted (tables.enlist attempt)
    (tables.enlisted attempt) (cutBack config tables attempt) :=
  evictTerminal_spec (Nat.le_refl _) (nodup_enlisted hnodup hunlisted)

theorem refiled_attemptList (e : RateEnvelopeId) :
    (refiled config tables attempt).attemptList e =
      if attempt.envelope = e then (cutBack config tables attempt).2 else tables.attemptList e := by
  obtain ⟨attempts, order, hframe⟩ := (evicted_enlisted hnodup hunlisted config).frame
  have hlists : (cutBack config tables attempt).1.attemptsByEnvelope =
      tables.attemptsByEnvelope := by
    rw [hframe]
    rfl
  unfold Tables.attemptList refiled
  simp only [hlists, getElem?_insert]
  split
  · next heq =>
    rw [if_pos (congrArg StrongId.mk heq)]
    rfl
  · next hne => rw [if_neg fun heq ↦ hne (congrArg StrongId.value heq)]

theorem refiled_find
    (hlisted : ∀ k a, tables.attempts.find k = some a → k ∈ tables.attemptList a.envelope)
    {k : U64} {a : EnforcementAttempt}
    (hfind : (refiled config tables attempt).attempts.find k = some a) :
    (a = attempt ∧ k = attempt.id.value ∨ tables.attempts.find k = some a) ∧
      k ∈ (refiled config tables attempt).attemptList a.envelope := by
  have hevicted := evicted_enlisted hnodup hunlisted config
  have hkept : ¬(k ∈ tables.enlisted attempt ∧ k ∉ (cutBack config tables attempt).2) := by
    intro hgone
    have hnone := hevicted.find k
    rw [if_pos hgone] at hnone
    exact absurd (hnone.symm.trans hfind) nofun
  have hput : (tables.attempts.put attempt).find k = some a := by
    have hfound := hevicted.find k
    rw [if_neg hkept] at hfound
    exact hfound.symm.trans hfind
  have hold : a = attempt ∧ k = attempt.id.value ∨ tables.attempts.find k = some a := by
    rw [Registry.find_put] at hput
    split at hput
    · next hk =>
      cases hput
      exact .inl ⟨rfl, hk.symm⟩
    · exact .inr hput
  refine ⟨hold, ?_⟩
  rw [refiled_attemptList hnodup hunlisted]
  split
  · next henvelope =>
    have hmem : k ∈ tables.enlisted attempt := by
      rw [mem_enlisted hunlisted, henvelope]
      obtain ⟨rfl, rfl⟩ | hold := hold
      · exact .inr rfl
      · exact .inl (hlisted k a hold)
    exact not_not.1 fun hgone ↦ hkept ⟨hmem, hgone⟩
  · next henvelope =>
    obtain ⟨rfl, -⟩ | hold := hold
    · exact absurd rfl henvelope
    · exact hlisted k a hold

end Unlisted

section Fresh

variable (h : Indexed config tables) (hfresh : tables.attempts.find attempt.id.value = none)

include h hfresh

theorem not_listed_of_fresh (e : RateEnvelopeId) : attempt.id.value ∉ tables.attemptList e := by
  intro hmem
  obtain ⟨a, hfind, -⟩ := h.stored e _ hmem
  rw [hfresh] at hfind
  cases hfind

theorem refiled_stored (e : RateEnvelopeId) {k : U64}
    (hmem : k ∈ (refiled config tables attempt).attemptList e) :
    ∃ a, (refiled config tables attempt).attempts.find k = some a ∧ a.envelope = e := by
  have hevicted := evicted_enlisted (h.nodup _) (not_listed_of_fresh h hfresh _) config
  have hfound (hkept : ¬(k ∈ tables.enlisted attempt ∧ k ∉ (cutBack config tables attempt).2)) :
      (refiled config tables attempt).attempts.find k =
        if attempt.id.value = k then some attempt else tables.attempts.find k := by
    have hfind := hevicted.find k
    rw [if_neg hkept] at hfind
    exact hfind.trans (Registry.find_put _ _ _)
  rw [refiled_attemptList (h.nodup _) (not_listed_of_fresh h hfresh _)] at hmem
  split at hmem
  · next henvelope =>
    rw [hfound fun hgone ↦ hgone.2 hmem]
    split
    · exact ⟨attempt, rfl, henvelope⟩
    · next hne =>
      rw [← henvelope]
      have hlisted := (mem_enlisted (not_listed_of_fresh h hfresh _)).1 (hevicted.sub k hmem)
      exact h.stored _ k (hlisted.resolve_right (Ne.symm hne))
  · next henvelope =>
    obtain ⟨a, hstored, heq⟩ := h.stored e k hmem
    have hne : attempt.id.value ≠ k := by
      rintro rfl
      rw [hfresh] at hstored
      cases hstored
    have hother : k ∉ tables.enlisted attempt := by
      intro hlisted
      obtain ⟨b, hb, hbe⟩ := h.stored _ k
        (((mem_enlisted (not_listed_of_fresh h hfresh _)).1 hlisted).resolve_right (Ne.symm hne))
      rw [hstored] at hb
      cases hb
      exact henvelope (hbe.symm.trans heq)
    rw [hfound fun hgone ↦ hother hgone.1, if_neg hne]
    exact ⟨a, hstored, heq⟩

theorem refiled_ordered (k : U64) : k ∈ (refiled config tables attempt).attemptOrder ↔
    ∃ a, (refiled config tables attempt).attempts.find k = some a := by
  have hevicted := evicted_enlisted (h.nodup _) (not_listed_of_fresh h hfresh _) config
  have hfind : (refiled config tables attempt).attempts.find k = _ := hevicted.find k
  refine (hevicted.ordered k).trans ?_
  rw [hfind, enlist_of_unlisted (not_listed_of_fresh h hfresh _)]
  simp only [List.mem_append, List.mem_singleton, h.ordered, Registry.find_put]
  split
  · next hgone => exact ⟨fun hk ↦ absurd hgone hk.2, fun ⟨_, hk⟩ ↦ (nomatch hk)⟩
  · next hkept =>
    split
    · next hk => exact ⟨fun _ ↦ ⟨attempt, rfl⟩, fun _ ↦ ⟨.inr hk.symm, hkept⟩⟩
    · next hk => exact ⟨fun hk' ↦ hk'.1.resolve_right (Ne.symm hk), fun hk' ↦ ⟨.inl hk', hkept⟩⟩

theorem refiled_distinct : (refiled config tables attempt).attemptOrder.Nodup := by
  refine (evicted_enlisted (h.nodup _) (not_listed_of_fresh h hfresh _) config).distinct ?_
  rw [enlist_of_unlisted (not_listed_of_fresh h hfresh _)]
  refine List.nodup_append.2 ⟨h.distinct, List.pairwise_singleton _ _, ?_⟩
  rintro k hk _ hid rfl
  rw [List.mem_singleton.1 hid, h.ordered, hfresh] at hk
  obtain ⟨_, hk⟩ := hk
  cases hk

end Fresh

/-- A new attempt is filed without disturbing the others, as long as few enough of its list are
still in flight. -/
theorem Indexed.create (h : Indexed config tables)
    (hfresh : tables.attempts.find attempt.id.value = none)
    (hlive : ((tables.enlisted attempt).filter fun k ↦
      !(tables.enlist attempt).terminalAt k).length ≤ config.maxAttemptsPerEnvelope.toNat)
    (henvelopes : ∀ k a, (tables.attempts.put attempt).find k = some a →
      ∃ e, tables.envelopes.find a.envelope.value = some e)
    (hsize : tables.envelopes.size * config.maxAttemptsPerEnvelope.toNat ≤
      (config.maxEnvelopes * config.maxAttemptsPerEnvelope).toNat) :
    Indexed config (tables.retainAttempt config attempt) := by
  have hunlisted := not_listed_of_fresh h hfresh attempt.envelope
  have hbounded : ∀ e, ((refiled config tables attempt).attemptList e).length ≤
      config.maxAttemptsPerEnvelope.toNat := by
    intro e
    rw [refiled_attemptList (h.nodup _) hunlisted]
    split
    · exact evictTerminal_bounded (Nat.le_refl _) (nodup_enlisted (h.nodup _) hunlisted) hlive
    · exact h.bounded e
  have hsame : (refiled config tables attempt).envelopes = tables.envelopes := by
    obtain ⟨attempts, order, hframe⟩ := (evicted_enlisted (h.nodup _) hunlisted config).frame
    unfold refiled
    rw [hframe]
    rfl
  have hroom : (refiled config tables attempt).attemptOrder.length ≤
      (config.maxEnvelopes * config.maxAttemptsPerEnvelope).toNat := by
    refine Nat.le_trans (order_length_le (refiled_distinct h hfresh) ?_ hbounded)
      (hsame ▸ hsize)
    intro k hk
    obtain ⟨a, hfind⟩ := (refiled_ordered h hfresh k).1 hk
    obtain ⟨hold, hlisted⟩ := refiled_find (h.nodup _) hunlisted h.listed hfind
    refine ⟨a, hfind, hlisted, ?_⟩
    rw [hsame]
    refine henvelopes k a ?_
    rw [Registry.find_put]
    obtain ⟨rfl, rfl⟩ | hold := hold
    · exact if_pos rfl
    · rw [if_neg, hold]
      rintro rfl
      rw [hfresh] at hold
      cases hold
  have hretain : tables.retainAttempt config attempt = refiled config tables attempt :=
    evictOldest_of_le hroom
  rw [hretain]
  refine ⟨fun k a hfind ↦ (refiled_find (h.nodup _) hunlisted h.listed hfind).2,
    fun e k ↦ refiled_stored h hfresh e, ?_, hbounded, refiled_distinct h hfresh,
    refiled_ordered h hfresh, hroom⟩
  intro e
  rw [refiled_attemptList (h.nodup _) hunlisted]
  split
  · exact (evicted_enlisted (h.nodup _) hunlisted config).nodup
  · exact h.nodup e

end Creation

end RateGovernor.Dynamics.Retention
