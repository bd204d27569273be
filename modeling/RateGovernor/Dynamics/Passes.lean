import Mathlib.Data.List.Induction
import RateGovernor.Dynamics.Waiting

namespace RateGovernor.Dynamics.Passes

open Model.CheckedMath Model.Identity Model.Reason Model.Entities Model.Envelope Model.EngineState
open Model.Bucket Model.Durability Model.Authority Model.Calls Model.Lifecycle Model.Completion
open Model.Revocation Model.Maintenance Model.Execution Foundation.KeyedTable Install Sections
open Bindings Staging Turns Waiting

section Entries

variable {α : Type} {key : α → U64} {candidate x : α} {list merged : List α} {k : U64}

def entryOf (key : α → U64) (k : U64) (list : List α) : Option α := list.find? fun x ↦ key x = k

theorem entryOf_cons : entryOf key k (x :: list) =
    if key x = k then some x else entryOf key k list := by
  simp only [entryOf, List.find?_cons]
  by_cases h : key x = k
  · simp only [h, decide_true, if_true]
  · simp only [h, decide_false, if_false]

theorem entryOf_none (h : k ∉ list.map key) : entryOf key k list = none := by
  refine List.find?_eq_none.2 fun y hy ↦ ?_
  rw [decide_eq_true_eq]
  exact fun hkey ↦ h (List.mem_map.2 ⟨y, hy, hkey⟩)

theorem entryOf_mergeBy : entryOf key k (mergeBy key candidate list) =
    if key candidate = k then some candidate else entryOf key k list := by
  induction list with
  | nil => exact entryOf_cons
  | cons existing list ih =>
    unfold mergeBy
    split
    · next hsame =>
      rw [entryOf_cons, entryOf_cons, hsame]
      split <;> rfl
    · next hother =>
      rw [entryOf_cons, entryOf_cons, ih]
      split
      · next hkey => rw [if_neg fun h ↦ hother (hkey.trans h.symm)]
      · rfl

theorem length_mergeBy_entry : (mergeBy key candidate list).length =
    if (entryOf key (key candidate) list).isSome then list.length else list.length + 1 := by
  induction list with
  | nil => rfl
  | cons existing list ih =>
    unfold mergeBy
    rw [entryOf_cons]
    split
    · next hsame => rfl
    · rw [List.length_cons, ih, List.length_cons]
      split <;> rfl

theorem foldl_mergeBy_of_nodup (merged : List α) (h : ((merged ++ list).map key).Nodup) :
    list.foldl (fun merged candidate ↦ mergeBy key candidate merged) merged = merged ++ list := by
  induction list generalizing merged with
  | nil => exact (List.append_nil merged).symm
  | cons candidate list ih =>
    have happend : mergeBy key candidate merged = merged ++ [candidate] := by
      have hnew : key candidate ∉ merged.map key := by
        rw [List.map_append, List.map_cons] at h
        exact fun hmem ↦ List.disjoint_of_nodup_append h hmem List.mem_cons_self
      clear h ih
      induction merged with
      | nil => rfl
      | cons existing merged ih =>
        rw [List.map_cons, List.mem_cons, not_or] at hnew
        rw [mergeBy, if_neg (Ne.symm hnew.1), ih hnew.2, List.cons_append]
    rw [List.foldl_cons, happend, ih _ (by rwa [List.append_assoc]), List.append_assoc]
    rfl

theorem entryOf_filterMap {f : α → Option α} (hkey : ∀ x y, f x = some y → key y = key x)
    (h : (list.map key).Nodup) : entryOf key k (list.filterMap f) = (entryOf key k list).bind f := by
  induction list with
  | nil => rfl
  | cons x list ih =>
    rw [List.map_cons, List.nodup_cons] at h
    rw [entryOf_cons]
    by_cases hx : key x = k
    · rw [if_pos hx, Option.bind_some]
      cases hf : f x with
      | none =>
        rw [List.filterMap_cons_none hf, ih h.2, entryOf_none (hx ▸ h.1)]
        rfl
      | some y => rw [List.filterMap_cons_some hf, entryOf_cons, if_pos ((hkey x y hf).trans hx)]
    · rw [if_neg hx, ← ih h.2]
      cases hf : f x with
      | none => rw [List.filterMap_cons_none hf]
      | some y =>
        rw [List.filterMap_cons_some hf, entryOf_cons,
          if_neg fun heq ↦ hx ((hkey x y hf).symm.trans heq)]

theorem entryOf_entries (r : Registry α key) : entryOf key k r.entries = r.find k := by
  cases hfind : r.find k with
  | none =>
    refine entryOf_none fun hmem ↦ ?_
    obtain ⟨v, hv, hkey⟩ := List.mem_map.1 hmem
    rw [Registry.mem_entries, hkey, hfind] at hv
    cases hv
  | some v =>
    cases hentry : entryOf key k r.entries with
    | none =>
      have hmem := Registry.mem_entries_of_find hfind
      have hkey := Registry.key_of_find hfind
      exact absurd (decide_eq_true hkey) (List.find?_eq_none.1 hentry v hmem)
    | some w =>
      have hw := Registry.mem_entries.1 (List.mem_of_find?_eq_some hentry)
      have hkey : key w = k := by
        simpa only [decide_eq_true_eq] using
          List.find?_some (show r.entries.find? (fun x ↦ key x = k) = some w from hentry)
      rw [← hkey] at hfind
      exact hw.symm.trans hfind

theorem split_of_entryOf (h : entryOf key k list = some x) :
    ∃ after, list = (list.takeWhile fun y ↦ key y ≠ k) ++ x :: after := by
  induction list with
  | nil => cases h
  | cons y list ih =>
    rw [entryOf_cons] at h
    by_cases hkey : key y = k
    · rw [if_pos hkey] at h
      cases h
      refine ⟨list, ?_⟩
      rw [List.takeWhile_cons, if_neg, List.nil_append]
      exact fun h ↦ of_decide_eq_true h hkey
    · rw [if_neg hkey] at h
      obtain ⟨after, hlist⟩ := ih h
      refine ⟨after, ?_⟩
      rw [List.takeWhile_cons, if_pos (decide_eq_true hkey), List.cons_append, ← hlist]

end Entries

section Pass

variable {tables : Tables} {now : U64} {state : TickState} {envelope : RateEnvelope} {k : U64}
  {list before after : List RateEnvelope}

/-- Whether the pass over the envelopes has anything to write of this one. -/
def touched (tables : Tables) (now : U64) (envelope : RateEnvelope) : Bool :=
  let refilled := refillStage envelope now
  let cooled := cooldownStage refilled.1 now
  refilled.2.tokensGranted ≠ 0 || refilled.2.elapsedNs ≠ 0 || cooldownExpired refilled.1 now ||
    goesStale cooled (authorityStatus tables cooled now)

def updatesOf (state : TickState) (k : U64) : Option RateEnvelope :=
  entryOf (·.id.value) k state.envelopeUpdates

theorem id_maintained : (maintained tables envelope now).id = envelope.id :=
  congrArg Binding.id (binding_maintained tables envelope now)

theorem updates_tickEnvelope :
    (tickEnvelope tables now state envelope).envelopeUpdates =
      if touched tables now envelope && state.envelopeUpdates.length < kMaxTickEnvelopeTransitions
      then mergeEnvelope state.envelopeUpdates (maintained tables envelope now)
      else state.envelopeUpdates := by
  have hfull : (!decide (kMaxTickEnvelopeTransitions ≤ state.envelopeUpdates.length)) =
      decide (state.envelopeUpdates.length < kMaxTickEnvelopeTransitions) :=
    (decide_not ..).symm.trans (decide_eq_decide.2 Nat.not_le)
  simp only [tickEnvelope, hfull]
  rfl

theorem updatesOf_tickEnvelope : updatesOf (tickEnvelope tables now state envelope) k =
    if envelope.id.value = k ∧ touched tables now envelope = true ∧
        state.envelopeUpdates.length < kMaxTickEnvelopeTransitions
    then some (maintained tables envelope now) else updatesOf state k := by
  unfold updatesOf
  rw [updates_tickEnvelope]
  simp only [Bool.and_eq_true, decide_eq_true_eq]
  split
  · next hroom =>
    rw [mergeEnvelope, entryOf_mergeBy, id_maintained]
    simp only [hroom, and_true]
  · next hroom => rw [if_neg fun h ↦ hroom h.2]

theorem updatesOf_pass_of_notMem (h : k ∉ list.map (·.id.value)) :
    updatesOf (list.foldl (tickEnvelope tables now) state) k = updatesOf state k := by
  induction list generalizing state with
  | nil => rfl
  | cons envelope list ih =>
    rw [List.map_cons, List.mem_cons, not_or] at h
    rw [List.foldl_cons, ih h.2, updatesOf_tickEnvelope, if_neg fun heq ↦ h.1 heq.1.symm]

/-- How many of the envelopes the pass writes under a key the updates do not hold yet. -/
def charged (tables : Tables) (now : U64) (state : TickState) (list : List RateEnvelope) : ℕ :=
  list.countP fun envelope ↦
    touched tables now envelope && (updatesOf state envelope.id.value).isNone

theorem length_pass (h : (list.map (·.id.value)).Nodup) :
    (list.foldl (tickEnvelope tables now) state).envelopeUpdates.length =
      max state.envelopeUpdates.length (min kMaxTickEnvelopeTransitions
        (state.envelopeUpdates.length + charged tables now state list)) := by
  induction list using List.reverseRecOn with
  | nil =>
    simp only [List.foldl_nil, charged, List.countP_nil]
    omega
  | append_singleton list envelope ih =>
    rw [List.map_append, List.map_singleton] at h
    have hnew : envelope.id.value ∉ list.map (·.id.value) := fun hmem ↦
      List.disjoint_of_nodup_append h hmem List.mem_cons_self
    have hcharged : charged tables now state (list ++ [envelope]) =
        charged tables now state list +
          if touched tables now envelope && (updatesOf state envelope.id.value).isNone then 1
          else 0 := by
      simp only [charged, List.countP_append, List.countP_singleton]
    have ih := ih (List.nodup_append.1 h).1
    have hkept : entryOf (·.id.value) envelope.id.value
        (list.foldl (tickEnvelope tables now) state).envelopeUpdates =
          updatesOf state envelope.id.value := updatesOf_pass_of_notMem hnew
    rw [List.foldl_append, List.foldl_cons, List.foldl_nil, updates_tickEnvelope, hcharged]
    by_cases htouched : touched tables now envelope = true
    · by_cases hroom : (list.foldl (tickEnvelope tables now) state).envelopeUpdates.length <
          kMaxTickEnvelopeTransitions
      · rw [if_pos (by rw [htouched, decide_eq_true hroom]; rfl), mergeEnvelope,
          length_mergeBy_entry, id_maintained, hkept, htouched, Bool.true_and]
        cases updatesOf state envelope.id.value with
        | none =>
          simp only [Option.isSome_none, Bool.false_eq_true, if_false, Option.isNone_none, if_true]
          omega
        | some _ =>
          simp only [Option.isSome_some, if_true, Option.isNone_some, Bool.false_eq_true, if_false]
          omega
      · rw [if_neg (by rw [decide_eq_false hroom, Bool.and_false]; exact Bool.false_ne_true)]
        split <;> omega
    · rw [Bool.not_eq_true] at htouched
      rw [htouched, Bool.false_and, Bool.false_and]
      simp only [Bool.false_eq_true, if_false]
      omega

/-- What the pass makes of the envelope it comes to after `before`. -/
theorem updatesOf_pass (tables : Tables) (now : U64) (state : TickState)
    (h : ((before ++ envelope :: after).map (·.id.value)).Nodup) :
    updatesOf ((before ++ envelope :: after).foldl (tickEnvelope tables now) state)
        envelope.id.value =
      if touched tables now envelope = true ∧
          (before.foldl (tickEnvelope tables now) state).envelopeUpdates.length <
            kMaxTickEnvelopeTransitions
      then some (maintained tables envelope now) else updatesOf state envelope.id.value := by
  rw [List.map_append, List.map_cons] at h
  have hbefore : envelope.id.value ∉ before.map (·.id.value) := fun hmem ↦
    List.disjoint_of_nodup_append h hmem List.mem_cons_self
  have hafter : envelope.id.value ∉ after.map (·.id.value) :=
    (List.nodup_cons.1 (List.nodup_append.1 h).2.1).1
  rw [List.foldl_append, List.foldl_cons, updatesOf_pass_of_notMem hafter, updatesOf_tickEnvelope,
    updatesOf_pass_of_notMem hbefore]
  simp only [true_and]

end Pass

section Attempts

variable {tables : Tables} {now : U64} {state : TickState} {attempt : EnforcementAttempt} {k : U64}
  {list : List EnforcementAttempt}

/-- What a tick writes of the envelope a timed-out attempt belongs to. -/
def doubted (tables : Tables) (now k : U64) : Option RateEnvelope :=
  (tables.envelopes.find k).map (doubtedEnvelope · .attemptDeadlineExceeded now)

/-- Whether the tick comes to a timed-out attempt while it may still write one. -/
def expires (now : U64) (state : TickState) (attempt : EnforcementAttempt) : Prop :=
  deadlinePassed attempt now = true ∧ state.attemptUpdates.length < kMaxTickAttemptTransitions

theorem tickAttempt_of_not_expires (tables : Tables) (h : ¬ expires now state attempt) :
    (tickAttempt tables now state attempt).envelopeUpdates = state.envelopeUpdates ∧
      (tickAttempt tables now state attempt).attemptUpdates = state.attemptUpdates := by
  unfold tickAttempt
  split
  · exact ⟨rfl, rfl⟩
  · next hpassed =>
    split
    · exact ⟨rfl, rfl⟩
    · next hroom =>
      rw [Bool.not_eq_true', Bool.not_eq_false] at hpassed
      exact absurd ⟨hpassed, Nat.lt_of_not_le hroom⟩ h

theorem attempts_tickAttempt (h : expires now state attempt) :
    (tickAttempt tables now state attempt).attemptUpdates =
      mergeAttempt state.attemptUpdates (expiredAttempt attempt now) := by
  unfold tickAttempt
  rw [if_neg (by rw [h.1]; exact Bool.false_ne_true), if_neg (Nat.not_le_of_lt h.2)]
  simp only
  split <;> rfl

theorem updatesOf_tickAttempt (h : expires now state attempt) :
    updatesOf (tickAttempt tables now state attempt) k =
      if attempt.envelope.value = k then (doubted tables now k).or (updatesOf state k)
      else updatesOf state k := by
  unfold tickAttempt
  rw [if_neg (by rw [h.1]; exact Bool.false_ne_true), if_neg (Nat.not_le_of_lt h.2)]
  simp only
  split
  · next hnone =>
    split
    · next hkey =>
      rw [doubted, ← hkey, hnone]
      rfl
    · rfl
  · next envelope hfound =>
    have hkey := Registry.key_of_find hfound
    refine entryOf_mergeBy.trans ?_
    rw [show (doubtedEnvelope envelope .attemptDeadlineExceeded now).id.value =
      attempt.envelope.value from hkey]
    split
    · next hk =>
      rw [doubted, ← hk, hfound]
      rfl
    · rfl

/-- The timed-out attempts among these that a tick still has room to write. -/
def timedOut (now : U64) (room : ℕ) (list : List EnforcementAttempt) : List EnforcementAttempt :=
  (list.filter fun attempt ↦ deadlinePassed attempt now).take room

theorem updatesOf_attempts (hdistinct : (list.map (·.id.value)).Nodup)
    (hnew : ∀ a ∈ list, entryOf (·.id.value) a.id.value state.attemptUpdates = none) :
    updatesOf (list.foldl (tickAttempt tables now) state) k =
      if (timedOut now (kMaxTickAttemptTransitions - state.attemptUpdates.length) list).any
          (fun a ↦ a.envelope.value = k) = true
      then (doubted tables now k).or (updatesOf state k) else updatesOf state k := by
  induction list generalizing state with
  | nil =>
    rw [timedOut, List.filter_nil, List.take_nil]
    rfl
  | cons attempt list ih =>
    rw [List.map_cons, List.nodup_cons] at hdistinct
    rw [List.foldl_cons]
    have hrest (a) (hmem : a ∈ list) := hnew a (List.mem_cons_of_mem _ hmem)
    by_cases h : expires now state attempt
    · have hself : entryOf (·.id.value) (expiredAttempt attempt now).id.value
          state.attemptUpdates = none := hnew attempt List.mem_cons_self
      have hlength : (tickAttempt tables now state attempt).attemptUpdates.length =
          state.attemptUpdates.length + 1 := by
        rw [attempts_tickAttempt h, mergeAttempt, length_mergeBy_entry, hself]
        rfl
      rw [ih hdistinct.2, updatesOf_tickAttempt h, hlength]
      · have htake : timedOut now (kMaxTickAttemptTransitions - state.attemptUpdates.length)
            (attempt :: list) = attempt :: timedOut now
              (kMaxTickAttemptTransitions - (state.attemptUpdates.length + 1)) list := by
          have hroom : kMaxTickAttemptTransitions - state.attemptUpdates.length =
              kMaxTickAttemptTransitions - (state.attemptUpdates.length + 1) + 1 := by
            have := h.2
            omega
          unfold timedOut
          rw [List.filter_cons, if_pos h.1, hroom, List.take_succ_cons]
        rw [htake, List.any_cons]
        by_cases hkey : attempt.envelope.value = k
        · simp only [hkey, decide_true, Bool.true_or, if_true]
          split
          · cases doubted tables now k <;> rfl
          · rfl
        · simp only [hkey, decide_false, Bool.false_or, if_false]
      · intro a hmem
        rw [attempts_tickAttempt h, mergeAttempt, entryOf_mergeBy, if_neg, hrest a hmem]
        exact fun heq ↦ hdistinct.1 (List.mem_map.2 ⟨a, hmem, heq.symm⟩)
    · obtain ⟨henvelopes, hattempts⟩ := tickAttempt_of_not_expires tables h
      rw [ih hdistinct.2 (by rw [hattempts]; exact hrest), hattempts,
        show updatesOf (tickAttempt tables now state attempt) k = updatesOf state k from
          congrArg (entryOf _ k) henvelopes]
      have hsame : timedOut now (kMaxTickAttemptTransitions - state.attemptUpdates.length)
          (attempt :: list) =
            timedOut now (kMaxTickAttemptTransitions - state.attemptUpdates.length) list := by
        unfold timedOut
        rw [List.filter_cons]
        split
        · next hpassed =>
          have hfull : kMaxTickAttemptTransitions - state.attemptUpdates.length = 0 :=
            Nat.sub_eq_zero_of_le (Nat.le_of_not_lt fun hroom ↦ h ⟨hpassed, hroom⟩)
          rw [hfull, List.take_zero, List.take_zero]
        · rfl
      rw [hsame]

end Attempts

end RateGovernor.Dynamics.Passes
