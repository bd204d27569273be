import RateGovernor.Dynamics.Buckets
import RateGovernor.Dynamics.Compacting
import RateGovernor.Dynamics.Journaling

namespace RateGovernor.Dynamics.Restoring

open Model.CheckedMath Model.Identity Model.Entities Model.Envelope Model.EngineState Model.Journal
open Model.RecordCodec Model.EnvelopeCodec Model.Durability Model.Lifecycle Model.Execution
open Foundation.ByteCodec Foundation.KeyedTable Install Sections Staging Records Compacting
open Commits Journaling Buckets

variable {s : System} {event : Event} {config : EngineConfig} {tables : Tables}
  {entries more : List (JournalRecordType × Bytes)} {envelope : RateEnvelope} {boot : WorkerBootId}

section Records

def wholeEnvelope (entry : JournalRecordType × Bytes) : Option RateEnvelope :=
  match entry.1 with
  | .envelopeOpened | .envelopeBindingChange | .envelopeAuthorized | .envelopeStateChange
  | .envelopeEffectRecorded => decodePayload decodeEnvelope entry.2
  | _ => none

theorem accounted_keptEnvelope (h : Accounted envelope) : Accounted (keptEnvelope envelope) := by
  refine ⟨h.within, fun hplanned ↦ ?_⟩
  have hplanned : envelope.hasPlan = true := hplanned
  obtain ⟨hknown, hcapacity, hrate⟩ := h.funded hplanned
  have hplan : (keptEnvelope envelope).plan = keptPlan envelope.plan := if_pos hplanned
  rw [hplan]
  exact ⟨hknown, hcapacity, hrate⟩

theorem wholeEnvelope_record {staged : Staged} (h : Staged.Replayable staged) :
    wholeEnvelope (staged.record boot) = (envelope? staged).map keptEnvelope := by
  cases staged with
  | grant => obtain rfl | rfl := h <;> rfl
  | reservation => obtain rfl | rfl := h <;> rfl
  | policy => obtain rfl | rfl := h <;> rfl
  | resource => obtain rfl | rfl := h <;> rfl
  | envelope =>
    obtain rfl | rfl | rfl | rfl := h <;>
      simp only [wholeEnvelope, Staged.record, read_envelope, envelope?, Option.map_some]
  | attempt => obtain rfl | rfl | rfl | rfl := h <;> rfl
  | _ => rfl

/-- What a section stages is replayed as it is, but for what `consume_burst` stages. -/
theorem replayable_of_stages {staged : Staged} (h : Stages s event staged) :
    Staged.Replayable staged ∨ ∃ envelope, staged = .envelope .envelopeCounters envelope := by
  cases h with
  | consumed => exact .inr ⟨_, rfl⟩
  | _ =>
    refine .inl ?_
    first
      | trivial
      | exact .inl rfl
      | exact .inr rfl
      | exact .inr (.inl rfl)
      | exact .inr (.inr (.inl rfl))
      | exact .inr (.inr (.inr rfl))

theorem whole_of_stages {staged : Staged} (h : Stages s event staged)
    (hwhole : wholeEnvelope (staged.record boot) = some envelope) :
    ∃ type e, staged = .envelope type e ∧ envelope = keptEnvelope e := by
  obtain hreplayable | ⟨e, rfl⟩ := replayable_of_stages h
  · rw [wholeEnvelope_record hreplayable] at hwhole
    obtain ⟨e, he, rfl⟩ := Option.map_eq_some_iff.1 hwhole
    cases staged with
    | envelope type _ =>
      cases he
      exact ⟨type, _, rfl, rfl⟩
    | _ => cases he
  · cases hwhole

end Records

section Restores

/-- The last record of every envelope among these holds it accounted. -/
def Restores (entries : List (JournalRecordType × Bytes)) : Prop :=
  ∀ envelopes, AllAccounted envelopes → AllAccounted (envelopes.putAll wholeEnvelope entries)

theorem restores_nil : Restores [] := fun _ h ↦ h

theorem Restores.append (h : Restores entries) (h' : Restores more) : Restores (entries ++ more) := by
  intro envelopes hall
  unfold Registry.putAll
  rw [List.foldl_append]
  exact h' _ (h _ hall)

/-- Each of these records that holds an envelope whole holds it accounted. -/
def EachAccounted (entries : List (JournalRecordType × Bytes)) : Prop :=
  ∀ entry ∈ entries, ∀ envelope, wholeEnvelope entry = some envelope → Accounted envelope

theorem EachAccounted.restores (h : EachAccounted entries) : Restores entries := by
  intro envelopes hall k envelope hfind
  obtain ⟨entry, hmem, hwhole⟩ | hold := Registry.find_putAll hfind
  · exact h entry hmem envelope hwhole
  · exact hall k envelope hold

theorem EachAccounted.take (h : EachAccounted entries) (n : ℕ) : EachAccounted (entries.take n) :=
  fun entry hmem ↦ h entry (List.mem_of_mem_take hmem)

theorem EachAccounted.drop (h : EachAccounted entries) (n : ℕ) : EachAccounted (entries.drop n) :=
  fun entry hmem ↦ h entry (List.mem_of_mem_drop hmem)

theorem restores_dispatch {planned : RateEnvelope} {attempt : EnforcementAttempt} {now : U64} :
    Restores ([.envelope .envelopeAuthorized planned, .created attempt,
      .envelope .envelopeStateChange (dispatchingEnvelope planned now)].map
        (Staged.record boot)) := by
  intro envelopes hall k envelope hfind
  have hplanned : wholeEnvelope (Staged.record boot (.envelope .envelopeAuthorized planned)) =
      some (keptEnvelope planned) := wholeEnvelope_record (.inr (.inl rfl))
  have hattempt : wholeEnvelope (Staged.record boot (.created attempt)) = none :=
    wholeEnvelope_record trivial
  have hdispatching : wholeEnvelope (Staged.record boot
      (.envelope .envelopeStateChange (dispatchingEnvelope planned now))) =
      some (keptEnvelope (dispatchingEnvelope planned now)) :=
    wholeEnvelope_record (.inr (.inr (.inl rfl)))
  simp only [List.map_cons, List.map_nil, Registry.putAll_cons, Registry.putAll_nil, hplanned,
    hattempt, hdispatching, Registry.putSome] at hfind
  rw [Registry.find_put] at hfind
  split at hfind
  · cases hfind
    exact accounted_keptEnvelope (accounted_dispatchingEnvelope planned now)
  · next hother =>
    have hother : ¬ planned.id.value = k := hother
    rw [Registry.find_put] at hfind
    exact hall k envelope ((if_neg hother).symm.trans hfind)

/-- What a decision hands to the journal restores accounted envelopes, in whatever transactions it
is written. -/
def Recording {ρ : Type} (engine : Engine) (decision : Decision ρ) : Prop :=
  EachAccounted (contents engine decision) ∨
    decision.chunked = false ∧ Restores (contents engine decision)

theorem recording_of_sectionOf {decision : Section} (hall : AllAccounted s.engine.tables.envelopes)
    (hsection : sectionOf s event = some decision) : Recording s.engine decision := by
  obtain haccounted | ⟨hwhole, planned, attempt, now, hrecords⟩ :=
    accounted_of_sectionOf hall hsection
  · refine .inl fun entry hmem envelope hentry ↦ ?_
    obtain ⟨staged, hstaged, rfl⟩ := List.mem_map.1 hmem
    obtain ⟨type, e, rfl, rfl⟩ := whole_of_stages (stages_of_sectionOf hsection hstaged) hentry
    exact accounted_keptEnvelope (haccounted type e hstaged)
  · refine .inr ⟨hwhole, ?_⟩
    unfold contents
    rw [hrecords]
    exact restores_dispatch

theorem eachAccounted_of_records {records : List Staged}
    (hreplayable : ∀ staged ∈ records, Staged.Replayable staged)
    (h : ∀ type envelope, .envelope type envelope ∈ records → Accounted envelope) :
    EachAccounted (records.map (Staged.record boot)) := by
  intro entry hmem envelope hentry
  obtain ⟨staged, hstaged, rfl⟩ := List.mem_map.1 hmem
  rw [wholeEnvelope_record (hreplayable staged hstaged)] at hentry
  obtain ⟨e, he, rfl⟩ := Option.map_eq_some_iff.1 hentry
  cases staged with
  | envelope type _ =>
    cases he
    exact accounted_keptEnvelope (h type _ hstaged)
  | _ => cases he

theorem eachAccounted_snapshot (hall : AllAccounted tables.envelopes) :
    EachAccounted (buildSnapshotRecords config tables) := by
  intro entry hmem envelope hentry
  obtain ⟨staged, hstaged, rfl⟩ := List.mem_map.1 hmem
  have hlisted := Snapshots.mem_snapshot.1 hstaged
  rw [wholeEnvelope_record (Snapshots.replayable_of_listed hlisted)] at hentry
  obtain ⟨e, he, rfl⟩ := Option.map_eq_some_iff.1 hentry
  cases hlisted with
  | envelope hv =>
    cases he
    exact accounted_keptEnvelope (hall _ _ (Registry.mem_entries.1 hv))
  | _ => cases he

end Restores

section Replaying

/-- The envelopes whose bucket is left as a counters record is read, once one more is replayed. -/
def misread (spoiled : List U64) (entry : JournalRecordType × Bytes) : List U64 :=
  match entry.1 with
  | .envelopeCounters => match decodePayload decodeBucketPayload entry.2 with
    | none => spoiled
    | some patch => patch.id.value :: spoiled
  | _ => match wholeEnvelope entry with
    | none => spoiled
    | some envelope => spoiled.filter (· ≠ envelope.id.value)

/-- The envelopes of a file whose bucket a replay takes from a counters record. -/
def misreadIn (file : Bytes) : List U64 := (recordsIn file).foldl misread []

variable {replay : Replay} {type : JournalRecordType} {payload : Bytes} {spoiled : List U64} {k : U64}

theorem find_patchCounters {patch : BucketPatch} (h : k ≠ patch.id.value) :
    (replay.patchCounters patch).tables.envelopes.find k = replay.tables.envelopes.find k := by
  unfold Replay.patchCounters
  split
  · rfl
  · next envelope hfind =>
    split
    · rfl
    · have hkey := Registry.key_of_find hfind
      exact Registry.find_put_of_ne _ fun heq ↦ h (heq.symm.trans hkey)

theorem envelopes_record (h : type ≠ .envelopeCounters) :
    (replay.record config type payload).tables.envelopes =
      replay.tables.envelopes.putSome (wholeEnvelope (type, payload)) := by
  have hretain := retainAttempt_tables config replay.tables
  unfold Replay.record wholeEnvelope
  cases type with
  | envelopeCounters => exact absurd rfl h
  | envelopeOpened | envelopeBindingChange | envelopeAuthorized | envelopeStateChange
  | envelopeEffectRecorded =>
    simp only
    cases decodePayload decodeEnvelope payload <;> rfl
  | attemptCreated | attemptDispatched | attemptAcknowledged | attemptTerminated | attemptVerified
  | attemptCompensating =>
    simp only
    split
    · rfl
    · next attempt _ =>
      obtain ⟨attempts, order, lists, heq, -⟩ := hretain attempt
      simp only [Replay.restoreAttempt, heq]
      rfl
  | _ =>
    simp only
    repeat' split
    all_goals rfl

theorem find_record (hspoiled : k ∉ misread spoiled (type, payload)) :
    (k ∉ spoiled ∧ wholeEnvelope (type, payload) = none ∧
      (replay.record config type payload).tables.envelopes.find k =
        replay.tables.envelopes.find k) ∨
    ∃ envelope, wholeEnvelope (type, payload) = some envelope ∧
      (k ∉ spoiled ∨ envelope.id.value = k) ∧
      (replay.record config type payload).tables.envelopes = replay.tables.envelopes.put envelope := by
  by_cases hcounters : type = .envelopeCounters
  · subst hcounters
    unfold misread at hspoiled
    simp only at hspoiled
    refine .inl ?_
    cases hpatch : decodePayload decodeBucketPayload payload with
    | none =>
      rw [hpatch] at hspoiled
      refine ⟨hspoiled, rfl, ?_⟩
      simp only [Replay.record, hpatch]
      rfl
    | some patch =>
      rw [hpatch] at hspoiled
      obtain ⟨hne, hspoiled⟩ := not_or.1 (mt List.mem_cons.2 hspoiled)
      refine ⟨hspoiled, rfl, ?_⟩
      simp only [Replay.record, hpatch]
      exact find_patchCounters hne
  · have hmisread : misread spoiled (type, payload) = match wholeEnvelope (type, payload) with
        | none => spoiled
        | some envelope => spoiled.filter (· ≠ envelope.id.value) := by
      unfold misread
      cases type with
      | envelopeCounters => exact absurd rfl hcounters
      | _ => rfl
    rw [hmisread] at hspoiled
    rw [envelopes_record hcounters]
    cases hwhole : wholeEnvelope (type, payload) with
    | none =>
      rw [hwhole] at hspoiled
      exact .inl ⟨hspoiled, rfl, rfl⟩
    | some envelope =>
      rw [hwhole] at hspoiled
      refine .inr ⟨envelope, rfl, ?_, rfl⟩
      by_cases hmem : k ∈ spoiled
      · refine .inr ?_
        by_contra hne
        exact hspoiled (List.mem_filter.2 ⟨hmem, decide_eq_true fun heq ↦ hne heq.symm⟩)
      · exact .inl hmem

/-- Where no counters record is left standing, a replay leaves the envelopes as the records hold
them whole. -/
theorem find_replayed (hspoiled : k ∉ entries.foldl misread []) :
    (replayed config replay entries).tables.envelopes.find k =
      (replay.tables.envelopes.putAll wholeEnvelope entries).find k := by
  induction entries using List.reverseRecOn with
  | nil => rfl
  | append_singleton entries entry ih =>
    rw [List.foldl_append, List.foldl_cons, List.foldl_nil] at hspoiled
    have hput : replay.tables.envelopes.putAll wholeEnvelope (entries ++ [entry]) =
        (replay.tables.envelopes.putAll wholeEnvelope entries).putSome (wholeEnvelope entry) := by
      unfold Registry.putAll
      rw [List.foldl_append]
      rfl
    rw [replayed_append, hput]
    obtain ⟨hkept, hwhole, hfind⟩ | ⟨envelope, hwhole, hkept, hfind⟩ :=
      @find_record config (replayed config replay entries) entry.1 entry.2 _ k hspoiled
    · rw [hwhole]
      exact hfind.trans (ih hkept)
    · rw [hwhole]
      refine (congrArg (·.find k) hfind).trans ?_
      simp only [Registry.putSome, Registry.find_put]
      obtain hkept | hself := hkept
      · rw [ih hkept]
      · rw [if_pos hself, if_pos hself]

theorem accounted_replayed (hrestores : Restores entries) (hspoiled : entries.foldl misread [] = [])
    (hall : AllAccounted replay.tables.envelopes) :
    AllAccounted (replayed config replay entries).tables.envelopes := by
  intro k envelope hfind
  rw [find_replayed (by rw [hspoiled]; exact List.not_mem_nil)] at hfind
  exact hrestores _ hall k envelope hfind

end Replaying

end RateGovernor.Dynamics.Restoring
