import Mathlib.Data.List.Induction
import RateGovernor.Dynamics.Filing
import RateGovernor.Dynamics.Records

namespace RateGovernor.Dynamics.Snapshots

open Model.CheckedMath Model.Identity Model.Reason Model.Entities Model.Envelope Model.RecordCodec
open Model.EnvelopeCodec Model.Journal Model.EngineState Model.Durability Foundation.ByteCodec
open Foundation.KeyedTable Install Issue Retention Filing Records

section Sizes

theorem putText_length_le (text : Text) : (putText text).length ≤ 4100 := by
  unfold putText
  simp only [List.flatten_cons, List.flatten_nil, List.append_nil, List.length_append, putU32_length]
  split
  · rw [List.length_take]
    simp only [kRecordTextHardLimit]
    omega
  · next h =>
    simp only [kRecordTextHardLimit] at h
    omega

theorem flatten_length_cons (part : Bytes) (parts : List Bytes) :
    (part :: parts).flatten.length = part.length + parts.flatten.length := by
  rw [List.flatten_cons, List.length_append]

theorem flatten_length_nil : ([] : List Bytes).flatten.length = 0 := rfl

theorem encodeProvenance_length_le (provenance : Provenance) :
    (encodeProvenance provenance).length ≤ 4132 := by
  have htext := putText_length_le provenance.detail
  simp only [encodeProvenance, flatten_length_cons, flatten_length_nil, putEnum_length,
    putU8_length, putU16_length, putU32_length, putU64_length, Nat.add_zero]
  simp only [← Nat.add_assoc, Nat.reduceAdd]
  omega

theorem encodeFingerprint_length (fingerprint : PlanFingerprint) :
    (encodeFingerprint fingerprint).length = 280 := by
  simp only [encodeFingerprint, flatten_length_cons, flatten_length_nil, putBool_length,
    putU8_length, putU16_length, putU32_length, putU64_length, Nat.reduceAdd]

theorem encodePlan_length_le (plan : EffectivePlan) : (encodePlan plan).length ≤ 4500 := by
  have htext := putText_length_le plan.explanation
  simp only [encodePlan, flatten_length_cons, flatten_length_nil, encodeFingerprint_length,
    putEnum_length, putBool_length, putU8_length, putU16_length, putU32_length, putU64_length,
    Nat.add_zero]
  simp only [← Nat.add_assoc, Nat.reduceAdd]
  omega

theorem encodeEnvelope_length_le (envelope : RateEnvelope) :
    (encodeEnvelope envelope).length ≤ 16384 := by
  have htext := putText_length_le envelope.annotation
  have hplan : (if envelope.hasPlan then encodePlan envelope.plan else []).length ≤ 4500 := by
    split
    · exact encodePlan_length_le envelope.plan
    · exact Nat.zero_le _
  simp only [encodeEnvelope, encodeBucket, flatten_length_cons, flatten_length_nil, putEnum_length,
    putReason_length, putBool_length, putU8_length, putU16_length, putU32_length, putU64_length,
    Nat.add_zero]
  simp only [← Nat.add_assoc, Nat.reduceAdd]
  omega

theorem encodeAttempt_length_le (attempt : EnforcementAttempt) :
    (encodeAttempt attempt).length ≤ 16384 := by
  have htext := putText_length_le attempt.detail
  simp only [encodeAttempt, flatten_length_cons, flatten_length_nil, encodeFingerprint_length,
    putEnum_length, putReason_length, putBool_length, putU32_length, putU64_length, Nat.add_zero]
  simp only [← Nat.add_assoc, Nat.reduceAdd]
  omega

theorem length_record_le (boot : WorkerBootId) (staged : Staged) :
    (staged.record boot).2.length ≤ 16384 := by
  cases staged with
  | flow flow =>
    have hprovenance := encodeProvenance_length_le flow.provenance
    simp only [Staged.record, encodeFlow, flatten_length_cons, flatten_length_nil, putEnum_length,
      putU8_length, putU16_length, putU32_length, putU64_length, Nat.add_zero]
    simp only [← Nat.add_assoc, Nat.reduceAdd]
    omega
  | grant type grant =>
    have hprovenance := encodeProvenance_length_le grant.provenance
    simp only [Staged.record, encodeGrant, encodeWindow, flatten_length_cons, flatten_length_nil,
      putEnum_length, putU8_length, putU16_length, putU32_length, putU64_length, Nat.add_zero]
    simp only [← Nat.add_assoc, Nat.reduceAdd]
    omega
  | reservation type reservation =>
    have hprovenance := encodeProvenance_length_le reservation.provenance
    simp only [Staged.record, encodeReservation, encodeWindow, flatten_length_cons,
      flatten_length_nil, putEnum_length, putU8_length, putU16_length, putU32_length,
      putU64_length, Nat.add_zero]
    simp only [← Nat.add_assoc, Nat.reduceAdd]
    omega
  | policy type policy =>
    have hprovenance := encodeProvenance_length_le policy.provenance
    simp only [Staged.record, encodePolicy, encodeWindow, flatten_length_cons, flatten_length_nil,
      putEnum_length, putU8_length, putU16_length, putU32_length, putU64_length, Nat.add_zero]
    simp only [← Nat.add_assoc, Nat.reduceAdd]
    omega
  | resource type resource =>
    have hprovenance := encodeProvenance_length_le resource.provenance
    simp only [Staged.record, encodeResource, flatten_length_cons, flatten_length_nil,
      putEnum_length, putU8_length, putU16_length, putU32_length, putU64_length, Nat.add_zero]
    simp only [← Nat.add_assoc, Nat.reduceAdd]
    omega
  | backend backend =>
    have hprovenance := encodeProvenance_length_le backend.provenance
    have hlabel := putText_length_le backend.label
    simp only [Staged.record, encodeBackend, flatten_length_cons, flatten_length_nil,
      putEnum_length, putU16_length, putU32_length, putU64_length, Nat.add_zero]
    simp only [← Nat.add_assoc, Nat.reduceAdd]
    omega
  | epoch epoch reason =>
    simp only [Staged.record, encodeEpochPayload, flatten_length_cons, flatten_length_nil,
      putReason_length, putU16_length, putU32_length, putU64_length, Nat.add_zero]
    omega
  | envelope type envelope => exact encodeEnvelope_length_le envelope
  | created attempt => exact encodeAttempt_length_le attempt
  | attempt type attempt => exact encodeAttempt_length_le attempt

theorem record_length_le (boot : WorkerBootId) (staged : Staged) :
    (staged.record boot).2.length ≤ kScanPayloadBound :=
  Nat.le_trans (length_record_le boot staged) (Nat.le_of_ble_eq_true rfl)

end Sizes

section Registries

variable {config : EngineConfig}

def restoreAll (config : EngineConfig) (replay : Replay) (records : List Staged) : Replay :=
  records.foldl (Replay.restore config) replay

theorem restoreAll_append (replay : Replay) (records rest : List Staged) :
    restoreAll config replay (records ++ rest) =
      restoreAll config (restoreAll config replay records) rest :=
  List.foldl_append

theorem restoreAll_registries (replay : Replay) (records : List Staged) :
    (restoreAll config replay records).tables.flows = replay.tables.flows.putAll flow? records ∧
    (restoreAll config replay records).tables.grants = replay.tables.grants.putAll grant? records ∧
    (restoreAll config replay records).tables.reservations =
      replay.tables.reservations.putAll reservation? records ∧
    (restoreAll config replay records).tables.policies =
      replay.tables.policies.putAll policy? records ∧
    (restoreAll config replay records).tables.resources =
      replay.tables.resources.putAll resource? records ∧
    (restoreAll config replay records).tables.backends =
      replay.tables.backends.putAll backend? records ∧
    (restoreAll config replay records).tables.envelopes =
      replay.tables.envelopes.putAll envelope? records ∧
    (restoreAll config replay records).orphans = replay.orphans := by
  induction records generalizing replay with
  | nil => exact ⟨rfl, rfl, rfl, rfl, rfl, rfl, rfl, rfl⟩
  | cons record records ih =>
    have h := ih (Replay.restore config replay record)
    cases record with
    | created attempt =>
      obtain ⟨attempts, order, lists, heq, -⟩ := retainAttempt_tables config replay.tables attempt
      simp only [Replay.restore, Replay.restoreAttempt, heq] at h
      simp only [restoreAll, List.foldl_cons, Replay.restore, Replay.restoreAttempt, heq]
      exact h
    | attempt type attempt =>
      obtain ⟨attempts, order, lists, heq, -⟩ := retainAttempt_tables config replay.tables attempt
      simp only [Replay.restore, Replay.restoreAttempt, heq] at h
      simp only [restoreAll, List.foldl_cons, Replay.restore, Replay.restoreAttempt, heq]
      exact h
    | epoch epoch reason =>
      simp only [Replay.restore] at h
      simp only [restoreAll, List.foldl_cons, Replay.restore]
      split
      · next hnewer =>
        rw [if_pos hnewer] at h
        exact h
      · next hnewer =>
        rw [if_neg hnewer] at h
        exact h
    | _ => exact h

end Registries

section Identities

def raised (next id : U64) : U64 := if next ≤ id then id + 1 else next

theorem raised_toNat {next id : U64} {bound : ℕ} (hbound : bound + 1 < 2 ^ 64)
    (hid : id.toNat ≤ bound) (hnext : next.toNat ≤ bound + 1) :
    (raised next id).toNat ≤ bound + 1 ∧ next.toNat ≤ (raised next id).toNat ∧
      id.toNat < (raised next id).toNat := by
  unfold raised
  split
  · next hle =>
    have hsucc : (id + 1).toNat = id.toNat + 1 := by
      rw [UInt64.toNat_add]
      simp only [UInt64.reduceToNat]
      omega
    rw [UInt64.le_iff_toNat_le] at hle
    omega
  · next hlt =>
    rw [UInt64.le_iff_toNat_le] at hlt
    omega

/-- The counter ends beyond every identity replayed, if it does not overflow. -/
theorem raised_foldl {ids : List U64} {next : U64} {bound : ℕ} (hbound : bound + 1 < 2 ^ 64)
    (hids : ∀ id ∈ ids, id.toNat ≤ bound) (hnext : next.toNat ≤ bound + 1) :
    (ids.foldl raised next).toNat ≤ bound + 1 ∧ next.toNat ≤ (ids.foldl raised next).toNat ∧
      ∀ id ∈ ids, id.toNat < (ids.foldl raised next).toNat := by
  induction ids generalizing next with
  | nil => exact ⟨hnext, Nat.le_refl _, nofun⟩
  | cons id ids ih =>
    obtain ⟨hbelow, hmono, hlt⟩ := raised_toNat hbound (hids id List.mem_cons_self) hnext
    obtain ⟨hend, hstart, hall⟩ := ih (fun other hmem ↦ hids other (List.mem_cons_of_mem _ hmem))
      hbelow
    refine ⟨hend, Nat.le_trans hmono hstart, fun other hmem ↦ ?_⟩
    obtain rfl | hmem := List.mem_cons.1 hmem
    · exact Nat.lt_of_lt_of_le hlt hstart
    · exact hall other hmem

theorem restoreAll_ids (config : EngineConfig) (replay : Replay) (records : List Staged) :
    (restoreAll config replay records).nextEnvelopeId =
      ((records.filterMap envelope?).map (·.id.value)).foldl raised replay.nextEnvelopeId ∧
    (restoreAll config replay records).nextAttemptId =
      ((records.filterMap attempt?).map (·.id.value)).foldl raised replay.nextAttemptId := by
  induction records generalizing replay with
  | nil => exact ⟨rfl, rfl⟩
  | cons record records ih =>
    have h := ih (Replay.restore config replay record)
    cases record with
    | epoch epoch reason =>
      simp only [Replay.restore] at h
      simp only [restoreAll, List.foldl_cons, Replay.restore]
      split
      · next hnewer =>
        rw [if_pos hnewer] at h
        exact h
      · next hnewer =>
        rw [if_neg hnewer] at h
        exact h
    | _ => exact h

end Identities

section Attempts

variable {config : EngineConfig} {tables : Tables} {attempt : EnforcementAttempt}

theorem retainAttempt_unlisted
    (hunlisted : attempt.id.value ∉ tables.attemptList attempt.envelope)
    (hfew : (tables.attemptList attempt.envelope).length < config.maxAttemptsPerEnvelope.toNat)
    (hroom : tables.attemptOrder.length <
      (config.maxEnvelopes * config.maxAttemptsPerEnvelope).toNat) :
    tables.retainAttempt config attempt = { tables with
      attempts := tables.attempts.put attempt
      attemptOrder := tables.attemptOrder ++ [attempt.id.value]
      attemptsByEnvelope := tables.attemptsByEnvelope.insert attempt.envelope.value
        (tables.attemptList attempt.envelope ++ [attempt.id.value]) } := by
  unfold Tables.retainAttempt
  simp only [enlisted_of_unlisted hunlisted, enlist_of_unlisted hunlisted]
  rw [evictTerminal_of_le (by rw [List.length_append]; exact hfew)]
  exact evictOldest_of_le (by rw [List.length_append]; exact hroom)

/-- The attempts of a list, replayed one after the other into tables without any. -/
structure Refilled (tables : Tables) (attempts : List EnforcementAttempt) : Prop where
  stored : tables.attempts = Registry.empty.putAll some attempts
  order : tables.attemptOrder = attempts.map (·.id.value)
  lists : ∀ e, tables.attemptList e =
    (attempts.filter fun a ↦ a.envelope = e).map (·.id.value)

theorem refilled_step {attempts : List EnforcementAttempt} (h : Refilled tables attempts)
    (hfresh : attempt.id.value ∉ attempts.map (·.id.value))
    (hfew : (attempts.filter fun a ↦ a.envelope = attempt.envelope).length <
      config.maxAttemptsPerEnvelope.toNat)
    (hroom : attempts.length < (config.maxEnvelopes * config.maxAttemptsPerEnvelope).toNat) :
    Refilled (tables.retainAttempt config attempt) (attempts ++ [attempt]) := by
  have hunlisted : attempt.id.value ∉ tables.attemptList attempt.envelope := by
    rw [h.lists]
    intro hmem
    obtain ⟨a, ha, hid⟩ := List.mem_map.1 hmem
    exact hfresh (List.mem_map.2 ⟨a, List.mem_of_mem_filter ha, hid⟩)
  rw [retainAttempt_unlisted hunlisted (by rw [h.lists, List.length_map]; exact hfew)
    (by rw [h.order, List.length_map]; exact hroom)]
  refine ⟨?_, ?_, fun e ↦ ?_⟩
  · simp only [h.stored, Registry.putAll, List.foldl_append]
    rfl
  · simp only [h.order, List.map_append]
    rfl
  · unfold Tables.attemptList
    simp only [getElem?_insert, List.filter_append, List.map_append, List.filter_singleton]
    split
    · next hkey =>
      have hsame : attempt.envelope = e := congrArg StrongId.mk hkey
      simp only [hsame, decide_true, cond_true, List.map_cons, List.map_nil, Option.getD_some]
      exact congrArg (· ++ [attempt.id.value]) (h.lists e)
    · next hkey =>
      have hother : ¬attempt.envelope = e := fun heq ↦ hkey (congrArg StrongId.value heq)
      simp only [hother, decide_false, cond_false, List.map_nil, List.append_nil]
      exact h.lists e

theorem restoreAll_created (replay : Replay) (hempty : Refilled replay.tables [])
    {attempts : List EnforcementAttempt} (hnodup : (attempts.map (·.id.value)).Nodup)
    (hfew : ∀ e, (attempts.filter fun a ↦ a.envelope = e).length ≤
      config.maxAttemptsPerEnvelope.toNat)
    (hroom : attempts.length ≤ (config.maxEnvelopes * config.maxAttemptsPerEnvelope).toNat) :
    Refilled (restoreAll config replay (attempts.map .created)).tables attempts := by
  induction attempts using List.reverseRecOn with
  | nil => exact hempty
  | append_singleton attempts attempt ih =>
    rw [List.map_append, List.nodup_append] at hnodup
    obtain ⟨hdistinct, -, hapart⟩ := hnodup
    rw [List.length_append] at hroom
    have hwithin (e : RateEnvelopeId) : (attempts.filter fun a ↦ a.envelope = e).length ≤
        config.maxAttemptsPerEnvelope.toNat := by
      have h := hfew e
      rw [List.filter_append, List.length_append] at h
      omega
    have hfresh : attempt.id.value ∉ attempts.map (·.id.value) :=
      fun hmem ↦ hapart _ hmem _ (List.mem_singleton.2 rfl) rfl
    have hbelow : (attempts.filter fun a ↦ a.envelope = attempt.envelope).length <
        config.maxAttemptsPerEnvelope.toNat := by
      have h := hfew attempt.envelope
      simp only [List.filter_append, List.length_append, List.filter_singleton, decide_true,
        cond_true, List.length_singleton] at h
      omega
    rw [List.length_singleton] at hroom
    rw [List.map_append, restoreAll_append]
    exact refilled_step (ih hdistinct hwithin (by omega)) hfresh hbelow hroom

end Attempts

section Contents

variable {config : EngineConfig} {tables : Tables}

def authorities (tables : Tables) : List Staged :=
  tables.flows.entries.map .flow ++
  tables.grants.entries.map (.grant .grantPut) ++
  tables.reservations.entries.map (.reservation .reservationPut) ++
  tables.policies.entries.map (.policy .policyPut) ++
  tables.resources.entries.map (.resource .resourcePut) ++
  tables.backends.entries.map .backend

theorem snapshot_eq (tables : Tables) : Tables.snapshot tables =
    authorities tables ++ ([.epoch tables.epoch .none] ++
      (tables.envelopes.entries.map (.envelope .envelopeOpened) ++
        tables.attempts.entries.map .created)) := by
  simp only [Tables.snapshot, authorities, List.append_assoc]

inductive Listed (tables : Tables) : Staged → Prop
  | flow {v : Flow} (stored : v ∈ tables.flows.entries) : Listed tables (.flow v)
  | grant {v : Grant} (stored : v ∈ tables.grants.entries) : Listed tables (.grant .grantPut v)
  | reservation {v : Reservation} (stored : v ∈ tables.reservations.entries) :
      Listed tables (.reservation .reservationPut v)
  | policy {v : Policy} (stored : v ∈ tables.policies.entries) :
      Listed tables (.policy .policyPut v)
  | resource {v : Resource} (stored : v ∈ tables.resources.entries) :
      Listed tables (.resource .resourcePut v)
  | backend {v : BackendDescriptor} (stored : v ∈ tables.backends.entries) :
      Listed tables (.backend v)
  | epoch : Listed tables (.epoch tables.epoch .none)
  | envelope {v : RateEnvelope} (stored : v ∈ tables.envelopes.entries) :
      Listed tables (.envelope .envelopeOpened v)
  | attempt {v : EnforcementAttempt} (stored : v ∈ tables.attempts.entries) :
      Listed tables (.created v)

theorem mem_snapshot {staged : Staged} :
    staged ∈ Tables.snapshot tables ↔ Listed tables staged := by
  simp only [Tables.snapshot, List.mem_append, List.mem_map, List.mem_singleton]
  constructor
  · rintro ((((((((⟨v, hv, rfl⟩ | ⟨v, hv, rfl⟩) | ⟨v, hv, rfl⟩) | ⟨v, hv, rfl⟩) | ⟨v, hv, rfl⟩) |
      ⟨v, hv, rfl⟩) | rfl) | ⟨v, hv, rfl⟩) | ⟨v, hv, rfl⟩)
    · exact .flow hv
    · exact .grant hv
    · exact .reservation hv
    · exact .policy hv
    · exact .resource hv
    · exact .backend hv
    · exact .epoch
    · exact .envelope hv
    · exact .attempt hv
  · intro h
    cases h with
    | flow hv =>
      exact .inl (.inl (.inl (.inl (.inl (.inl (.inl (.inl ⟨_, hv, rfl⟩)))))))
    | grant hv =>
      exact .inl (.inl (.inl (.inl (.inl (.inl (.inl (.inr ⟨_, hv, rfl⟩)))))))
    | reservation hv =>
      exact .inl (.inl (.inl (.inl (.inl (.inl (.inr ⟨_, hv, rfl⟩))))))
    | policy hv => exact .inl (.inl (.inl (.inl (.inl (.inr ⟨_, hv, rfl⟩)))))
    | resource hv => exact .inl (.inl (.inl (.inl (.inr ⟨_, hv, rfl⟩))))
    | backend hv => exact .inl (.inl (.inl (.inr ⟨_, hv, rfl⟩)))
    | epoch => exact .inl (.inl (.inr rfl))
    | envelope hv => exact .inl (.inr ⟨_, hv, rfl⟩)
    | attempt hv => exact .inr ⟨_, hv, rfl⟩

theorem replayable_of_listed {staged : Staged} (h : Listed tables staged) :
    Staged.Replayable staged := by
  cases h with
  | flow | backend | epoch | attempt => trivial
  | grant | reservation | policy | resource | envelope => exact .inl rfl

/-- The engine's tables, and counters beyond what they hold. -/
structure Rebuilt (config : EngineConfig) (tables : Tables) (replay : Replay) : Prop where
  flows : replay.tables.flows = tables.flows
  grants : replay.tables.grants = tables.grants
  reservations : replay.tables.reservations = tables.reservations
  policies : replay.tables.policies = tables.policies
  resources : replay.tables.resources = tables.resources
  backends : replay.tables.backends = tables.backends
  epoch : replay.tables.epoch = tables.epoch
  envelopes : replay.tables.envelopes = tables.envelopes
  attempts : replay.tables.attempts = tables.attempts
  orphans : replay.orphans = 0
  envelopeIds : Ahead config replay.tables replay.nextEnvelopeId
  attemptIds : ∀ k a, tables.attempts.find k = some a → k < replay.nextAttemptId

/-- What the engine keeps to in its tables, so that a snapshot holds all there is to them. -/
structure Snapshotable (config : EngineConfig) (tables : Tables) : Prop where
  shelved : Shelved config tables
  epoch : (Replay.fresh config).tables.epoch.value ≤ tables.epoch.value
  numbered : ∀ k e, tables.envelopes.find k = some e → k.toNat ≤ tables.envelopes.size
  serial : ∀ k a, tables.attempts.find k = some a → k ≠ 0xFFFFFFFFFFFFFFFF
  planless : ∀ k e, tables.envelopes.find k = some e → Planless e

theorem epoch_restoreAll (replay : Replay) {records : List Staged}
    (h : ∀ record ∈ records, ∀ epoch reason, record ≠ .epoch epoch reason) :
    (restoreAll config replay records).tables.epoch = replay.tables.epoch := by
  induction records generalizing replay with
  | nil => rfl
  | cons record records ih =>
    have hrest := ih (Replay.restore config replay record)
      fun other hmem ↦ h other (List.mem_cons_of_mem _ hmem)
    refine hrest.trans ?_
    cases record with
    | epoch epoch reason => exact absurd rfl (h _ List.mem_cons_self epoch reason)
    | created attempt =>
      obtain ⟨attempts, order, lists, heq, -⟩ := retainAttempt_tables config replay.tables attempt
      simp only [Replay.restore, Replay.restoreAttempt, heq]
    | attempt type attempt =>
      obtain ⟨attempts, order, lists, heq, -⟩ := retainAttempt_tables config replay.tables attempt
      simp only [Replay.restore, Replay.restoreAttempt, heq]
    | _ => rfl

theorem refilled_restoreAll {replay : Replay} {records : List Staged}
    {attempts : List EnforcementAttempt} (h : ∀ record ∈ records, attempt? record = none)
    (hrefilled : Refilled replay.tables attempts) :
    Refilled (restoreAll config replay records).tables attempts := by
  induction records generalizing replay with
  | nil => exact hrefilled
  | cons record records ih =>
    refine ih (fun other hmem ↦ h other (List.mem_cons_of_mem _ hmem)) ?_
    have hnone := h record List.mem_cons_self
    cases record with
    | created attempt => cases hnone
    | attempt type attempt => cases hnone
    | epoch epoch reason =>
      simp only [Replay.restore]
      split <;> exact ⟨hrefilled.stored, hrefilled.order, hrefilled.lists⟩
    | _ => exact ⟨hrefilled.stored, hrefilled.order, hrefilled.lists⟩

theorem not_epoch_of_authorities {record : Staged} (h : record ∈ authorities tables) :
    attempt? record = none ∧ ∀ epoch reason, record ≠ .epoch epoch reason := by
  simp only [authorities, List.mem_append, List.mem_map] at h
  obtain ((((⟨v, -, rfl⟩ | ⟨v, -, rfl⟩) | ⟨v, -, rfl⟩) | ⟨v, -, rfl⟩) | ⟨v, -, rfl⟩) | ⟨v, -, rfl⟩ :=
    h <;> exact ⟨rfl, nofun⟩

theorem epoch_snapshot (h : Snapshotable config tables) :
    (restoreAll config (Replay.fresh config) (Tables.snapshot tables)).tables.epoch =
      tables.epoch := by
  rw [snapshot_eq, restoreAll_append, restoreAll_append]
  generalize hbase : restoreAll config (Replay.fresh config) (authorities tables) = base
  have hstart : base.tables.epoch = (Replay.fresh config).tables.epoch := by
    rw [← hbase]
    exact epoch_restoreAll _ fun record hmem ↦ (not_epoch_of_authorities hmem).2
  refine (epoch_restoreAll _ fun record hmem ↦ ?_).trans ?_
  · obtain hmem | hmem := List.mem_append.1 hmem
    · obtain ⟨v, -, rfl⟩ := List.mem_map.1 hmem
      exact nofun
    · obtain ⟨v, -, rfl⟩ := List.mem_map.1 hmem
      exact nofun
  · have hle := h.epoch
    rw [← hstart] at hle
    simp only [restoreAll, List.foldl_cons, List.foldl_nil, Replay.restore]
    split
    · rfl
    · next hnewer =>
      have hsame : base.tables.epoch.value = tables.epoch.value := by
        simp only [StrongId.valid, Bool.and_eq_true, decide_eq_true_eq, not_and, UInt64.not_lt,
          ne_eq] at hnewer
        by_cases hzero : tables.epoch.value = 0
        · rw [hzero] at hle ⊢
          exact UInt64.le_antisymm hle (UInt64.zero_le)
        · exact UInt64.le_antisymm hle (hnewer hzero)
      exact congrArg StrongId.mk hsame

theorem refilled_fresh (config : EngineConfig) : Refilled (Replay.fresh config).tables [] :=
  ⟨rfl, rfl, fun _ ↦ rfl⟩

theorem stored_of_entry {a : EnforcementAttempt} (hmem : a ∈ tables.attempts.entries) :
    tables.attempts.find a.id.value = some a := Registry.mem_entries.1 hmem

theorem entries_length_le (h : Shelved config tables) : tables.attempts.entries.length ≤
    (config.maxEnvelopes * config.maxAttemptsPerEnvelope).toNat := by
  have hsub : tables.attempts.entries.map (·.id.value) ⊆ tables.attemptOrder := by
    intro k hk
    obtain ⟨a, ha, rfl⟩ := List.mem_map.1 hk
    exact h.ordered _ a (stored_of_entry ha)
  have hlength := (List.subperm_of_subset tables.attempts.nodup_entries hsub).length_le
  rw [List.length_map] at hlength
  exact Nat.le_trans hlength h.room

theorem entries_filter_le (h : Shelved config tables) (e : RateEnvelopeId) :
    (tables.attempts.entries.filter fun a ↦ a.envelope = e).length ≤
      config.maxAttemptsPerEnvelope.toNat := by
  have hkeys := h.few e
    ((tables.attempts.entries.filter fun a ↦ a.envelope = e).map (·.id.value))
    (tables.attempts.nodup_entries.sublist (List.filter_sublist.map _)) (by
      intro k hk
      obtain ⟨a, ha, rfl⟩ := List.mem_map.1 hk
      obtain ⟨hmem, henvelope⟩ := List.mem_filter.1 ha
      exact ⟨a, stored_of_entry hmem, of_decide_eq_true henvelope⟩)
  rwa [List.length_map] at hkeys

/-- Nothing of the attempts is forgotten when they are replayed in the order of the snapshot. -/
theorem refilled_snapshot (h : Snapshotable config tables) :
    Refilled (restoreAll config (Replay.fresh config) (Tables.snapshot tables)).tables
      tables.attempts.entries := by
  rw [snapshot_eq, ← List.append_assoc, ← List.append_assoc, restoreAll_append]
  refine restoreAll_created _ (refilled_restoreAll ?_ (refilled_fresh config))
    tables.attempts.nodup_entries (entries_filter_le h.shelved) (entries_length_le h.shelved)
  intro record hmem
  rw [List.append_assoc, List.mem_append, List.mem_append, List.mem_singleton] at hmem
  obtain hmem | rfl | hmem := hmem
  · exact (not_epoch_of_authorities hmem).1
  · rfl
  · obtain ⟨v, -, rfl⟩ := List.mem_map.1 hmem
    rfl

theorem attempts_snapshot (h : Snapshotable config tables) :
    (restoreAll config (Replay.fresh config) (Tables.snapshot tables)).tables.attempts =
      tables.attempts := by
  refine (refilled_snapshot h).stored.trans ?_
  refine Registry.putAll_entries _ (fun a ha v hv ↦ ?_) fun v hv ↦ ⟨v, hv, rfl⟩
  cases hv
  exact ha

theorem indexed_snapshot (h : Snapshotable config tables) :
    Indexed config (restoreAll config (Replay.fresh config) (Tables.snapshot tables)).tables := by
  have hattempts := attempts_snapshot h
  have hrefilled := refilled_snapshot h
  have hnodup := tables.attempts.nodup_entries
  refine ⟨fun k a hfind ↦ ?_, fun e k hk ↦ ?_, fun e ↦ ?_, fun e ↦ ?_, ?_, fun k ↦ ?_, ?_⟩
  · rw [hattempts] at hfind
    rw [hrefilled.lists, List.mem_map]
    have hkey := Registry.key_of_find hfind
    exact ⟨a, List.mem_filter.2 ⟨Registry.mem_entries_of_find hfind, decide_eq_true rfl⟩, hkey⟩
  · rw [hrefilled.lists, List.mem_map] at hk
    obtain ⟨a, ha, rfl⟩ := hk
    obtain ⟨hmem, henvelope⟩ := List.mem_filter.1 ha
    exact ⟨a, hattempts ▸ stored_of_entry hmem, of_decide_eq_true henvelope⟩
  · rw [hrefilled.lists]
    exact hnodup.sublist (List.filter_sublist.map _)
  · rw [hrefilled.lists, List.length_map]
    exact entries_filter_le h.shelved e
  · rw [hrefilled.order]
    exact hnodup
  · rw [hrefilled.order, hattempts, List.mem_map]
    constructor
    · rintro ⟨a, ha, rfl⟩
      exact ⟨a, stored_of_entry ha⟩
    · rintro ⟨a, hfind⟩
      have hkey := Registry.key_of_find hfind
      exact ⟨a, Registry.mem_entries_of_find hfind, hkey⟩
  · rw [hrefilled.order, List.length_map]
    exact entries_length_le h.shelved

theorem mem_envelopeIds {k : U64} :
    k ∈ ((Tables.snapshot tables).filterMap envelope?).map (·.id.value) ↔
      ∃ e, tables.envelopes.find k = some e := by
  constructor
  · intro hk
    obtain ⟨e, he, rfl⟩ := List.mem_map.1 hk
    obtain ⟨record, hmem, hrecord⟩ := List.mem_filterMap.1 he
    cases mem_snapshot.1 hmem with
    | envelope hv =>
      cases hrecord
      exact ⟨e, Registry.mem_entries.1 hv⟩
    | _ => cases hrecord
  · rintro ⟨e, hfind⟩
    have hkey := Registry.key_of_find hfind
    exact List.mem_map.2 ⟨e, List.mem_filterMap.2
      ⟨_, mem_snapshot.2 (.envelope (Registry.mem_entries_of_find hfind)), rfl⟩, hkey⟩

theorem mem_attemptIds {k : U64} :
    k ∈ ((Tables.snapshot tables).filterMap attempt?).map (·.id.value) ↔
      ∃ a, tables.attempts.find k = some a := by
  constructor
  · intro hk
    obtain ⟨a, ha, rfl⟩ := List.mem_map.1 hk
    obtain ⟨record, hmem, hrecord⟩ := List.mem_filterMap.1 ha
    cases mem_snapshot.1 hmem with
    | attempt hv =>
      cases hrecord
      exact ⟨a, Registry.mem_entries.1 hv⟩
    | _ => cases hrecord
  · rintro ⟨a, hfind⟩
    have hkey := Registry.key_of_find hfind
    exact List.mem_map.2 ⟨a, List.mem_filterMap.2
      ⟨_, mem_snapshot.2 (.attempt (Registry.mem_entries_of_find hfind)), rfl⟩, hkey⟩

theorem envelopeIds_snapshot (h : Snapshotable config tables) :
    Ahead config tables
      (restoreAll config (Replay.fresh config) (Tables.snapshot tables)).nextEnvelopeId := by
  intro hroom
  have hmax := config.maxEnvelopes.toNat_lt
  have hids : ∀ k ∈ ((Tables.snapshot tables).filterMap envelope?).map (·.id.value),
      k.toNat ≤ tables.envelopes.size := by
    intro k hk
    obtain ⟨e, hfind⟩ := mem_envelopeIds.1 hk
    exact h.numbered k e hfind
  have hstart : (Replay.fresh config).nextEnvelopeId.toNat ≤ tables.envelopes.size + 1 :=
    Nat.le_add_left 1 _
  obtain ⟨hend, -, hall⟩ := raised_foldl (by omega) hids hstart
  rw [(restoreAll_ids config (Replay.fresh config) (Tables.snapshot tables)).1]
  exact ⟨fun k e hfind ↦ hall k (mem_envelopeIds.2 ⟨e, hfind⟩), hend⟩

theorem attemptIds_snapshot (h : Snapshotable config tables) {k : U64} {a : EnforcementAttempt}
    (hfind : tables.attempts.find k = some a) :
    k < (restoreAll config (Replay.fresh config) (Tables.snapshot tables)).nextAttemptId := by
  have hids : ∀ k ∈ ((Tables.snapshot tables).filterMap attempt?).map (·.id.value),
      k.toNat ≤ 2 ^ 64 - 2 := by
    intro k hk
    obtain ⟨a, hfind⟩ := mem_attemptIds.1 hk
    have hne := h.serial k a hfind
    have hlt := k.toNat_lt
    have htop : k.toNat ≠ 2 ^ 64 - 1 := fun heq ↦ hne (UInt64.toNat_inj.1 heq)
    omega
  have hstart : (Replay.fresh config).nextAttemptId.toNat ≤ 2 ^ 64 - 2 + 1 := by
    show (1 : U64).toNat ≤ _
    decide
  obtain ⟨-, -, hall⟩ := raised_foldl (by omega) hids hstart
  rw [(restoreAll_ids config (Replay.fresh config) (Tables.snapshot tables)).2]
  exact UInt64.lt_iff_toNat_lt.2 (hall k (mem_attemptIds.2 ⟨a, hfind⟩))

/-- Replaying the objects of a snapshot rebuilds the tables it was taken from. -/
theorem restoreAll_snapshot (h : Snapshotable config tables) :
    Rebuilt config tables
      (restoreAll config (Replay.fresh config) (Tables.snapshot tables)) := by
  obtain ⟨hflows, hgrants, hreservations, hpolicies, hresources, hbackends, henvelopes, horphans⟩ :=
    @restoreAll_registries config (Replay.fresh config) (Tables.snapshot tables)
  have hall : (restoreAll config (Replay.fresh config) (Tables.snapshot tables)).tables.envelopes =
      tables.envelopes := by
    refine henvelopes.trans (Registry.putAll_entries _ (fun record hmem v hv ↦ ?_) fun v hv ↦
      ⟨_, mem_snapshot.2 (.envelope hv), rfl⟩)
    cases mem_snapshot.1 hmem <;> cases hv
    assumption
  refine ⟨hflows.trans (Registry.putAll_entries _ (fun record hmem v hv ↦ ?_) fun v hv ↦
      ⟨_, mem_snapshot.2 (.flow hv), rfl⟩),
    hgrants.trans (Registry.putAll_entries _ (fun record hmem v hv ↦ ?_) fun v hv ↦
      ⟨_, mem_snapshot.2 (.grant hv), rfl⟩),
    hreservations.trans (Registry.putAll_entries _ (fun record hmem v hv ↦ ?_) fun v hv ↦
      ⟨_, mem_snapshot.2 (.reservation hv), rfl⟩),
    hpolicies.trans (Registry.putAll_entries _ (fun record hmem v hv ↦ ?_) fun v hv ↦
      ⟨_, mem_snapshot.2 (.policy hv), rfl⟩),
    hresources.trans (Registry.putAll_entries _ (fun record hmem v hv ↦ ?_) fun v hv ↦
      ⟨_, mem_snapshot.2 (.resource hv), rfl⟩),
    hbackends.trans (Registry.putAll_entries _ (fun record hmem v hv ↦ ?_) fun v hv ↦
      ⟨_, mem_snapshot.2 (.backend hv), rfl⟩),
    epoch_snapshot h, hall, attempts_snapshot h, horphans, ?_, fun k a ↦ attemptIds_snapshot h⟩
  case refine_7 =>
    unfold Ahead
    rw [hall]
    exact envelopeIds_snapshot h
  all_goals
    cases mem_snapshot.1 hmem <;> cases hv
    assumption

end Contents

end RateGovernor.Dynamics.Snapshots
