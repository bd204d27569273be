import RateGovernor.Dynamics.Compacting
import RateGovernor.Dynamics.Numbering
import RateGovernor.Dynamics.Restoring

namespace RateGovernor.Dynamics.Mirroring

open Model.CheckedMath Model.Identity Model.Entities Model.Envelope Model.RecordCodec
open Model.EnvelopeCodec Model.Journal Model.EngineState Model.Durability Foundation.ByteCodec
open Foundation.KeyedTable Install Issue Retention Records Snapshots Compacting Restoring

def uncounted (envelope : RateEnvelope) : RateEnvelope :=
  { envelope with
    bucket := {}, createdNs := 0, updatedNs := 0, attemptsIssued := 0, completionsApplied := 0
    completionsRejected := 0 }

/-- The type of the last record that writes the envelope, once one more is staged. -/
def typeAfter (k : U64) (last : Option JournalRecordType) : Staged → Option JournalRecordType
  | .envelope type envelope => if envelope.id.value = k then some type else last
  | _ => last

def lastType (k : U64) (records : List Staged) : Option JournalRecordType :=
  records.foldl (typeAfter k) none

def counters : Staged → Bool
  | .envelope .envelopeCounters _ => true
  | _ => false

structure Serials where
  envelope : U64
  attempt : U64

/-- What is journalled is new under the identity that is due, or replaces what it names. -/
inductive Due (tables : Tables) (serials : Serials) : Staged → Serials → Prop
  | flow (flow : Flow) : Due tables serials (.flow flow) serials
  | grant (type : JournalRecordType) (grant : Grant) : Due tables serials (.grant type grant) serials
  | reservation (type : JournalRecordType) (reservation : Reservation) :
      Due tables serials (.reservation type reservation) serials
  | policy (type : JournalRecordType) (policy : Policy) :
      Due tables serials (.policy type policy) serials
  | resource (type : JournalRecordType) (resource : Resource) :
      Due tables serials (.resource type resource) serials
  | backend (backend : BackendDescriptor) : Due tables serials (.backend backend) serials
  | epoch {epoch : FabricEpoch} (reason) (valid : epoch.valid = true)
      (newer : tables.epoch = epoch ∨ tables.epoch.value < epoch.value) :
      Due tables serials (.epoch epoch reason) serials
  | opened {envelope : RateEnvelope} (issued : envelope.id.value = serials.envelope) :
      Due tables serials (.envelope .envelopeOpened envelope)
        { serials with envelope := serials.envelope + 1 }
  | replaced {type : JournalRecordType} {envelope old : RateEnvelope}
      (whole : type ≠ .envelopeCounters)
      (found : tables.envelopes.find envelope.id.value = some old)
      (issued : envelope.id.value < serials.envelope) :
      Due tables serials (.envelope type envelope) serials
  | counted {envelope old : RateEnvelope}
      (found : tables.envelopes.find envelope.id.value = some old)
      (same : uncounted envelope = uncounted old) :
      Due tables serials (.envelope .envelopeCounters envelope) serials
  | created {attempt : EnforcementAttempt} (issued : attempt.id.value = serials.attempt) :
      Due tables serials (.created attempt) { serials with attempt := serials.attempt + 1 }
  | moved {type : JournalRecordType} {attempt old : EnforcementAttempt}
      (found : tables.attempts.find attempt.id.value = some old)
      (same : attempt.envelope = old.envelope) (issued : attempt.id.value < serials.attempt) :
      Due tables serials (.attempt type attempt) serials

/-- A replay of what was staged has rebuilt the tables, but for what it has made of counters
records: these cost nothing but what they patch, in the envelopes that they have written last. -/
structure Mirrored (staged : List Staged) (tables : Tables) (serials : Serials) (replay : Replay) :
    Prop where
  others : replay.tables = { tables with envelopes := replay.tables.envelopes }
  enduring : ∀ k, (replay.tables.envelopes.find k).map uncounted =
    (tables.envelopes.find k).map uncounted
  whole : ∀ k, lastType k staged ≠ some .envelopeCounters →
    replay.tables.envelopes.find k = tables.envelopes.find k
  envelopeSerial : replay.nextEnvelopeId = serials.envelope
  attemptSerial : replay.nextAttemptId = serials.attempt
  orphans : replay.orphans.toNat ≤ staged.countP counters

section Envelopes

variable {config : EngineConfig} {tables : Tables} {attempt : EnforcementAttempt}

theorem evictTerminal_aside (limit : U64) (fuel : ℕ) (tables : Tables) (list : List U64)
    (envelopes : Registry RateEnvelope (·.id.value)) (epoch : FabricEpoch) :
    evictTerminal limit fuel { tables with envelopes, epoch } list =
      ({ (evictTerminal limit fuel tables list).1 with envelopes, epoch },
        (evictTerminal limit fuel tables list).2) := by
  induction fuel generalizing tables list with
  | zero => rfl
  | succ fuel ih =>
    have hterminal : ({ tables with envelopes, epoch } : Tables).terminalAt = tables.terminalAt := rfl
    simp only [evictTerminal, hterminal]
    split
    · rfl
    · cases hfind : list.find? tables.terminalAt with
      | none => simp only
      | some victim =>
        simp only
        exact ih { tables with
          attempts := tables.attempts.remove victim
          attemptOrder := tables.attemptOrder.filter (· ≠ victim) } (list.erase victim)

theorem retainAttempt_aside (config : EngineConfig) (tables : Tables)
    (envelopes : Registry RateEnvelope (·.id.value)) (epoch : FabricEpoch)
    (attempt : EnforcementAttempt) :
    ({ tables with envelopes, epoch } : Tables).retainAttempt config attempt =
      { tables.retainAttempt config attempt with envelopes, epoch } := by
  have hevict := evictTerminal_aside config.maxAttemptsPerEnvelope
    (tables.enlisted attempt).length (tables.enlist attempt) (tables.enlisted attempt) envelopes epoch
  have henlisted : ({ tables with envelopes, epoch } : Tables).enlisted attempt =
      tables.enlisted attempt := rfl
  have henlist : ({ tables with envelopes, epoch } : Tables).enlist attempt =
      { tables.enlist attempt with envelopes, epoch } := rfl
  unfold Tables.retainAttempt
  simp only [henlisted, henlist, hevict]
  rfl

theorem retainAttempt_envelopes (config : EngineConfig) (tables : Tables)
    (envelopes : Registry RateEnvelope (·.id.value)) (attempt : EnforcementAttempt) :
    ({ tables with envelopes } : Tables).retainAttempt config attempt =
      { tables.retainAttempt config attempt with envelopes } := by
  have haside := retainAttempt_aside config tables envelopes tables.epoch attempt
  obtain ⟨attempts, order, lists, hretain, -⟩ := retainAttempt_tables config tables attempt
  rw [hretain] at haside ⊢
  exact haside

theorem retainAttempt_epoch (config : EngineConfig) (tables : Tables) (epoch : FabricEpoch)
    (attempt : EnforcementAttempt) :
    ({ tables with epoch } : Tables).retainAttempt config attempt =
      { tables.retainAttempt config attempt with epoch } := by
  have haside := retainAttempt_aside config tables tables.envelopes epoch attempt
  obtain ⟨attempts, order, lists, hretain, -⟩ := retainAttempt_tables config tables attempt
  rw [hretain] at haside ⊢
  exact haside

theorem indexed_envelopes (h : Indexed config tables)
    (envelopes : Registry RateEnvelope (·.id.value)) : Indexed config { tables with envelopes } :=
  ⟨h.listed, h.stored, h.nodup, h.bounded, h.distinct, h.ordered, h.room⟩

end Envelopes

section Patching

theorem patch_id {envelope : RateEnvelope} {patch : BucketPatch}
    (h : decodePayload decodeBucketPayload (encodeEnvelope envelope) = some patch) :
    patch.id = envelope.id := by
  obtain ⟨⟨value, rest⟩, hread, hvalue⟩ := Option.map_eq_some_iff.1 h
  have hid : Decodes u64 (putU64 envelope.id.value) envelope.id.value := decodes_u64 _
  unfold encodeEnvelope at hread
  rw [List.flatten_cons] at hread
  unfold decodeBucketPayload at hread
  simp only [bind, StateT.bind, hid _, Option.bind_some] at hread
  iterate 7 obtain ⟨_, -, hread⟩ := Option.bind_eq_some_iff.1 hread
  cases hread
  cases hvalue
  rfl

end Patching

section Records

variable {config : EngineConfig} {tables tables' : Tables} {serials serials' : Serials}
  {replay : Replay} {staged : List Staged} {record : Staged} {k : U64}

theorem lastType_append (k : U64) (staged : List Staged) (record : Staged) :
    lastType k (staged ++ [record]) = typeAfter k (lastType k staged) record := List.foldl_append

theorem countP_counters_append (staged : List Staged) (record : Staged) :
    (staged ++ [record]).countP counters = staged.countP counters + [record].countP counters :=
  List.countP_append

theorem Mirrored.aside {attempt orphans : U64} {envelopes : Registry RateEnvelope (·.id.value)}
    (h : Mirrored staged tables serials ⟨{ tables with envelopes }, serials.envelope, attempt, orphans⟩)
    (hnone : envelope? record = none) (henvelopes : tables'.envelopes = tables.envelopes)
    (hserial : serials'.envelope = serials.envelope) :
    Mirrored (staged ++ [record]) tables' serials'
      ⟨{ tables' with envelopes }, serials.envelope, serials'.attempt, orphans⟩ := by
  refine ⟨rfl, fun k ↦ ?_, fun k hlast ↦ ?_, hserial.symm, rfl, ?_⟩
  · rw [henvelopes]
    exact h.enduring k
  · rw [henvelopes]
    refine h.whole k fun hcounters ↦ hlast ?_
    rw [lastType_append, ← hcounters]
    cases record with
    | envelope => cases hnone
    | _ => rfl
  · exact h.orphans.trans (countP_counters_append staged record ▸ Nat.le_add_right _ _)

theorem Mirrored.written {envelopes : Registry RateEnvelope (·.id.value)} {attempt orphans : U64}
    {type : JournalRecordType} {envelope : RateEnvelope}
    (h : Mirrored staged tables serials ⟨{ tables with envelopes }, serials.envelope, attempt, orphans⟩)
    (next : U64) :
    Mirrored (staged ++ [.envelope type envelope])
      { tables with envelopes := tables.envelopes.put envelope } { serials with envelope := next }
      ⟨{ tables with envelopes := envelopes.put envelope }, next, serials.attempt, orphans⟩ := by
  refine ⟨rfl, fun k ↦ ?_, fun k hlast ↦ ?_, rfl, rfl, ?_⟩
  · simp only [Registry.find_put]
    split
    · rfl
    · exact h.enduring k
  · rw [lastType_append] at hlast
    simp only [typeAfter] at hlast
    simp only [Registry.find_put]
    split
    · rfl
    · next hne =>
      rw [if_neg hne] at hlast
      exact h.whole k hlast
  · exact h.orphans.trans (countP_counters_append staged _ ▸ Nat.le_add_right _ _)

theorem Mirrored.counted {envelope old : RateEnvelope} {envelopes : Registry RateEnvelope (·.id.value)}
    {orphans : U64} (h : Mirrored staged tables serials replay)
    (hfound : tables.envelopes.find envelope.id.value = some old)
    (hsame : uncounted envelope = uncounted old)
    (hothers : ∀ k, k ≠ envelope.id.value → envelopes.find k = replay.tables.envelopes.find k)
    (hself : (envelopes.find envelope.id.value).map uncounted =
      (replay.tables.envelopes.find envelope.id.value).map uncounted)
    (horphans : orphans.toNat ≤ replay.orphans.toNat + 1) :
    Mirrored (staged ++ [.envelope .envelopeCounters envelope])
      { tables with envelopes := tables.envelopes.put envelope } serials
      { replay with tables := { replay.tables with envelopes }, orphans } := by
  refine ⟨?_, fun k ↦ ?_, fun k hlast ↦ ?_, h.envelopeSerial, h.attemptSerial, ?_⟩
  · rw [h.others]
  · by_cases hk : k = envelope.id.value
    · subst hk
      rw [Registry.find_put_self, Option.map_some, hsame]
      refine hself.trans ((h.enduring _).trans ?_)
      rw [hfound]
      rfl
    · have hput : (tables.envelopes.put envelope).find k = tables.envelopes.find k :=
        Registry.find_put_of_ne _ fun heq ↦ hk heq.symm
      simp only [hput, hothers k hk]
      exact h.enduring k
  · rw [lastType_append] at hlast
    simp only [typeAfter] at hlast
    split at hlast
    · exact absurd rfl hlast
    · next hne =>
      have hput : (tables.envelopes.put envelope).find k = tables.envelopes.find k :=
        Registry.find_put_of_ne _ hne
      simp only [hput, hothers k fun heq ↦ hne heq.symm]
      exact h.whole k hlast
  · rw [countP_counters_append]
    exact horphans.trans (Nat.add_le_add_right h.orphans 1)

theorem succ_toNat_le (n : U64) : (n + 1).toNat ≤ n.toNat + 1 := by
  rw [UInt64.toNat_add]
  exact Nat.mod_le _ _

theorem Mirrored.patched {envelope old : RateEnvelope} (h : Mirrored staged tables serials replay)
    (hfound : tables.envelopes.find envelope.id.value = some old)
    (hsame : uncounted envelope = uncounted old) :
    Mirrored (staged ++ [.envelope .envelopeCounters envelope])
      { tables with envelopes := tables.envelopes.put envelope } serials
      (replay.record config .envelopeCounters (encodeEnvelope envelope)) := by
  have horphan : Mirrored (staged ++ [.envelope .envelopeCounters envelope])
      { tables with envelopes := tables.envelopes.put envelope } serials replay.orphan :=
    h.counted hfound hsame (fun _ _ ↦ rfl) rfl (succ_toNat_le _)
  simp only [Replay.record]
  cases hpatch : decodePayload decodeBucketPayload (encodeEnvelope envelope) with
  | none => exact horphan
  | some patch =>
    have hid : patch.id.value = envelope.id.value := by rw [patch_id hpatch]
    simp only [Replay.patchCounters]
    cases hstored : replay.tables.envelopes.find patch.id.value with
    | none => exact horphan
    | some stored =>
      simp only
      split
      · exact horphan
      · have hkey : stored.id.value = envelope.id.value := (Registry.key_of_find hstored).trans hid
        refine h.counted hfound hsame (fun k hk ↦ ?_) ?_ (Nat.le_succ _)
        · exact Registry.find_put_of_ne _ fun heq ↦ hk (heq.symm.trans hkey)
        · rw [hid] at hstored
          rw [hstored, Registry.find_put, if_pos hkey]
          rfl

/-- Replaying what was journalled of a record does what installing it has done. -/
theorem Mirrored.replay_record (h : Mirrored staged tables serials replay)
    (hindexed : Indexed config tables)
    (hdue : Due tables serials record serials')
    (hreplayable : Staged.Replayable record ∨
      ∃ envelope, record = .envelope .envelopeCounters envelope)
    (htexts : Staged.TextsFit record)
    (hplanless : ∀ envelope, envelope? record = some envelope → Planless envelope)
    (boot : WorkerBootId) :
    Mirrored (staged ++ [record]) (tables.install config record) serials'
      (replay.record config (record.record boot).1 (record.record boot).2) := by
  have hwhole (hreplayable : Staged.Replayable record) :
      replay.record config (record.record boot).1 (record.record boot).2 =
        Replay.restore config replay record := by
    rw [record_staged hreplayable, kept_eq htexts hplanless]
  obtain ⟨envelopes, hothers⟩ : ∃ envelopes, replay.tables = { tables with envelopes } :=
    ⟨_, h.others⟩
  have henvelope := h.envelopeSerial
  have hattempt := h.attemptSerial
  cases replay with
  | mk replayTables nextEnvelope nextAttempt orphans =>
  simp only at hothers henvelope hattempt
  subst hothers henvelope hattempt
  cases hdue with
  | counted found same => exact h.patched found same
  | replaced whole found issued =>
    have hreplayable := hreplayable.resolve_right (by rintro ⟨_, ⟨⟩⟩; exact whole rfl)
    rw [hwhole hreplayable]
    simp only [Replay.restore, Replay.restoreEnvelope]
    rw [if_neg (UInt64.not_le.mpr issued)]
    exact h.written serials.envelope
  | opened issued =>
    rw [hwhole (.inl rfl)]
    simp only [Replay.restore, Replay.restoreEnvelope, issued]
    rw [if_pos (UInt64.le_refl _)]
    exact h.written (serials.envelope + 1)
  | @created attempt issued =>
    have henvelopes : (tables.retainAttempt config attempt).envelopes = tables.envelopes := by
      obtain ⟨attempts, order, lists, hretain, -⟩ := retainAttempt_tables config tables attempt
      rw [hretain]
    rw [hwhole trivial]
    simp only [Replay.restore, Replay.restoreAttempt, retainAttempt_envelopes, issued]
    rw [if_pos (UInt64.le_refl _)]
    exact h.aside rfl henvelopes rfl
  | moved found same issued =>
    rw [hwhole (hreplayable.resolve_right (by rintro ⟨_, ⟨⟩⟩))]
    simp only [Replay.restore, Replay.restoreAttempt]
    rw [if_neg (UInt64.not_le.mpr issued),
      retainAttempt_known (indexed_envelopes hindexed envelopes) found same]
    exact h.aside rfl rfl rfl
  | epoch reason valid newer =>
    rw [hwhole trivial]
    simp only [Replay.restore, valid, Bool.true_and, decide_eq_true_eq]
    split
    · exact h.aside rfl rfl rfl
    · next hold =>
      obtain rfl := newer.resolve_right hold
      exact h.aside rfl rfl rfl
  | _ =>
    rw [hwhole (hreplayable.resolve_right (by rintro ⟨_, ⟨⟩⟩))]
    exact h.aside rfl rfl rfl

/-- Where no counters record was written, the replay has rebuilt all of the tables. -/
theorem Mirrored.exact (h : Mirrored staged tables serials replay)
    (hnone : ∀ record ∈ staged, counters record = false) :
    replay.tables = tables ∧ replay.orphans = 0 := by
  have hlast (k : U64) : lastType k staged ≠ some .envelopeCounters := by
    clear h
    induction staged using List.reverseRecOn with
    | nil => exact nofun
    | append_singleton staged record ih =>
      have hrecord := hnone record (List.mem_append_right _ (List.mem_singleton_self record))
      have hbefore := ih fun r hr ↦ hnone r (List.mem_append_left _ hr)
      rw [lastType_append]
      cases record with
      | envelope type envelope =>
        simp only [typeAfter]
        split
        · rintro ⟨⟩
          cases hrecord
        · exact hbefore
      | _ => exact hbefore
  have henvelopes : replay.tables.envelopes = tables.envelopes :=
    Registry.ext fun k ↦ h.whole k (hlast k)
  have hcount : staged.countP counters = 0 :=
    List.countP_eq_zero.mpr fun record hmem ↦ by rw [hnone record hmem]; exact Bool.false_ne_true
  refine ⟨?_, UInt64.toNat_inj.mp (Nat.le_zero.mp (hcount ▸ h.orphans))⟩
  rw [h.others, henvelopes]

end Records

section Batches

variable {config : EngineConfig} {tables : Tables} {serials serials' serials'' : Serials}
  {replay : Replay} {staged records : List Staged} {record later : Staged}

/-- Records that are due one after the other, each where those before it are installed. -/
inductive Dues (config : EngineConfig) : Tables → Serials → List Staged → Serials → Prop
  | nil {tables : Tables} {serials : Serials} (indexed : Indexed config tables) :
      Dues config tables serials [] serials
  | cons {tables : Tables} {serials serials' serials'' : Serials} {record : Staged}
      {records : List Staged} (indexed : Indexed config tables)
      (due : Due tables serials record serials')
      (rest : Dues config (tables.install config record) serials' records serials'') :
      Dues config tables serials (record :: records) serials''

theorem Dues.indexed (h : Dues config tables serials records serials') :
    Indexed config (installed config tables records) := by
  induction h with
  | nil indexed => exact indexed
  | cons _ _ _ ih => exact ih

theorem Dues.take (h : Dues config tables serials records serials') (count : ℕ) :
    ∃ between, Dues config tables serials (records.take count) between := by
  induction h generalizing count with
  | nil hindexed =>
    rw [List.take_nil]
    exact ⟨_, .nil hindexed⟩
  | cons hindexed hdue hrest ih =>
    cases count with
    | zero => exact ⟨_, .nil hindexed⟩
    | succ count =>
      obtain ⟨between, hdues⟩ := ih count
      exact ⟨between, .cons hindexed hdue hdues⟩

theorem Dues.serials_of_quiet (h : Dues config tables serials records serials')
    (hquiet : ∀ record ∈ records, ¬ Issuing record) : serials' = serials := by
  induction h with
  | nil => rfl
  | cons hindexed hdue hrest ih =>
    rw [ih fun record hmem ↦ hquiet record (List.mem_cons_of_mem _ hmem)]
    have hfirst := hquiet _ List.mem_cons_self
    cases hdue with
    | opened => exact absurd rfl hfirst
    | created => exact absurd trivial hfirst
    | _ => rfl

theorem Mirrored.replay_records (h : Mirrored staged tables serials replay)
    (hdues : Dues config tables serials records serials')
    (hreplayable : ∀ record ∈ records, Staged.Replayable record ∨
      ∃ envelope, record = .envelope .envelopeCounters envelope)
    (htexts : ∀ record ∈ records, Staged.TextsFit record)
    (hplanless : ∀ record ∈ records, ∀ envelope, envelope? record = some envelope →
      Planless envelope) (boot : WorkerBootId) :
    Mirrored (staged ++ records) (installed config tables records) serials'
      (replayed config replay (records.map (Staged.record boot))) := by
  induction hdues generalizing staged replay with
  | nil =>
    rw [List.append_nil]
    exact h
  | cons indexed due _ ih =>
    have hrecord := h.replay_record indexed due (hreplayable _ List.mem_cons_self)
      (htexts _ List.mem_cons_self) (hplanless _ List.mem_cons_self) boot
    have hrest := ih hrecord (fun r hr ↦ hreplayable r (List.mem_cons_of_mem _ hr))
      (fun r hr ↦ htexts r (List.mem_cons_of_mem _ hr))
      (fun r hr ↦ hplanless r (List.mem_cons_of_mem _ hr))
    rw [List.append_assoc] at hrest
    exact hrest

theorem Due.install (h : Due tables serials record serials')
    (hlater : Due tables serials later serials'') (hissuing : ¬ Issuing later)
    (hcounters : ∀ envelope, record ≠ .envelope .envelopeCounters envelope)
    (hepochs : ∀ epoch reason epoch' reason', record = .epoch epoch reason →
      later = .epoch epoch' reason' → epoch' = epoch) :
    Due (tables.install config later) serials record serials' := by
  cases h with
  | counted => exact absurd rfl (hcounters _)
  | opened issued => exact .opened issued
  | created issued => exact .created issued
  | replaced whole found issued =>
    obtain ⟨old, hfound⟩ : ∃ old, (tables.install config later).envelopes.find _ = some old := by
      cases later with
      | envelope type value =>
        obtain ⟨w, hw, -⟩ := Registry.find_putAll_of_find (f := some) found [value]
        exact ⟨w, hw⟩
      | created => exact absurd trivial hissuing
      | _ => exact ⟨_, found⟩
    exact .replaced whole hfound issued
  | @moved _ attempt old found same issued =>
    have hmoved : ∃ old, (tables.install config later).attempts.find attempt.id.value = some old ∧
        attempt.envelope = old.envelope := by
      cases hlater with
      | @moved _ other prior found' same' =>
        simp only [Tables.install, Registry.find_put]
        split
        · next hkey =>
          rw [hkey, found] at found'
          cases found'
          exact ⟨other, rfl, same.trans same'.symm⟩
        · exact ⟨old, found, same⟩
      | created => exact absurd trivial hissuing
      | _ => exact ⟨old, found, same⟩
    obtain ⟨old, hfound, hsame⟩ := hmoved
    exact .moved hfound hsame issued
  | epoch reason valid newer =>
    refine .epoch reason valid ?_
    cases later with
    | epoch other reason' => exact .inl (hepochs _ _ _ _ rfl rfl)
    | created => exact absurd trivial hissuing
    | _ => exact newer
  | _ => constructor

theorem indexed_install (h : Indexed config tables) (hdue : Due tables serials record serials')
    (hissuing : ¬ Issuing record) : Indexed config (tables.install config record) := by
  cases hdue with
  | moved found same => exact h.put found same
  | created => exact absurd trivial hissuing
  | _ => exact ⟨h.listed, h.stored, h.nodup, h.bounded, h.distinct, h.ordered, h.room⟩

theorem dues_of_updates (h : Indexed config tables)
    (hall : ∀ record ∈ records, Due tables serials record serials ∧ ¬ Issuing record)
    (hcounters : ∀ record ∈ records, ∀ envelope, record ≠ .envelope .envelopeCounters envelope)
    (hepochs : ∀ epoch reason epoch' reason', .epoch epoch reason ∈ records →
      .epoch epoch' reason' ∈ records → epoch' = epoch) :
    Dues config tables serials records serials := by
  induction records generalizing tables with
  | nil => exact .nil h
  | cons record records ih =>
    obtain ⟨hdue, hissuing⟩ := hall _ List.mem_cons_self
    refine .cons h hdue (ih (indexed_install h hdue hissuing) (fun r hr ↦ ?_)
      (fun r hr ↦ hcounters r (List.mem_cons_of_mem _ hr))
      fun e n e' n' he he' ↦ hepochs e n e' n' (List.mem_cons_of_mem _ he)
        (List.mem_cons_of_mem _ he'))
    obtain ⟨hr', hissuing'⟩ := hall r (List.mem_cons_of_mem _ hr)
    refine ⟨hr'.install hdue hissuing (hcounters r (List.mem_cons_of_mem _ hr)) ?_, hissuing'⟩
    rintro e n e' n' rfl rfl
    exact hepochs e n e' n' (List.mem_cons_of_mem _ hr) List.mem_cons_self

end Batches

end RateGovernor.Dynamics.Mirroring
