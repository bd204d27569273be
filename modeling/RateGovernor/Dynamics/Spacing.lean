import RateGovernor.Dynamics.Journaling
import RateGovernor.Dynamics.Mirroring

namespace RateGovernor.Dynamics.Spacing

open Model.CheckedMath Model.Identity Model.Entities Model.Envelope Model.EngineState
open Model.Durability Model.Lifecycle Model.Revocation Model.Execution Foundation.KeyedTable
open Install Sections Staging Turns Evolution Halting Issue Attempts Start Serials Buckets Retention
open Records Filing Restoring Numbering Plans Compacting Journaling Mirroring

/-- Every envelope has room for an attempt of each kind, and the product of the two limits is one. -/
structure Spacious (config : EngineConfig) : Prop where
  several : 2 ≤ config.maxAttemptsPerEnvelope.toNat
  product : config.maxEnvelopes.toNat * config.maxAttemptsPerEnvelope.toNat < 2 ^ 64

instance (config : EngineConfig) : Decidable (Spacious config) :=
  decidable_of_iff (2 ≤ config.maxAttemptsPerEnvelope.toNat ∧
      config.maxEnvelopes.toNat * config.maxAttemptsPerEnvelope.toNat < 2 ^ 64)
    ⟨fun h ↦ ⟨h.1, h.2⟩, fun h ↦ ⟨h.several, h.product⟩⟩

theorem Spacious.limit {config : EngineConfig} (h : Spacious config) :
    (config.maxEnvelopes * config.maxAttemptsPerEnvelope).toNat =
      config.maxEnvelopes.toNat * config.maxAttemptsPerEnvelope.toNat := by
  rw [UInt64.toNat_mul, Nat.mod_eq_of_lt h.product]

theorem Spacious.envelopes {config : EngineConfig} (h : Spacious config) :
    config.maxEnvelopes.toNat + 1 < 2 ^ 64 := by
  have hdouble := Nat.mul_le_mul_left config.maxEnvelopes.toNat h.several
  have hproduct := h.product
  omega

section Creation

variable {config : EngineConfig} {tables : Tables} {attempt : EnforcementAttempt}

theorem indexed_create (h : Indexed config tables) (hspacious : Spacious config)
    (hfresh : tables.attempts.find attempt.id.value = none)
    (hregular : Regular (tables.attempts.put attempt))
    (henvelopes : ∀ k a, (tables.attempts.put attempt).find k = some a →
      ∃ e, tables.envelopes.find a.envelope.value = some e)
    (hfull : tables.envelopes.size ≤ config.maxEnvelopes.toNat) :
    Indexed config (tables.retainAttempt config attempt) := by
  have hunlisted := not_listed_of_fresh h hfresh attempt.envelope
  have hstored : ∀ k ∈ tables.enlisted attempt, ∃ a,
      (tables.attempts.put attempt).find k = some a ∧ a.envelope = attempt.envelope := by
    intro k hk
    rcases (mem_enlisted hunlisted).mp hk with hold | rfl
    · obtain ⟨a, hfind, ha⟩ := h.stored _ k hold
      refine ⟨a, ?_, ha⟩
      rw [Registry.find_put_of_ne, hfind]
      rintro rfl
      exact hunlisted hold
    · exact ⟨attempt, Registry.find_put_self _ _, rfl⟩
  refine h.create hfresh ?_ henvelopes ?_
  · have hnodup := nodup_enlisted (h.nodup attempt.envelope) hunlisted
    refine Nat.le_trans (live_le_two attempt.envelope hregular (hnodup.filter _) ?_) hspacious.several
    intro k hk
    obtain ⟨hk, hlive⟩ := List.mem_filter.mp hk
    obtain ⟨a, hfind, ha⟩ := hstored k hk
    refine ⟨a, hfind, ha, (hregular.settled k a hfind).resolve_right ?_⟩
    have hfind : (tables.enlist attempt).attempts.find k = some a := hfind
    simp only [Tables.terminalAt, hfind, Bool.not_eq_true'] at hlive
    rw [hlive]
    exact Bool.false_ne_true
  · rw [hspacious.limit]
    exact Nat.mul_le_mul_right _ hfull

end Creation

def serialsOf (control : Control) : Mirroring.Serials :=
  ⟨control.nextEnvelopeId, control.nextAttemptId⟩

/-- What an engine with room for its attempts keeps to as long as its journal works. -/
structure Orderly (s : System) : Prop where
  ordered : Ordered s
  indexed : Indexed s.engine.config s.engine.tables
  full : s.engine.tables.envelopes.size ≤ s.engine.config.maxEnvelopes.toNat
  paced : s.engine.control.nextEnvelopeId.toNat = s.engine.tables.envelopes.size + 1
  issued : ∀ k a, s.engine.tables.attempts.find k = some a → k < s.engine.control.nextAttemptId

section Sections

variable {s t : System} {action : Action} {event : Event} {decision : Section} {record : Staged}

theorem Orderly.known {k : U64} {envelope : RateEnvelope} (h : Orderly s)
    (hfind : s.engine.tables.envelopes.find k = some envelope) :
    k < s.engine.control.nextEnvelopeId := by
  have hnumbered := h.ordered.numbered k envelope hfind
  have hpaced := h.paced
  rw [UInt64.lt_iff_toNat_lt]
  omega

theorem due_of_stages (h : Orderly s) (hstages : Stages s event record) (hissuing : ¬ Issuing record) :
    Due s.engine.tables (serialsOf s.engine.control) record (serialsOf s.engine.control) := by
  cases record with
  | envelope type envelope =>
    by_cases hcounters : type = .envelopeCounters
    · subst hcounters
      cases hstages with
      | consumed found active =>
        have hkey : _ = _ := Registry.key_of_find found
        rw [← hkey] at found
        exact .counted found rfl
    · obtain ⟨old, hfound⟩ := replaces_of_stages hstages hissuing
      exact .replaced hcounters hfound (h.known hfound)
  | created attempt => exact absurd trivial hissuing
  | attempt type attempt =>
    obtain ⟨old, hfound, hmoves⟩ := moves_of_stages hstages
    exact .moved hfound (congrArg AttemptIdentity.envelope hmoves.same) (h.issued _ _ hfound)
  | epoch epoch reason =>
    cases hstages with
    | epoch valid newer => exact .epoch _ valid (.inr newer)
  | _ => constructor

def Rewrites (tables : Tables) (next : U64) (record : Staged) : Prop :=
  ∃ type envelope, record = .envelope type envelope ∧ type ≠ .envelopeOpened ∧
    type ≠ .envelopeCounters ∧ (∃ old, tables.envelopes.find envelope.id.value = some old) ∧
    envelope.id.value < next

theorem dues_of_rewrites {config : EngineConfig} {tables : Tables} {serials : Mirroring.Serials}
    {records : List Staged} (h : Indexed config tables)
    (hall : ∀ record ∈ records, Rewrites tables serials.envelope record) :
    Dues config tables serials records serials := by
  refine dues_of_updates h (fun record hmem ↦ ?_) (fun record hmem envelope ↦ ?_) ?_
  · obtain ⟨type, envelope, rfl, hopened, hcounters, ⟨old, hfound⟩, hissued⟩ := hall record hmem
    exact ⟨.replaced hcounters hfound hissued, hopened⟩
  · obtain ⟨type, envelope', rfl, -, hcounters, -⟩ := hall record hmem
    rintro ⟨⟩
    exact hcounters rfl
  · intro epoch reason epoch' reason' hmem
    obtain ⟨type, envelope, heq, -⟩ := hall _ hmem
    cases heq

theorem dues_append {config : EngineConfig} {tables : Tables}
    {serials serials' serials'' : Mirroring.Serials} {records rest : List Staged}
    (h : Dues config tables serials records serials')
    (hrest : Dues config (installed config tables records) serials' rest serials'') :
    Dues config tables serials (records ++ rest) serials'' := by
  induction h with
  | nil => exact hrest
  | cons indexed due _ ih => exact .cons indexed due (ih hrest)

theorem dues_of_creation {before after : List Staged} {attempt : EnforcementAttempt}
    {envelope : RateEnvelope} (h : Orderly s) (hspacious : Spacious s.engine.config)
    (hcreates : Creates s attempt envelope)
    (haround : ∀ record ∈ before ++ after,
      Rewrites s.engine.tables s.engine.control.nextEnvelopeId record) :
    Dues s.engine.config s.engine.tables (serialsOf s.engine.control)
      (before ++ .created attempt :: after)
      ⟨s.engine.control.nextEnvelopeId, s.engine.control.nextAttemptId + 1⟩ := by
  have hbefore : Dues s.engine.config s.engine.tables (serialsOf s.engine.control) before
      (serialsOf s.engine.control) :=
    dues_of_rewrites h.indexed fun record hmem ↦ haround record (List.mem_append_left _ hmem)
  refine dues_append hbefore (.cons hbefore.indexed (.created hcreates.issued) ?_)
  have hknown : ∀ record ∈ before ++ after, ∀ e, envelope? record = some e →
      ∃ old, s.engine.tables.envelopes.find e.id.value = some old := by
    intro record hmem e he
    obtain ⟨type, value, rfl, -, -, hold, -⟩ := haround record hmem
    cases he
    exact hold
  obtain ⟨envelopes, htables⟩ := @installed_of_envelopes s.engine.config before s.engine.tables
    fun record hmem ↦ by
      obtain ⟨type, value, rfl, -⟩ := haround record (List.mem_append_left _ hmem)
      exact ⟨type, value, rfl⟩
  obtain ⟨-, -, -, -, -, -, henvelopes⟩ :=
    @installed_registries s.engine.config s.engine.tables before
  have hpersists {k : U64} (hfind : ∃ e, s.engine.tables.envelopes.find k = some e) :
      ∃ e, (installed s.engine.config s.engine.tables before).envelopes.find k = some e := by
    obtain ⟨e, hfind⟩ := hfind
    obtain ⟨w, hw, -⟩ := Registry.find_putAll_of_find (f := envelope?) hfind before
    exact ⟨w, henvelopes ▸ hw⟩
  have hattempts : (installed s.engine.config s.engine.tables before).attempts =
      s.engine.tables.attempts := by rw [htables]
  have hfresh : s.engine.tables.attempts.find attempt.id.value = none := by
    cases hfind : s.engine.tables.attempts.find attempt.id.value with
    | none => rfl
    | some a =>
      have hlt := h.issued _ a hfind
      rw [hcreates.issued] at hlt
      exact absurd hlt (UInt64.lt_irrefl _)
  have hregular : Regular (s.engine.tables.attempts.put attempt) :=
    h.ordered.filed.regular.create hfresh hcreates.kind hcreates.key (by rw [hcreates.state]; rfl)
      fun k a hfind hlive ↦ idle_of_creates h.ordered.filed hcreates hfind hlive
  have hcreated : Indexed s.engine.config
      ((installed s.engine.config s.engine.tables before).retainAttempt s.engine.config attempt) := by
    refine indexed_create hbefore.indexed hspacious ?_ ?_ ?_ ?_
    · rw [hattempts]
      exact hfresh
    · rw [hattempts]
      exact hregular
    · rw [hattempts]
      intro k a hfind
      rw [Registry.find_put] at hfind
      split at hfind
      · cases hfind
        rw [hcreates.envelopeId]
        exact hpersists ⟨envelope, hcreates.found⟩
      · obtain ⟨e, he, -⟩ := h.ordered.filed.envelope k a hfind
        exact hpersists ⟨e, he⟩
    · rw [henvelopes, Registry.size_putAll_of_find]
      · exact h.full
      · exact fun record hmem ↦ hknown record (List.mem_append_left _ hmem)
  refine dues_of_rewrites hcreated fun record hmem ↦ ?_
  obtain ⟨type, value, rfl, hopened, hcounters, hold, hissued⟩ :=
    haround record (List.mem_append_right _ hmem)
  refine ⟨type, value, rfl, hopened, hcounters, ?_, hissued⟩
  obtain ⟨attempts, order, lists, hretain, -⟩ := retainAttempt_tables s.engine.config
    (installed s.engine.config s.engine.tables before) attempt
  obtain ⟨old, hfound⟩ := hpersists hold
  exact ⟨old, (congrArg (fun tables : Tables ↦ tables.envelopes.find value.id.value) hretain).trans
    hfound⟩

theorem rewrites_of_stages {type} {envelope : RateEnvelope} (h : Orderly s)
    (hstages : Stages s event (.envelope type envelope)) (hopened : type ≠ .envelopeOpened)
    (hcounters : type ≠ .envelopeCounters) :
    Rewrites s.engine.tables s.engine.control.nextEnvelopeId (.envelope type envelope) := by
  obtain ⟨old, hfound⟩ := replaces_of_stages hstages hopened
  exact ⟨type, envelope, rfl, hopened, hcounters, ⟨old, hfound⟩, h.known hfound⟩

/-- The records of a burst are not journalled with any other. -/
theorem dues_of_burst {id : RateEnvelopeId} {tokens now : U64} (h : Orderly s) :
    Dues s.engine.config s.engine.tables (serialsOf s.engine.control)
      (consumeBurst s.engine id tokens now).records (serialsOf s.engine.control) := by
  have hcounted {old : RateEnvelope} (hfound : s.engine.tables.envelopes.find id.value = some old)
      (bucket) (updatedNs : U64) : Dues s.engine.config s.engine.tables (serialsOf s.engine.control)
        [.envelope .envelopeCounters { old with bucket, updatedNs }] (serialsOf s.engine.control) := by
    have hkey : _ = _ := Registry.key_of_find hfound
    rw [← hkey] at hfound
    exact .cons h.indexed (.counted hfound rfl) (.nil (indexed_envelopes h.indexed _))
  rcases consumeBurst_cases s id tokens now with hconcluded | ⟨old, hfound, ⟨-, hrecords, -⟩ |
    ⟨-, hrecords⟩⟩
  · obtain ⟨counters, result, hconclude⟩ := hconcluded
    rw [hconclude]
    exact .nil h.indexed
  · rw [hrecords]
    exact hcounted hfound _ old.updatedNs
  · rw [hrecords]
    exact hcounted hfound _ now

theorem dues_of_section (h : Orderly s) (hspacious : Spacious s.engine.config)
    (hsection : sectionOf s event = some decision) :
    Dues s.engine.config s.engine.tables (serialsOf s.engine.control) decision.records
      (serialsOf decision.settled) := by
  have hstages {record : Staged} (hmem : record ∈ decision.records) : Stages s event record :=
    stages_of_sectionOf hsection hmem
  cases issues_of_sectionOf hsection with
  | nothing ids records =>
    have hserials : serialsOf decision.settled = serialsOf s.engine.control := by
      simp only [serialsOf, ids.1, ids.2]
    rw [hserials]
    by_cases hburst : ∃ id tokens now, event = .consumeBurst id tokens now
    · obtain ⟨id, tokens, now, rfl⟩ := hburst
      cases hsection
      exact dues_of_burst h
    · refine dues_of_updates h.indexed (fun record hmem ↦ ?_) (fun record hmem envelope ↦ ?_) ?_
      · exact ⟨due_of_stages h (hstages hmem) (records record hmem), records record hmem⟩
      · rintro rfl
        cases hstages hmem with
        | consumed => exact hburst ⟨_, _, _, rfl⟩
      · intro epoch reason epoch' reason' hmem hmem'
        cases hstages hmem
        cases hstages hmem'
        rfl
  | envelope request now room ids records =>
    have hserials : serialsOf decision.settled =
        ⟨s.engine.control.nextEnvelopeId + 1, s.engine.control.nextAttemptId⟩ := by
      simp only [serialsOf, ids.1, ids.2]
    rw [hserials, records]
    exact .cons h.indexed (.opened rfl) (.nil (indexed_envelopes h.indexed _))
  | apply envelope backend id now session admitted plan ids records =>
    have hserials : serialsOf decision.settled =
        ⟨s.engine.control.nextEnvelopeId, s.engine.control.nextAttemptId + 1⟩ := by
      simp only [serialsOf, ids.1, ids.2, takeAttemptId]
    rw [records] at hstages
    rw [hserials, records]
    simp only [dispatchApply, plan, Bool.not_true, Bool.false_eq_true, if_false, publish]
      at hstages ⊢
    obtain ⟨_, hcreates⟩ := creates_of_stages
      (hstages (List.mem_append_right _ List.mem_cons_self))
    refine dues_of_creation h hspacious hcreates fun record hmem ↦ ?_
    rcases List.mem_append.mp hmem with hbefore | hafter
    · have hstage := hstages (List.mem_append_left _ hbefore)
      split at hbefore
      · cases hbefore
      · obtain rfl := List.mem_singleton.mp hbefore
        exact rewrites_of_stages h hstage (by rintro ⟨⟩) (by rintro ⟨⟩)
    · obtain rfl := List.mem_singleton.mp hafter
      have hstage := hstages (List.mem_append_right _
        (List.mem_cons_of_mem _ (List.mem_singleton_self _)))
      exact rewrites_of_stages h hstage (by rintro ⟨⟩) (by rintro ⟨⟩)
  | revoke envelope backend id reason now session admitted ids records =>
    have hserials : serialsOf decision.settled =
        ⟨s.engine.control.nextEnvelopeId, s.engine.control.nextAttemptId + 1⟩ := by
      simp only [serialsOf, ids.1, ids.2, takeAttemptId]
    rw [records] at hstages
    rw [hserials, records]
    simp only [dispatchRevoke, publish] at hstages ⊢
    obtain ⟨_, hcreates⟩ := creates_of_stages (hstages List.mem_cons_self)
    show Dues _ _ _ ([] ++ .created _ :: _) _
    refine dues_of_creation h hspacious hcreates fun record hmem ↦ ?_
    obtain rfl := List.mem_singleton.mp hmem
    have hstage := hstages (List.mem_cons_of_mem _ (List.mem_singleton_self _))
    exact rewrites_of_stages h hstage (by rintro ⟨⟩) (by rintro ⟨⟩)

end Sections

section Steps

variable {s t : System} {action : Action}

/-- The commit of the action's section, if it has anything to commit, succeeds. -/
def Commits (s : System) (action : Action) : Prop :=
  ∀ decision, sectionOf s action.event = some decision → decision.records ≠ [] →
    (decision.commit s.engine action.io).status = none

theorem settled_step (hok : Commits s action) (hstep : step s action = some t) :
    ∃ decision, sectionOf s action.event = some decision ∧
      t.engine.tables = installed s.engine.config s.engine.tables decision.records ∧
      t.engine.control = decision.settled := by
  obtain ⟨decision, hsection, hturn⟩ := turn_of_step hstep
  refine ⟨decision, hsection, ?_⟩
  cases hturn with
  | quiet hrecords => exact ⟨by rw [hrecords]; rfl, rfl⟩
  | failed hrecords hstatus =>
    rw [hok decision hsection hrecords] at hstatus
    cases hstatus
  | committed => exact ⟨rfl, rfl⟩

/-- The envelopes and the counter of their identities go up together. -/
theorem paced_of_section {event : Event} {decision : Section} (h : Orderly s)
    (hspacious : Spacious s.engine.config) (hsection : sectionOf s event = some decision) :
    (installed s.engine.config s.engine.tables decision.records).envelopes.size ≤
        s.engine.config.maxEnvelopes.toNat ∧
      decision.settled.nextEnvelopeId.toNat =
        (installed s.engine.config s.engine.tables decision.records).envelopes.size + 1 := by
  obtain ⟨-, -, -, -, -, -, henvelopes⟩ :=
    @installed_registries s.engine.config s.engine.tables decision.records
  have hsame (hopened : ∀ record ∈ decision.records, ∀ envelope,
      record ≠ .envelope .envelopeOpened envelope) :
      (installed s.engine.config s.engine.tables decision.records).envelopes.size =
        s.engine.tables.envelopes.size := by
    rw [henvelopes]
    refine Registry.size_putAll_of_find fun record hmem envelope henvelope ↦ ?_
    cases record with
    | envelope type value =>
      cases henvelope
      refine replaces_of_stages (stages_of_sectionOf hsection hmem) ?_
      rintro rfl
      exact hopened _ hmem _ rfl
    | _ => cases henvelope
  cases issues_of_sectionOf hsection with
  | nothing ids records =>
    have hsize := hsame fun record hmem envelope heq ↦ records record hmem (by rw [heq]; rfl)
    rw [hsize, ids.1]
    exact ⟨h.full, h.paced⟩
  | envelope request now room ids records =>
    have hfresh : s.engine.tables.envelopes.find s.engine.control.nextEnvelopeId = none := by
      cases hfind : s.engine.tables.envelopes.find s.engine.control.nextEnvelopeId with
      | none => rfl
      | some envelope => exact absurd (h.known hfind) (UInt64.lt_irrefl _)
    have hsize : (installed s.engine.config s.engine.tables decision.records).envelopes.size =
        s.engine.tables.envelopes.size + 1 := by
      rw [henvelopes, records]
      exact Registry.size_put_of_find_none hfresh
    have hnext : decision.settled.nextEnvelopeId.toNat =
        s.engine.control.nextEnvelopeId.toNat + 1 := by
      have hlimit := hspacious.envelopes
      have hpaced := h.paced
      rw [ids.1, UInt64.toNat_add]
      simp only [UInt64.reduceToNat]
      omega
    rw [hsize, hnext, h.paced]
    exact ⟨room, rfl⟩
  | apply envelope backend id now session admitted plan ids records =>
    have hsize := hsame fun record hmem envelope heq ↦ by
      subst heq
      rw [records] at hmem
      simp only [dispatchApply, plan, Bool.not_true, Bool.false_eq_true, if_false, publish] at hmem
      split at hmem <;> simp at hmem
    rw [hsize, ids.1]
    exact ⟨h.full, h.paced⟩
  | revoke envelope backend id reason now session admitted ids records =>
    have hsize := hsame fun record hmem envelope heq ↦ by
      subst heq
      rw [records] at hmem
      simp [dispatchRevoke, publish] at hmem
    rw [hsize, ids.1]
    exact ⟨h.full, h.paced⟩

theorem orderly_step (h : Orderly s) (hspacious : Spacious s.engine.config) (hroom : Serviceable s)
    (hok : Commits s action) (hstep : step s action = some t) : Orderly t := by
  obtain ⟨decision, hsection, htables, hcontrol⟩ := settled_step hok hstep
  obtain ⟨hfull, hpaced⟩ := paced_of_section h hspacious hsection
  have hindexed := (dues_of_section h hspacious hsection).indexed
  obtain ⟨hmonotone, hcreated⟩ := serials_of_issues (issues_of_sectionOf hsection) hroom
  rw [← htables] at hfull hpaced hindexed
  rw [← hcontrol] at hpaced
  have hconfig := config_step hstep
  refine ⟨ordered_step h.ordered hspacious.several hroom hstep, hconfig ▸ hindexed,
    hconfig ▸ hfull, hpaced, fun k a hfind ↦ ?_⟩
  rw [hcontrol]
  rw [htables] at hfind
  have hkey := Registry.key_of_find hfind
  have hkey : a.id.value = k := hkey
  obtain ⟨record, hmem, hrecord⟩ | hold := installed_attempts _ _ hfind
  · have hstages := stages_of_sectionOf hsection hmem
    cases record with
    | created value =>
      cases hrecord
      obtain ⟨envelope, hcreates⟩ := creates_of_stages hstages
      rw [← hkey, hcreates.issued]
      exact hcreated a hmem
    | attempt type value =>
      cases hrecord
      obtain ⟨old, hfound, -⟩ := moves_of_stages hstages
      rw [← hkey]
      exact UInt64.lt_of_lt_of_le (h.issued _ old hfound) hmonotone
    | _ => cases hrecord
  · exact UInt64.lt_of_lt_of_le (h.issued k a hold) hmonotone

theorem planless_of_stages {event : Event} {record : Staged} (h : Ordered s)
    (hstages : Stages s event record) {envelope : RateEnvelope}
    (henvelope : envelope? record = some envelope) : Planless envelope := by
  cases record with
  | envelope type value =>
    cases henvelope
    by_cases htype : type = .envelopeOpened
    · subst htype
      cases hstages
      exact fun _ ↦ rfl
    · obtain ⟨old, hfound⟩ := replaces_of_stages hstages htype
      obtain ⟨hplan, hflag⟩ | ⟨-, -, hrecorded⟩ := replans_of_stages hstages htype hfound
      · intro hnone
        rw [hplan]
        exact h.planless _ old hfound (hflag ▸ hnone)
      · intro hnone
        rw [hrecorded] at hnone
        cases hnone
  | _ => cases henvelope

/-- Replaying what a section has journalled leads where its installation has led. -/
theorem mirrored_step {replay : Replay} {staged : List Staged} {decision : Section} (h : Orderly s)
    (hspacious : Spacious s.engine.config) (hok : Commits s action)
    (hsection : sectionOf s action.event = some decision)
    (htexts : ∀ record ∈ decision.records, Staged.TextsFit record)
    (hmirrored : Mirrored staged s.engine.tables (serialsOf s.engine.control) replay)
    (hstep : step s action = some t) :
    Mirrored (staged ++ decision.records) t.engine.tables (serialsOf t.engine.control)
      (replayed s.engine.config replay (contents s.engine decision)) := by
  obtain ⟨decision', hsection', htables, hcontrol⟩ := settled_step hok hstep
  cases hsection.symm.trans hsection'
  rw [htables, hcontrol]
  exact hmirrored.replay_records (dues_of_section h hspacious hsection)
    (fun record hmem ↦ replayable_of_stages (stages_of_sectionOf hsection hmem)) htexts
    (fun record hmem envelope ↦ planless_of_stages h.ordered (stages_of_sectionOf hsection hmem)) _

theorem orderly_of_fresh (h : Fresh s) : Orderly s := by
  obtain ⟨htables, henvelope, -, -⟩ := replay_of_fresh h
  refine ⟨ordered_of_fresh h, ?_, ?_, ?_, fun k a hfind ↦ ?_⟩
  · rw [htables]
    refine ⟨fun k a hfind ↦ ?_, fun e k hk ↦ ?_, fun e ↦ ?_, fun e ↦ Nat.zero_le _, .nil, fun k ↦ ?_,
      Nat.zero_le _⟩
    · rw [← htables, no_attempt_of_fresh h] at hfind
      cases hfind
    · cases hk
    · exact .nil
    · rw [← htables]
      simp only [no_attempt_of_fresh h, reduceCtorEq, exists_false, iff_false]
      rw [htables]
      exact List.not_mem_nil
  · rw [htables]
    exact Nat.zero_le _
  · rw [htables, henvelope]
    rfl
  · rw [no_attempt_of_fresh h] at hfind
    cases hfind

end Steps

end RateGovernor.Dynamics.Spacing
