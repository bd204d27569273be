import RateGovernor.Dynamics.Accruing
import RateGovernor.Safety.SoundAuthorities

namespace RateGovernor.Safety.TickRefill

open Model.CheckedMath Model.Bucket Model.Identity Model.Reason Model.Entities Model.Envelope
open Model.EngineState Model.JournalWriter Model.Durability Model.Authority Model.Calls
open Model.Lifecycle Model.Revocation Model.Maintenance Model.Execution Foundation.KeyedTable
open Foundation.Accrual Foundation.GuardedRun Dynamics.Install Dynamics.Staging Dynamics.Turns
open Dynamics.Start Dynamics.Plans Dynamics.Buckets Dynamics.Balances Dynamics.Accruing
open Dynamics.Sections SoundAuthorities

variable {s t : System} {action : Action} {old new : RateEnvelope} {now tokens : U64}
  {bucket : TokenBucket} {id : RateEnvelopeId}

section Accrual

/-- The time that has passed since the last refill is worth a token the bucket has room for. -/
structure Due (bucket : TokenBucket) (now : U64) : Prop where
  known : bucket.initialized = true
  room : bucket.tokens < bucket.capacity
  earned : second ≤ bucket.fractionalNumerator.toNat +
    bucket.rateUps.toNat * (now.toNat - bucket.lastRefillNs.toNat)

theorem not_due_early (hwithin : Within bucket) (h : now < bucket.lastRefillNs) :
    ¬Due bucket now := by
  rintro ⟨-, -, hearned⟩
  have hfraction := UInt64.lt_iff_toNat_lt.1 hwithin.fraction
  have hearly := UInt64.lt_iff_toNat_lt.1 h
  rw [Nat.sub_eq_zero_of_le (Nat.le_of_lt hearly), Nat.mul_zero, Nat.add_zero] at hearned
  exact absurd hearned (Nat.not_le.2 hfraction)

theorem refilled_iff (hwithin : Within bucket) :
    bucket.tokens.toNat < (refillBucket bucket now).1.tokens.toNat ↔ Due bucket now := by
  cases hknown : bucket.initialized with
  | false =>
    have hsame : (refillBucket bucket now).1.tokens = bucket.tokens := by
      unfold refillBucket
      simp only [hknown, Bool.not_false, if_true, if_neg (UInt64.not_lt.2 hwithin.tokens)]
    rw [hsame]
    refine iff_of_false (Nat.lt_irrefl _) fun hdue ↦ ?_
    rw [hdue.known] at hknown
    cases hknown
  | true =>
    by_cases hlate : bucket.lastRefillNs ≤ now
    · have hroom := @UInt64.lt_iff_toNat_lt bucket.tokens bucket.capacity
      have hrefreshed := refreshed_refillBucket hwithin hknown hlate
      generalize (refillBucket bucket now).1 = refilled at hrefreshed ⊢
      cases hrefreshed with
      | closed hclosed =>
        refine iff_of_false (Nat.lt_irrefl _) fun hdue ↦ ?_
        have hcapacity := hroom.1 hdue.room
        rw [hclosed] at hcapacity
        exact Nat.not_lt_zero _ hcapacity
      | flooded _ hflood =>
        refine ⟨fun h ↦ ⟨hknown, hroom.2 h, ?_⟩, fun h ↦ hroom.1 h.room⟩
        simp only [second] at hflood ⊢
        omega
      | @accrued tokens fraction _ hbalance =>
        have htokens : tokens.toNat = min bucket.capacity.toNat (bucket.tokens.toNat +
            (bucket.fractionalNumerator.toNat + bucket.rateUps.toNat *
              (now.toNat - bucket.lastRefillNs.toNat)) / second) := congrArg Balance.whole hbalance
        have hwhole := @Nat.one_le_div_iff (bucket.fractionalNumerator.toNat +
          bucket.rateUps.toNat * (now.toNat - bucket.lastRefillNs.toNat)) second (by decide)
        show bucket.tokens.toNat < tokens.toNat ↔ _
        rw [htokens]
        constructor
        · intro h
          exact ⟨hknown, hroom.2 (by omega), hwhole.1 (by omega)⟩
        · intro h
          have hcapacity := hroom.1 h.room
          have hearned := hwhole.2 h.earned
          omega
    · have hearly := UInt64.not_le.1 hlate
      rw [refillBucket_early hknown hearly]
      exact iff_of_false (Nat.lt_irrefl _) (not_due_early hwithin hearly)

end Accrual

section Requests

/-- `consume_burst` comes to the bucket of the envelope, and what it makes of it is committed. -/
structure Served (s : System) (action : Action) (old : RateEnvelope) (now : U64) : Prop where
  running : s.engine.control.shuttingDown = false
  active : old.state = .applied ∨ old.state = .degraded
  current : authorityStatus s.engine.tables old now = .none
  committed : commits s action = true

theorem records_consumeBurst (hfound : s.engine.tables.envelopes.find id.value = some old) :
    Concluded s.engine (consumeBurst s.engine id tokens now) ∨
      (s.engine.control.shuttingDown = false ∧ (old.state = .applied ∨ old.state = .degraded) ∧
        authorityStatus s.engine.tables old now = .none) := by
  unfold consumeBurst
  simp only [hfound]
  split
  · exact .inl ⟨_, _, rfl⟩
  · next hrunning =>
    split
    · exact .inl ⟨_, _, rfl⟩
    · next hactive =>
      split
      · exact .inl ⟨_, _, rfl⟩
      · next hcurrent =>
        simp only [ne_eq, Bool.and_eq_true, decide_eq_true_eq, not_and_or, not_not] at hactive
        exact .inr ⟨by simpa using hrunning, hactive, not_not.1 hcurrent⟩

theorem bucket_consumeBurst (hfound : s.engine.tables.envelopes.find id.value = some old)
    (hrunning : s.engine.control.shuttingDown = false)
    (hactive : old.state = .applied ∨ old.state = .degraded)
    (hcurrent : authorityStatus s.engine.tables old now = .none) :
    ∃ new, (consumeBurst s.engine id tokens now).records = [.envelope .envelopeCounters new] ∧
      new.id = old.id ∧
      ((∃ error, ((consumeBurst s.engine id tokens now).reply none).1 = .error error) ∧
          new.bucket.tokens = (refillBucket old.bucket now).1.tokens ∨
        (∃ left, ((consumeBurst s.engine id tokens now).reply none).1 = .ok left) ∧
          new.bucket.tokens.toNat + tokens.toNat = (refillBucket old.bucket now).1.tokens.toNat) := by
  have hactive : ¬(decide (old.state ≠ .applied) && decide (old.state ≠ .degraded)) = true := by
    simp only [ne_eq, Bool.and_eq_true, decide_eq_true_eq, not_and_or, not_not]
    exact hactive
  unfold consumeBurst
  simp only [hfound, hrunning, Bool.false_eq_true, if_false, if_neg hactive,
    if_neg (not_not.2 hcurrent)]
  unfold tryConsume
  by_cases hshort : (refillBucket old.bucket now).1.tokens < tokens
  · rw [if_pos hshort]
    exact ⟨_, rfl, rfl, .inl ⟨⟨_, rfl⟩, rfl⟩⟩
  · rw [if_neg hshort]
    refine ⟨_, rfl, rfl, .inr ⟨⟨_, rfl⟩, ?_⟩⟩
    have hcovered := UInt64.not_lt.1 hshort
    rw [UInt64.toNat_sub_of_le _ _ hcovered]
    exact Nat.sub_add_cancel (UInt64.le_iff_toNat_le.1 hcovered)

variable (hfind : s.engine.tables.envelopes.find id.value = some old)
  (hevent : action.event = .consumeBurst id tokens now)

include hfind hevent

theorem served_of_commits (h : commits s action = true) : Served s action old now := by
  have hrecords : (consumeBurst s.engine id tokens now).records ≠ [] := by
    intro hempty
    unfold commits at h
    have hsection : sectionOf s action.event =
        some (begun s (consumeBurst s.engine id tokens now)) := by
      rw [hevent]
      rfl
    have hnone : (begun s (consumeBurst s.engine id tokens now)).records = [] := hempty
    simp only [hsection, hnone, List.isEmpty_nil, Bool.not_true, Bool.false_and,
      Bool.false_eq_true] at h
  obtain ⟨control, result, heq⟩ | ⟨hrunning, hactive, hcurrent⟩ :=
    @records_consumeBurst s old now tokens id hfind
  · rw [heq] at hrecords
    exact absurd rfl hrecords
  · exact ⟨hrunning, hactive, hcurrent, h⟩

omit hfind hevent in
theorem answer_of_committed {ρ : Type} {decision : Decision ρ} {engine : Engine} {io : Io}
    (hrecords : decision.records ≠ []) (hstatus : (decision.commit engine io).status = none) :
    (decision.perform engine io).2.1 = decision.reply none := by
  unfold Decision.perform
  rw [if_neg (by rw [List.isEmpty_iff]; exact hrecords)]
  simp only [hstatus]

omit hfind in
theorem spentBy_of_refused (h : ∀ left,
    ((consumeBurst s.engine id tokens now).perform s.engine action.io).2.1.1 ≠ .ok left) :
    spentBy id s action = 0 := by
  unfold spentBy
  rw [hevent]
  simp only [if_true]
  split
  · next left hleft => exact absurd hleft (h left)
  · rfl

omit hfind in
theorem spentBy_of_granted {left : U64}
    (h : ((consumeBurst s.engine id tokens now).perform s.engine action.io).2.1.1 = .ok left) :
    spentBy id s action = tokens.toNat := by
  unfold spentBy
  rw [hevent]
  simp only [if_true, h]

theorem balance_consumed (hstep : step s action = some t)
    (hfind' : t.engine.tables.envelopes.find id.value = some new) :
    (Served s action old now ∧ new.bucket.tokens.toNat + spentBy id s action =
        (refillBucket old.bucket now).1.tokens.toNat) ∨
      (¬Served s action old now ∧ new.bucket = old.bucket ∧ spentBy id s action = 0) := by
  by_cases hcommits : commits s action = true
  · have hserved := served_of_commits hfind hevent hcommits
    obtain ⟨staged, hrecords, hid, hbalance⟩ :=
      @bucket_consumeBurst s old now tokens id hfind hserved.running hserved.active hserved.current
    have hsome : (consumeBurst s.engine id tokens now).records ≠ [] := by
      rw [hrecords]
      exact List.cons_ne_nil _ _
    refine .inl ⟨hserved, ?_⟩
    obtain ⟨decision, hsection, hturn⟩ := turn_of_step hstep
    unfold commits at hcommits
    rw [hevent] at hsection hcommits
    cases hsection
    cases hturn with
    | quiet hempty => exact absurd hempty hsome
    | failed _ hfailed =>
      simp only [sectionOf, hfailed, Option.isNone_some, Bool.and_false, Bool.false_eq_true]
        at hcommits
    | committed _ hstatus =>
      have hstored : new = staged := by
        have hstoredKey := Registry.key_of_find hfind
        have hkey : staged.id.value = id.value := (congrArg (·.value) hid).trans hstoredKey
        have hfind' : (installed s.engine.config s.engine.tables
          (consumeBurst s.engine id tokens now).records).envelopes.find id.value = some new := hfind'
        rw [hrecords, (installed_registries _ _).2.2.2.2.2.2] at hfind'
        simp only [Registry.putAll_cons, Registry.putAll_nil, envelope?, Registry.putSome,
          Registry.find_put, if_pos hkey] at hfind'
        exact (Option.some.inj hfind').symm
      have hanswer := answer_of_committed hsome hstatus
      subst hstored
      obtain ⟨⟨error, herror⟩, hkept⟩ | ⟨⟨left, hleft⟩, hspent⟩ := hbalance
      · have hrefused := spentBy_of_refused hevent fun left hok ↦ by
          rw [hanswer, herror] at hok
          cases hok
        rw [hrefused, Nat.add_zero, hkept]
      · have hgranted : ((consumeBurst s.engine id tokens now).perform s.engine
          action.io).2.1.1 = .ok left := by
          rw [hanswer]
          exact hleft
        rw [spentBy_of_granted hevent hgranted]
        exact hspent
  · refine .inr ⟨fun hserved ↦ hcommits hserved.committed, ?_, ?_⟩
    · obtain hsame | hcommitted := same_or_commits hstep
      · rw [hsame, hfind] at hfind'
        cases hfind'
        rfl
      · exact absurd hcommitted hcommits
    · refine spentBy_of_refused hevent fun left hok ↦ hcommits ?_
      obtain ⟨status, hanswer, hcommitted⟩ :=
        perform_answer (consumeBurst s.engine id tokens now) s.engine action.io
      rw [hanswer] at hok
      obtain ⟨hnone, envelope, hgranted⟩ := consumeBurst_ok hok
      have hsome : (consumeBurst s.engine id tokens now).records ≠ [] := by
        rw [hgranted.records]
        exact List.cons_ne_nil _ _
      have hstatus := (hcommitted hnone hsome).1
      have hsection : sectionOf s action.event =
          some (begun s (consumeBurst s.engine id tokens now)) := by
        rw [hevent]
        rfl
      have hmapped : (begun s (consumeBurst s.engine id tokens now)).records ≠ [] := hsome
      have hmapped' : ((begun s (consumeBurst s.engine id tokens now)).commit s.engine
        action.io).status = none := hstatus
      unfold commits
      simp only [hsection, List.isEmpty_eq_false_iff.2 hmapped, hmapped', Bool.not_false,
        Option.isNone_none, Bool.and_self]

end Requests

section Runs

/-- The plan of the envelope has tokens accrue on ticks only. -/
def Discrete (envelope : RateEnvelope) : Prop :=
  envelope.hasPlan = true ∧ envelope.plan.refill = .discreteTickBucket

instance : DecidablePred Discrete := fun _ ↦ inferInstanceAs (Decidable (_ ∧ _))

/-- `authorize` or `apply` gives the envelope another plan, and the full bucket of that plan. -/
structure Installs (id : RateEnvelopeId) (action : Action) (old new : RateEnvelope) : Prop where
  event : (∃ actor now, action.event = .authorize id actor now) ∨
    ∃ actor now session, action.event = .apply id actor now session
  changed : bindingUnchanged old new.plan = false
  full : ∃ now, new.bucket = configureBucket new.plan.burstTokens new.plan.ceilingUps now

/-- What a discrete balance gains, the tokens granted from it included, it gains by a tick or with
the bucket of a new plan. -/
def CreditedOnTick (id : RateEnvelopeId) (s : System) (action : Action)
    (old new : RateEnvelope) : Prop :=
  Discrete old → old.bucket.tokens.toNat < new.bucket.tokens.toNat + spentBy id s action →
    (∃ now session, action.event = .tick now session) ∨ Installs id action old new

/-- An apply goes out under the plan the envelope has had, and its bucket is not full. -/
structure Replenishes (id : RateEnvelopeId) (s : System) (action : Action) (old : RateEnvelope) :
    Prop where
  dispatches : dispatchesApply id s action = true
  unchanged : ∃ actor now session, action.event = .apply id actor now session ∧
    bindingUnchanged old (planNow s old now) = true
  room : old.bucket.tokens < old.bucket.capacity

/-- A discrete bucket has nothing due when `consume_burst` comes to it, and is full when an apply
goes out under the plan it has had. -/
def Caught (id : RateEnvelopeId) (s : System) (action : Action) (old : RateEnvelope) : Prop :=
  Discrete old →
    (∀ tokens now, action.event = .consumeBurst id tokens now →
      Served s action old now → ¬Due old.bucket now) ∧
    ¬Replenishes id s action old

theorem spentBy_of_other (hother : ∀ tokens now, action.event ≠ .consumeBurst id tokens now)
    (hstep : step s action = some t) : spentBy id s action = 0 := by
  by_contra hspent
  obtain ⟨tokens, now, old, new, hevent, -⟩ := spent_step hstep hspent
  exact hother tokens now hevent

theorem allAccounted_of_reachable (h : Reachable s) : AllAccounted s.engine.tables.envelopes := by
  obtain ⟨start, hfresh, hrun⟩ := h
  refine hrun.invariant (I := fun s ↦ AllAccounted s.engine.tables.envelopes) ?_ ?_
  · intro k envelope hfind
    rw [no_envelope_of_fresh hfresh] at hfind
    cases hfind
  · exact fun _ _ _ hall _ hstep ↦ allAccounted_step hall hstep

theorem bindingUnchanged_self (h : old.hasPlan = true) : bindingUnchanged old old.plan = true := by
  unfold bindingUnchanged PlanFingerprint.sameBinding
  simp only [h, decide_true, Bool.and_self]

theorem unchanged_limits {plan : EffectivePlan} (h : bindingUnchanged old plan = true) :
    old.plan.burstTokens = plan.burstTokens ∧ old.plan.ceilingUps = plan.ceilingUps := by
  unfold bindingUnchanged at h
  simp only [Bool.and_eq_true, decide_eq_true_eq] at h
  exact ⟨h.2, h.1.2⟩

theorem filled_of_replenishes (hreachable : Reachable s) (h : Replenishes id s action old)
    (hplan : old.hasPlan = true) (hstep : step s action = some t)
    (hfind : s.engine.tables.envelopes.find id.value = some old)
    (hfind' : t.engine.tables.envelopes.find id.value = some new) :
    new.bucket.tokens = old.bucket.capacity ∧ bindingUnchanged old new.plan = true := by
  obtain ⟨actor, now, session, hevent, hunchanged⟩ := h.unchanged
  have hfunded := (allAccounted_of_reachable hreachable id.value old hfind).funded hplan
  obtain rfl := dispatched_step hfind hevent h.dispatches hstep hfind'
  unfold plannedEnvelope
  rw [if_pos hunchanged]
  exact ⟨hfunded.capacity.symm, bindingUnchanged_self hplan⟩

/-- Whatever else happens to an envelope, only ticks and new plans add to its balance, unless an
apply replenishes it. -/
theorem credited_of_other (hreachable : Reachable s)
    (hother : ∀ tokens now, action.event ≠ .consumeBurst id tokens now)
    (hstep : step s action = some t) (hfind : s.engine.tables.envelopes.find id.value = some old)
    (hfind' : t.engine.tables.envelopes.find id.value = some new)
    (hfull : Discrete old → ¬Replenishes id s action old) : CreditedOnTick id s action old new := by
  intro hdiscrete hgained
  rw [spentBy_of_other hother hstep, Nat.add_zero] at hgained
  have haccounted := allAccounted_of_reachable hreachable id.value old hfind
  have hfunded := haccounted.funded hdiscrete.1
  have hrevised := revised_step hfind hreachable.idsAhead hstep hfind'
  cases hrevised with
  | kept hsame =>
    rw [hsame.bucket] at hgained
    exact absurd hgained (Nat.lt_irrefl _)
  | emptied hbucket =>
    rw [hbucket] at hgained
    exact absurd hgained (Nat.not_lt_zero _)
  | refilled hevent => exact .inl ⟨_, _, hevent⟩
  | spent hevent => exact absurd hevent (hother _ _)
  | @authorized actor now plan hevent =>
    have hbucket := bucket_authorizedEnvelope old plan now
    split at hbucket
    · next hconfigures =>
      refine .inr ⟨.inl ⟨actor, now, hevent⟩, ?_, now, ?_⟩
      · rw [(plan_authorizedEnvelope old plan now).1, ← Bool.not_eq_true]
        intro hunchanged
        obtain ⟨hburst, hceiling⟩ := unchanged_limits hunchanged
        simp only [hfunded.known, hfunded.capacity, hfunded.rate, hburst, hceiling, ne_eq, not_true,
          decide_false, Bool.not_true, Bool.or_self, Bool.false_eq_true] at hconfigures
      · rw [(plan_authorizedEnvelope old plan now).1]
        exact hbucket
    · rw [hbucket] at hgained
      exact absurd hgained (Nat.lt_irrefl _)
  | @dispatched actor now session plan hevent hdispatches hderived =>
    by_cases hunchanged : bindingUnchanged old plan = true
    · have hroom : old.bucket.tokens < old.bucket.capacity := by
        unfold plannedEnvelope at hgained
        rw [if_pos hunchanged] at hgained
        have hgained : old.bucket.tokens.toNat < old.plan.burstTokens.toNat := hgained
        rw [← hfunded.capacity] at hgained
        exact UInt64.lt_iff_toNat_lt.2 hgained
      rw [hderived] at hunchanged
      exact absurd ⟨hdispatches, ⟨actor, now, session, hevent, hunchanged⟩, hroom⟩ (hfull hdiscrete)
    · refine .inr ⟨.inr ⟨actor, now, session, hevent⟩, ?_, now, rfl⟩
      have hplan : (dispatchingEnvelope (plannedEnvelope old plan) now).plan = plan := by
        unfold plannedEnvelope
        rw [if_neg hunchanged]
        rfl
      rw [hplan]
      exact Bool.not_eq_true _ ▸ hunchanged

/-- A step credits a discrete bucket on a tick or with a new plan only, exactly when it is no
`consume_burst` that comes to the bucket while something is due, and no apply that fills it under
the plan it has had. -/
theorem discrete_refill_iff (hreachable : Reachable s) (hstep : step s action = some t)
    (hfind : s.engine.tables.envelopes.find id.value = some old)
    (hfind' : t.engine.tables.envelopes.find id.value = some new) :
    CreditedOnTick id s action old new ↔ Caught id s action old := by
  by_cases hconsumes : ∃ tokens now, action.event = .consumeBurst id tokens now
  · obtain ⟨tokens, now, hevent⟩ := hconsumes
    have hwithin := (allAccounted_of_reachable hreachable id.value old hfind).within
    have hnever : ¬((∃ now session, action.event = .tick now session) ∨
        Installs id action old new) := by
      rintro (⟨_, _, h⟩ | ⟨⟨_, _, h⟩ | ⟨_, _, _, h⟩, -⟩) <;> rw [hevent] at h <;> cases h
    have hquiet : ¬Replenishes id s action old := by
      rintro ⟨-, ⟨_, _, _, h, -⟩, -⟩
      rw [hevent] at h
      cases h
    have hsame {tokens' now' : U64} (h : action.event = .consumeBurst id tokens' now') :
        now' = now := by
      rw [hevent] at h
      cases h
      rfl
    obtain ⟨hserved, hbalance⟩ | ⟨hunserved, hbucket, hspent⟩ :=
      balance_consumed hfind hevent hstep hfind'
    · unfold CreditedOnTick Caught
      rw [hbalance, refilled_iff hwithin]
      constructor
      · intro hcredited hdiscrete
        refine ⟨fun tokens' now' hevent' _ hdue ↦ ?_, hquiet⟩
        rw [hsame hevent'] at hdue
        exact hnever (hcredited hdiscrete hdue)
      · intro hcaught hdiscrete hdue
        exact absurd hdue ((hcaught hdiscrete).1 tokens now hevent hserved)
    · refine iff_of_true (fun _ hgained ↦ ?_)
        fun _ ↦ ⟨fun tokens' now' hevent' hserved ↦ ?_, hquiet⟩
      · rw [hbucket, hspent] at hgained
        exact absurd hgained (Nat.lt_irrefl _)
      · rw [hsame hevent'] at hserved
        exact absurd hserved hunserved
  · have hother (tokens now : U64) : action.event ≠ .consumeBurst id tokens now :=
      fun h ↦ hconsumes ⟨tokens, now, h⟩
    constructor
    · intro hcredited hdiscrete
      refine ⟨fun tokens now hevent ↦ absurd hevent (hother tokens now), fun hreplenishes ↦ ?_⟩
      obtain ⟨hfull, hunchanged⟩ :=
        filled_of_replenishes hreachable hreplenishes hdiscrete.1 hstep hfind hfind'
      have hroom := UInt64.lt_iff_toNat_lt.1 hreplenishes.room
      obtain ⟨_, _, htick⟩ | hinstalls := hcredited hdiscrete
        (hfull ▸ Nat.lt_of_lt_of_le hroom (Nat.le_add_right _ _))
      · obtain ⟨_, _, _, hevent, -⟩ := hreplenishes.unchanged
        rw [htick] at hevent
        cases hevent
      · rw [hinstalls.changed] at hunchanged
        cases hunchanged
    · exact fun hcaught ↦ credited_of_other hreachable hother hstep hfind hfind'
        fun hdiscrete ↦ (hcaught hdiscrete).2

section Sample

def registerDiscrete : List Action :=
  [⟨.putFlow sampleFlow, []⟩, ⟨.putGrant sampleGrant, []⟩, ⟨.putResource sampleResource, []⟩,
    ⟨.putPolicy { samplePolicy with refill := .discreteTickBucket }, []⟩,
    ⟨.putBackend sampleBackend, []⟩]

/-- An envelope is opened on them, and its apply confirmed. -/
def applyDiscrete : List Action :=
  registerDiscrete ++ [⟨.openEnvelope sampleRequest actor 5, []⟩, ⟨.apply ⟨1⟩ actor 5 {}, []⟩,
    ⟨.dispatched 0 { status := .completed }, []⟩, ⟨.readClock 0 6, []⟩,
    ⟨.finish 0, []⟩, ⟨.readBack 0 samplePresent 6, []⟩, ⟨.publish 0 6, []⟩]

/-- The whole burst is spent at once. -/
def spendAll : Action := ⟨.consumeBurst ⟨1⟩ 10 6, []⟩

theorem credited_on_tick_sample : ∃ s t old new, run step sampleStart applyDiscrete = some s ∧
    step s spendAll = some t ∧ s.engine.tables.envelopes.find 1 = some old ∧
    t.engine.tables.envelopes.find 1 = some new ∧ Discrete old ∧ new.bucket.tokens = 0 ∧
    CreditedOnTick ⟨1⟩ s spendAll old new := by
  obtain ⟨s, old, hrun, hfind, hold⟩ : ∃ s old, run step sampleStart applyDiscrete = some s ∧
      s.engine.tables.envelopes.find 1 = some old ∧
      (decide (Discrete old) && decide (old.bucket.tokens = old.bucket.capacity)) = true :=
    of_observe (by decide +kernel)
  obtain ⟨t, new, hrun', hfind', hnew⟩ : ∃ t new,
      run step sampleStart (applyDiscrete ++ [spendAll]) = some t ∧
      t.engine.tables.envelopes.find 1 = some new ∧
      decide (new.bucket.tokens = 0) = true := of_observe (by decide +kernel)
  rw [run_append hrun, run_singleton] at hrun'
  simp only [Bool.and_eq_true, decide_eq_true_eq] at hold hnew
  have hfull (now : U64) : ¬Due old.bucket now := by
    rintro ⟨-, hroom, -⟩
    rw [hold.2] at hroom
    exact UInt64.lt_irrefl _ hroom
  have hspends : ¬Replenishes ⟨1⟩ s spendAll old := by
    rintro ⟨-, ⟨_, _, _, h, -⟩, -⟩
    cases h
  exact ⟨s, t, old, new, hrun, hrun', hfind, hfind', hold.1, hnew,
    (@discrete_refill_iff s t spendAll old new ⟨1⟩ (reachable_of_run fresh_sampleStart hrun) hrun'
      hfind hfind').2 fun _ ↦ ⟨fun _ now _ _ ↦ hfull now, hspends⟩⟩

def askAgain : Action := ⟨.consumeBurst ⟨1⟩ 11 100000006, []⟩

/-- The refused request leaves the discrete bucket full, and no tick has come by. -/
theorem credited_by_refused_request : ¬∀ s action t id old new, Reachable s →
    step s action = some t → s.engine.tables.envelopes.find id.value = some old →
    t.engine.tables.envelopes.find id.value = some new →
    CreditedOnTick id s action old new := by
  intro h
  obtain ⟨s, old, hrun, hfind, hold⟩ : ∃ s old,
      run step sampleStart (applyDiscrete ++ [spendAll]) = some s ∧
      s.engine.tables.envelopes.find 1 = some old ∧
      (decide (Discrete old) && decide (old.bucket.tokens = 0)) = true :=
    of_observe (by decide +kernel)
  obtain ⟨t, new, hrun', hfind', hnew⟩ : ∃ t new,
      run step sampleStart (applyDiscrete ++ [spendAll] ++ [askAgain]) = some t ∧
      t.engine.tables.envelopes.find 1 = some new ∧
      decide (new.bucket.tokens = 10) = true := of_observe (by decide +kernel)
  rw [run_append hrun, run_singleton] at hrun'
  simp only [Bool.and_eq_true, decide_eq_true_eq] at hold hnew
  have hgained : old.bucket.tokens.toNat < new.bucket.tokens.toNat + spentBy ⟨1⟩ s askAgain := by
    rw [hold.2, hnew]
    exact Nat.lt_of_lt_of_le (by decide : (0 : U64).toNat < (10 : U64).toNat) (Nat.le_add_right _ _)
  obtain ⟨_, _, htick⟩ | ⟨⟨_, _, hinstalls⟩ | ⟨_, _, _, hinstalls⟩, -⟩ :=
    h s askAgain t ⟨1⟩ old new (reachable_of_run fresh_sampleStart hrun) hrun' hfind hfind'
      hold.1 hgained
  · cases htick
  · cases hinstalls
  · cases hinstalls

end Sample

end Runs

end RateGovernor.Safety.TickRefill
