import RateGovernor.Dynamics.Buckets
import RateGovernor.Dynamics.Issue
import RateGovernor.Dynamics.Scaling

namespace RateGovernor.Dynamics.Balances

open Model.CheckedMath Model.Bucket Model.Identity Model.Reason Model.Entities Model.Envelope
open Model.EngineState Model.JournalWriter Model.Durability Model.Authority Model.Calls
open Model.Lifecycle Model.Completion Model.Revocation Model.Maintenance Model.Execution
open Model.Journal Foundation.KeyedTable Install Sections Staging Turns Evolution Bindings Issue
open Plans Buckets Scaling

variable {s t : System} {action : Action} {old new : RateEnvelope} {now k : U64}
  {bucket refilled : TokenBucket} {granted : U64} {id : RateEnvelopeId}

section Wealth

def second : ℕ := 1000000000

/-- A balance with its fraction, in parts of a token that one unit of rate earns in a nanosecond. -/
def wealth (bucket : TokenBucket) : ℕ :=
  bucket.tokens.toNat * second + bucket.fractionalNumerator.toNat

theorem toNat_second : kNanosecondsPerSecond.toNat = second := rfl

theorem wealth_configureBucket (capacity rateUps now : U64) :
    wealth (configureBucket capacity rateUps now) = capacity.toNat * second := Nat.add_zero _

theorem capped_toNat_le (capacity filled : U64) :
    (capped capacity filled).toNat ≤ filled.toNat := by
  unfold capped
  split
  · next h => exact Nat.le_of_lt (UInt64.lt_iff_toNat_lt.1 h)
  · exact Nat.le_refl _

theorem Refills.wealth_le (h : Refills bucket now refilled granted)
    (hfraction : bucket.fractionalNumerator < kNanosecondsPerSecond) :
    wealth refilled ≤ wealth bucket +
      bucket.rateUps.toNat * (now.toNat - bucket.lastRefillNs.toNat) := by
  have hcapped := capped_toNat_le bucket.capacity
  have helapsed (hdue : bucket.lastRefillNs ≤ now) :
      (now - bucket.lastRefillNs).toNat = now.toNat - bucket.lastRefillNs.toNat :=
    UInt64.toNat_sub_of_le _ _ hdue
  have hspec := @mulDivMod_spec (now - bucket.lastRefillNs) bucket.rateUps kNanosecondsPerSecond
    (by decide)
  cases h with
  | first =>
    have hmul := Nat.mul_le_mul_right second (hcapped bucket.tokens)
    exact Nat.le_trans (Nat.add_le_add_right hmul _) (Nat.le_add_right _ _)
  | regressed => exact Nat.le_add_right _ _
  | idle =>
    have hmul := Nat.mul_le_mul_right second (hcapped bucket.tokens)
    exact Nat.le_trans (Nat.add_le_add_right hmul _) (Nat.le_add_right _ _)
  | flooded known due product =>
    obtain ⟨-, hflood⟩ | ⟨scaled, hsome, -⟩ := hspec
    · rw [helapsed due, toNat_second, Nat.mul_comm (now.toNat - _)] at hflood
      have hlt := bucket.capacity.toNat_lt
      have hmul := Nat.mul_le_mul_right second (Nat.le_of_lt hlt)
      show bucket.capacity.toNat * second + 0 ≤ _
      omega
    · rw [product] at hsome
      cases hsome
  | @earned scaled known due product =>
    obtain ⟨hnone, -⟩ | ⟨scaled', hsome, hexact, hrest⟩ := hspec
    · rw [product] at hnone
      cases hnone
    · rw [product] at hsome
      cases hsome
      rw [helapsed due, toNat_second, Nat.mul_comm (now.toNat - _)] at hexact
      have hfraction := UInt64.lt_iff_toNat_lt.1 hfraction
      have hrest := UInt64.lt_iff_toNat_lt.1 hrest
      rw [toNat_second] at hfraction hrest
      have hcarry : (bucket.fractionalNumerator + scaled.remainder).toNat =
          bucket.fractionalNumerator.toNat + scaled.remainder.toNat := by
        rw [UInt64.toNat_add, Nat.mod_eq_of_lt]
        simp only [second] at hfraction hrest
        omega
      generalize hc : bucket.fractionalNumerator + scaled.remainder = carry at hcarry
      have hfilled : (saturatingAdd bucket.tokens
          (saturatingAdd scaled.quotient (carry / kNanosecondsPerSecond))).toNat ≤
          bucket.tokens.toNat + scaled.quotient.toNat + carry.toNat / second := by
        rw [toNat_saturatingAdd, toNat_saturatingAdd, UInt64.toNat_div, toNat_second]
        omega
      have hmul := Nat.mul_le_mul_right second (Nat.le_trans (hcapped _) hfilled)
      rw [Nat.add_mul, Nat.add_mul] at hmul
      have hsplit := Nat.div_add_mod' carry.toNat second
      have hleft : (carry % kNanosecondsPerSecond).toNat = carry.toNat % second :=
        UInt64.toNat_mod _ _
      unfold wealth
      simp only [hleft]
      omega

theorem Refills.anchored (h : Refills bucket now refilled granted)
    (hdue : bucket.lastRefillNs ≤ now) : refilled.lastRefillNs = now := by
  cases h with
  | regressed _ early => exact absurd early (UInt64.not_lt.2 hdue)
  | first => rfl
  | idle => rfl
  | flooded => rfl
  | earned => rfl

theorem refillBucket_early (hknown : bucket.initialized = true) (h : now < bucket.lastRefillNs) :
    (refillBucket bucket now).1 = bucket := by
  unfold refillBucket
  rw [if_neg (by rw [hknown]; exact nofun), if_pos h]

theorem wealth_spent {amount : U64} (h : amount ≤ bucket.tokens) :
    wealth { bucket with tokens := bucket.tokens - amount } + amount.toNat * second =
      wealth bucket := by
  have hle := Nat.mul_le_mul_right second (UInt64.le_iff_toNat_le.1 h)
  show (bucket.tokens - amount).toNat * second + bucket.fractionalNumerator.toNat +
    amount.toNat * second = wealth bucket
  rw [UInt64.toNat_sub_of_le _ _ h, Nat.sub_mul]
  unfold wealth
  omega

end Wealth

section Revisions

def isCreated : Staged → Bool
  | .created _ => true
  | _ => false

def dispatchesApply (id : RateEnvelopeId) (s : System) (action : Action) : Bool :=
  match action.event with
  | .apply envelope actor now session =>
    let decision := apply s.engine envelope actor now session
    envelope = id && decision.records.any isCreated &&
      (decision.commit s.engine action.io).status.isNone
  | _ => false

/-- What a step can do to the plan and the bucket of a stored envelope. -/
inductive Revised (s : System) (action : Action) (id : RateEnvelopeId) (old : RateEnvelope) :
    RateEnvelope → Prop
  | kept {new : RateEnvelope} (same : SameAccount old new) : Revised s action id old new
  | emptied {new : RateEnvelope} (bucket : new.bucket = { old.bucket with tokens := 0 })
      (plan : SamePlan old new) : Revised s action id old new
  | refilled {new : RateEnvelope} {now : U64} {session : Session}
      (event : action.event = .tick now session)
      (bucket : new.bucket = (refillBucket old.bucket now).1) (plan : SamePlan old new) :
      Revised s action id old new
  | spent {new : RateEnvelope} {tokens amount now : U64}
      (event : action.event = .consumeBurst id tokens now)
      (covered : amount ≤ (refillBucket old.bucket now).1.tokens)
      (bucket : new.bucket = { (refillBucket old.bucket now).1 with
        tokens := (refillBucket old.bucket now).1.tokens - amount })
      (plan : SamePlan old new) : Revised s action id old new
  | authorized {actor : ActorContext} {now : U64} (plan : EffectivePlan)
      (event : action.event = .authorize id actor now) :
      Revised s action id old (authorizedEnvelope old plan now)
  | dispatched {actor : ActorContext} {now : U64} {session : Session} (plan : EffectivePlan)
      (event : action.event = .apply id actor now session)
      (dispatches : dispatchesApply id s action = true) (derived : plan = planNow s old now) :
      Revised s action id old (dispatchingEnvelope (plannedEnvelope old plan) now)

theorem named_eq {named : RateEnvelopeId}
    (hfind : s.engine.tables.envelopes.find id.value = some old)
    (hfound : s.engine.tables.envelopes.find named.value = some old) : named = id := by
  have hid := Registry.key_of_find hfind
  have hnamed := Registry.key_of_find hfound
  exact StrongId.eq_of_value (hnamed.symm.trans hid)

theorem find_last {config : EngineConfig} {tables : Tables} {front : List Staged}
    {type : JournalRecordType} {envelope : RateEnvelope}
    (hfront : ∀ record ∈ front, ∀ e, envelope? record = some e → e.id = envelope.id)
    (hfind : (installed config tables (front ++ [.envelope type envelope])).envelopes.find k =
      some new) :
    (envelope.id.value = k ∧ new = envelope) ∨ tables.envelopes.find k = some new := by
  rw [(installed_registries _ _).2.2.2.2.2.2] at hfind
  unfold Registry.putAll at hfind
  rw [List.foldl_append, List.foldl_cons, List.foldl_nil] at hfind
  simp only [envelope?, Registry.putSome, Registry.find_put] at hfind
  split at hfind
  · next hkey =>
    cases hfind
    exact .inl ⟨hkey, rfl⟩
  · next hother =>
    obtain ⟨record, hmem, hrecord⟩ | hold := Registry.find_putAll hfind
    · have hkey := Registry.key_of_find hfind
      rw [hfront record hmem new hrecord] at hkey
      exact absurd hkey hother
    · exact .inr hold

theorem find_singleton {config : EngineConfig} {tables : Tables} {type : JournalRecordType}
    {envelope : RateEnvelope} (hfind : (installed config tables
      [.envelope type envelope]).envelopes.find k = some new) :
    (envelope.id.value = k ∧ new = envelope) ∨ tables.envelopes.find k = some new := by
  rw [← List.nil_append [Staged.envelope type envelope]] at hfind
  exact find_last (fun _ hmem ↦ absurd hmem List.not_mem_nil) hfind

variable (hfind : s.engine.tables.envelopes.find id.value = some old)

include hfind

theorem revised_of_unchanged (hfind' : s.engine.tables.envelopes.find id.value = some new) :
    Revised s action id old new := by
  rw [hfind] at hfind'
  cases hfind'
  exact .kept (sameAccount_rfl _)

theorem revised_of_stages {type} (hstages : Stages s action.event (.envelope type new))
    (htype : type ≠ .envelopeOpened) (hkey : new.id.value = id.value)
    (hspends : ∀ id tokens now, action.event ≠ .consumeBurst id tokens now)
    (happlies : ∀ id actor now session, action.event ≠ .apply id actor now session) :
    Revised s action id old new := by
  have same {k : U64} {stored : RateEnvelope}
      (hstored : s.engine.tables.envelopes.find k = some stored)
      (hbinding : binding new = binding stored) : stored = old :=
    stored_eq hstored hbinding (hkey.symm ▸ hfind)
  have kept {k : U64} {stored : RateEnvelope}
      (hstored : s.engine.tables.envelopes.find k = some stored)
      (hbinding : binding new = binding stored) (hsame : SameAccount stored new) :
      Revised s action id old new := .kept (same hstored hbinding ▸ hsame)
  obtain ⟨event, io⟩ := action
  cases hstages with
  | opened => exact absurd rfl htype
  | epochDemoted hfound hdemoted =>
    exact kept hfound (binding_of_epochDemoted hdemoted) (sameAccount_of_epochDemoted hdemoted)
  | unauthorized hfound => exact kept hfound rfl ⟨rfl, rfl, rfl⟩
  | @authorized named actor now envelope hfound hplan =>
    obtain rfl := same hfound (binding_authorizedEnvelope _ _ _)
    obtain rfl := named_eq hfind hfound
    exact .authorized _ rfl
  | denied => exact absurd rfl (happlies _ _ _ _)
  | planned => exact absurd rfl (happlies _ _ _ _)
  | dispatching => exact absurd rfl (happlies _ _ _ _)
  | lateFinishEnvelope finishing =>
    exact kept finishing.storedEnvelope (binding_lateEnvelope _ _ _ _)
      (sameAccount_lateEnvelope _ _ _ _)
  | refusedApplyEnvelope accepted => exact kept accepted.storedEnvelope rfl ⟨rfl, rfl, rfl⟩
  | latePublishEnvelope publishing =>
    exact kept publishing.storedEnvelope (binding_lateEnvelope _ _ _ _)
      (sameAccount_lateEnvelope _ _ _ _)
  | judgedApplyEnvelope judged =>
    exact kept judged.storedEnvelope (binding_judgeApply _ _ _ _ _ _)
      (sameAccount_judgeApply _ _ _ _ _ _)
  | revoking admitted => exact kept admitted.found rfl ⟨rfl, rfl, rfl⟩
  | refusedRevokeEnvelope finishing => exact kept finishing.storedEnvelope rfl ⟨rfl, rfl, rfl⟩
  | judgedRevokeEnvelope publishing =>
    obtain rfl := same publishing.storedEnvelope (binding_judgedRevokeEnvelope _ _ _ _)
    unfold judgedRevokeEnvelope
    simp only
    split
    · exact .emptied rfl ⟨rfl, rfl⟩
    · exact .kept ⟨rfl, rfl, rfl⟩
  | abandonedEnvelope _ hnamed => exact kept hnamed rfl ⟨rfl, rfl, rfl⟩
  | consumed => exact absurd rfl (hspends _ _ _)
  | sessionLost hfound hlost =>
    exact kept hfound (binding_of_sessionLost hlost) (sameAccount_of_sessionLost hlost)
  | tickLost hfound hlost =>
    exact kept hfound (binding_of_sessionLost hlost) (sameAccount_of_sessionLost hlost)
  | @tickMaintained now session envelope hfound =>
    obtain rfl := same hfound (binding_maintained _ _ _)
    have hbucket := bucket_maintained s.engine.tables envelope now
    split at hbucket
    · exact .refilled rfl hbucket (samePlan_maintained _ _ _)
    · exact .kept ⟨hbucket, samePlan_maintained _ _ _⟩
  | tickExpiredEnvelope _ _ hnamed => exact kept hnamed rfl ⟨rfl, rfl, rfl⟩
  | revalidated revalidating =>
    exact kept revalidating.storedEnvelope (binding_judgeRevalidation _ _ _ _ _)
      (sameAccount_judgeRevalidation _ _ _ _ _)
  | shutdownEnvelope _ hnamed => exact kept hnamed rfl ⟨rfl, rfl, rfl⟩

theorem revised_consumeBurst {named : RateEnvelopeId} {tokens : U64}
    (hevent : action.event = .consumeBurst named tokens now)
    (hfind' : (installed s.engine.config s.engine.tables
      (consumeBurst s.engine named tokens now).records).envelopes.find id.value = some new) :
    Revised s action id old new := by
  obtain hnone | ⟨stored, hstored, hspends⟩ := consumeBurst_cases s named tokens now
  · obtain ⟨control, result, heq⟩ := hnone
    rw [heq] at hfind'
    exact revised_of_unchanged hfind hfind'
  · have hkey := Registry.key_of_find hstored
    have same (hnamed : stored.id.value = id.value) : named = id ∧ stored = old := by
      have hstored' := hstored
      rw [← hkey, hnamed, hfind] at hstored'
      cases hstored'
      exact ⟨named_eq hfind hstored, rfl⟩
    obtain ⟨-, heq, -⟩ | ⟨hcovered, heq⟩ := hspends
    · rw [heq] at hfind'
      obtain ⟨hnamed, rfl⟩ | hold := find_singleton hfind'
      · obtain ⟨rfl, rfl⟩ := same hnamed
        have hnothing : 0 ≤ (refillBucket stored.bucket now).1.tokens :=
          UInt64.le_iff_toNat_le.2 (Nat.zero_le _)
        refine .spent hevent hnothing ?_ ⟨rfl, rfl⟩
        rw [UInt64.sub_zero]
      · exact revised_of_unchanged hfind hold
    · rw [heq] at hfind'
      obtain ⟨hnamed, rfl⟩ | hold := find_singleton hfind'
      · obtain ⟨rfl, rfl⟩ := same hnamed
        exact .spent hevent hcovered rfl ⟨rfl, rfl⟩
      · exact revised_of_unchanged hfind hold

theorem revised_apply {named : RateEnvelopeId} {actor : ActorContext} {session : Session}
    (hevent : action.event = .apply named actor now session)
    (hcommit : ((apply s.engine named actor now session).commit s.engine action.io).status = none)
    (hfind' : (installed s.engine.config s.engine.tables
      (apply s.engine named actor now session).records).envelopes.find id.value = some new) :
    Revised s action id old new := by
  obtain hnone | ⟨stored, backend, admitted, heq⟩ := apply_cases s named actor now session
  · obtain ⟨control, result, heq⟩ := hnone
    rw [heq] at hfind'
    exact revised_of_unchanged hfind hfind'
  · have hkey := Registry.key_of_find admitted.found
    have same (hnamed : stored.id.value = id.value) : named = id ∧ stored = old := by
      have hstored := admitted.found
      rw [← hkey, hnamed, hfind] at hstored
      cases hstored
      exact ⟨named_eq hfind admitted.found, rfl⟩
    have hunfolded := heq
    unfold dispatchApply at hunfolded
    simp only at hunfolded
    split at hunfolded
    · rw [hunfolded] at hfind'
      obtain ⟨hnamed, rfl⟩ | hold := find_singleton hfind'
      · obtain ⟨rfl, rfl⟩ := same hnamed
        exact .kept ⟨rfl, rfl, rfl⟩
      · exact revised_of_unchanged hfind hold
    · have hcreated : (apply s.engine named actor now session).records.any isCreated = true := by
        rw [hunfolded, publish, List.any_append]
        exact Bool.or_true _
      rw [hunfolded, publish, List.append_cons] at hfind'
      have hlast := find_last ?_ hfind'
      · obtain ⟨hnamed, rfl⟩ | hold := hlast
        · have hid : stored.id.value = id.value :=
            (congrArg (·.id.value) (binding_plannedEnvelope stored _)).symm.trans hnamed
          obtain ⟨rfl, rfl⟩ := same hid
          refine .dispatched _ hevent ?_ rfl
          unfold dispatchesApply
          rw [hevent]
          simp only [decide_true, hcreated, hcommit, Option.isNone_none, Bool.and_self]
        · exact revised_of_unchanged hfind hold
      · intro record hmem e he
        obtain hmem | hmem := List.mem_append.1 hmem
        · split at hmem
          · cases hmem
          · obtain rfl := List.mem_singleton.1 hmem
            cases he
            rfl
        · obtain rfl := List.mem_singleton.1 hmem
          cases he

theorem dispatched_step {actor : ActorContext} {session : Session}
    (hevent : action.event = .apply id actor now session)
    (hdispatches : dispatchesApply id s action = true) (hstep : step s action = some t)
    (hfind' : t.engine.tables.envelopes.find id.value = some new) :
    new = dispatchingEnvelope (plannedEnvelope old (planNow s old now)) now := by
  unfold dispatchesApply at hdispatches
  rw [hevent] at hdispatches
  simp only [decide_true, Bool.true_and, Bool.and_eq_true] at hdispatches
  obtain ⟨hcreated, hcommit⟩ := hdispatches
  obtain ⟨decision, hsection, hturn⟩ := turn_of_step hstep
  rw [hevent] at hsection
  cases hsection
  obtain ⟨control, result, heq⟩ | ⟨stored, backend, admitted, heq⟩ :=
    apply_cases s id actor now session
  · rw [heq] at hcreated
    cases hcreated
  · have hfound := admitted.found
    rw [hfind] at hfound
    cases hfound
    unfold dispatchApply at heq
    simp only at heq
    split at heq
    · rw [heq] at hcreated
      cases hcreated
    · cases hturn with
      | quiet hempty =>
        have hempty : (apply s.engine id actor now session).records = [] := hempty
        rw [hempty] at hcreated
        cases hcreated
      | failed _ hfailed =>
        have hfailed : ((apply s.engine id actor now session).commit s.engine
          action.io).status = some _ := hfailed
        rw [hfailed] at hcommit
        cases hcommit
      | committed =>
        have hfind' : (installed s.engine.config s.engine.tables
          (apply s.engine id actor now session).records).envelopes.find id.value = some new := hfind'
        have hsame : (plannedEnvelope old (planNow s old now)).id = old.id :=
          congrArg Binding.id (binding_plannedEnvelope old _)
        have hstored := Registry.key_of_find hfind
        have hkey : (dispatchingEnvelope (plannedEnvelope old (planNow s old now)) now).id.value =
            id.value := (congrArg (·.value) hsame).trans hstored
        rw [heq, publish, List.append_cons, (installed_registries _ _).2.2.2.2.2.2] at hfind'
        unfold Registry.putAll at hfind'
        rw [List.foldl_append, List.foldl_cons, List.foldl_nil] at hfind'
        simp only [envelope?, Registry.putSome, Registry.find_put] at hfind'
        exact (Option.some.inj ((if_pos hkey).symm.trans hfind')).symm

theorem revised_step (hids : IdsAhead s) (hstep : step s action = some t)
    (hfind' : t.engine.tables.envelopes.find id.value = some new) :
    Revised s action id old new := by
  obtain ⟨decision, hsection, hturn⟩ := turn_of_step hstep
  have general (hspends : ∀ id tokens now, action.event ≠ .consumeBurst id tokens now)
      (happlies : ∀ id actor now session, action.event ≠ .apply id actor now session) :
      Revised s action id old new := by
    obtain rfl | ⟨type, hstages, htype⟩ := replaced_step hids hstep hfind hfind'
    · exact .kept (sameAccount_rfl _)
    · have hkey := Registry.key_of_find hfind'
      exact revised_of_stages hfind hstages htype hkey hspends happlies
  cases hevent : action.event with
  | consumeBurst named tokens now =>
    rw [hevent] at hsection
    cases hsection
    cases hturn with
    | quiet => exact revised_of_unchanged hfind hfind'
    | failed => exact revised_of_unchanged hfind hfind'
    | committed => exact revised_consumeBurst hfind hevent hfind'
  | apply named actor now session =>
    rw [hevent] at hsection
    cases hsection
    cases hturn with
    | quiet => exact revised_of_unchanged hfind hfind'
    | failed => exact revised_of_unchanged hfind hfind'
    | committed hrecords hstatus => exact revised_apply hfind hevent hstatus hfind'
  | _ => exact general (by rw [hevent]; exact nofun) (by rw [hevent]; exact nofun)

omit hfind in
theorem opened_step (hnone : s.engine.tables.envelopes.find k = none)
    (hstep : step s action = some t) (hfind' : t.engine.tables.envelopes.find k = some new) :
    new.hasPlan = false ∧ new.bucket = {} := by
  obtain hold | ⟨type, hstages⟩ := envelope_step hstep hfind'
  · rw [hnone] at hold
    cases hold
  · obtain ⟨-, -, request, now, rfl⟩ | ⟨old, hold, -⟩ := binding_of_stages hstages
    · exact ⟨rfl, rfl⟩
    · have hkey := Registry.key_of_find hfind'
      rw [hkey, hnone] at hold
      cases hold

end Revisions

section Spending

/-- The tokens that `consume_burst` grants this envelope in the section of the action. -/
def spentBy (id : RateEnvelopeId) (s : System) (action : Action) : ℕ :=
  match action.event with
  | .consumeBurst envelope tokens now =>
    if envelope = id then
      match ((consumeBurst s.engine envelope tokens now).perform s.engine action.io).2.1.1 with
      | .ok _ => tokens.toNat
      | .error _ => 0
    else 0
  | _ => 0

/-- What `consume_burst` has checked when it grants the tokens, and what it then records. -/
structure BurstGranted (s : System) (id : RateEnvelopeId) (tokens now left : U64)
    (old : RateEnvelope) : Prop where
  running : s.engine.control.shuttingDown = false
  found : s.engine.tables.envelopes.find id.value = some old
  active : old.state = .applied ∨ old.state = .degraded
  current : authorityStatus s.engine.tables old now = .none
  covered : tokens ≤ (refillBucket old.bucket now).1.tokens
  remaining : left = (refillBucket old.bucket now).1.tokens - tokens
  records : (consumeBurst s.engine id tokens now).records = [.envelope .envelopeCounters { old with
    bucket := { (refillBucket old.bucket now).1 with
      tokens := (refillBucket old.bucket now).1.tokens - tokens }
    updatedNs := now }]

theorem consumeBurst_ok {tokens left : U64} {status : Status}
    (h : ((consumeBurst s.engine id tokens now).reply status).1 = .ok left) :
    status = none ∧ ∃ old, BurstGranted s id tokens now left old := by
  obtain ⟨records, hrecords⟩ : ∃ records, (consumeBurst s.engine id tokens now).records = records :=
    ⟨_, rfl⟩
  have hgiven := hrecords
  unfold consumeBurst at h hrecords
  simp only at h hrecords
  split at h
  · cases h
  · next hrunning =>
    rw [if_neg hrunning] at hrecords
    split at h
    · cases h
    · next old hfound =>
      split at h
      · cases h
      · next hactive =>
        split at h
        · cases h
        · next hcurrent =>
          split at h
          · cases status <;> cases h
          · next spent hspent =>
            cases status with
            | some error => cases h
            | none =>
              have hcovered := hspent
              unfold tryConsume at hcovered
              split at hcovered
              · cases hcovered
              · next hcovers =>
                simp only [hfound, if_neg hactive, if_neg hcurrent, hspent] at hrecords
                cases hcovered
                cases h
                refine ⟨rfl, old, by simpa using hrunning, hfound, ?_, not_not.1 hcurrent,
                  UInt64.not_lt.1 hcovers, rfl, hgiven.trans hrecords.symm⟩
                simp only [ne_eq, Bool.and_eq_true, decide_eq_true_eq, not_and_or, not_not]
                  at hactive
                exact hactive

theorem perform_answer {ρ : Type} (decision : Decision ρ) (engine : Engine) (io : Io) :
    ∃ status, (decision.perform engine io).2.1 = decision.reply status ∧
      (status = none → decision.records ≠ [] →
        (decision.commit engine io).status = none ∧ (decision.perform engine io).1.tables =
          installed engine.config engine.tables decision.records) := by
  unfold Decision.perform
  split
  · next hempty => exact ⟨none, rfl, fun _ hne ↦ absurd (List.isEmpty_iff.1 hempty) hne⟩
  · simp only
    split
    · exact ⟨_, rfl, nofun⟩
    · next hstatus => exact ⟨none, rfl, fun _ _ ↦ ⟨hstatus, rfl⟩⟩

theorem spent_step (hstep : step s action = some t) (h : spentBy id s action ≠ 0) :
    ∃ tokens now old new, action.event = .consumeBurst id tokens now ∧
      spentBy id s action = tokens.toNat ∧
      s.engine.tables.envelopes.find id.value = some old ∧
      t.engine.tables.envelopes.find id.value = some new ∧
      tokens ≤ (refillBucket old.bucket now).1.tokens ∧
      new.bucket = { (refillBucket old.bucket now).1 with
        tokens := (refillBucket old.bucket now).1.tokens - tokens } ∧ SamePlan old new := by
  unfold spentBy at h ⊢
  split at h
  · next named tokens now hevent =>
    split at h
    · next hnamed =>
      subst hnamed
      split at h
      · next left hreply =>
        obtain ⟨status, hanswer, hcommitted⟩ :=
          perform_answer (consumeBurst s.engine named tokens now) s.engine action.io
        rw [hanswer] at hreply
        obtain ⟨hnone, old, hgranted⟩ := consumeBurst_ok hreply
        have hrecords := hgranted.records
        have hfound := hgranted.found
        have hcovered := hgranted.covered
        have hcommitted := (hcommitted hnone (by rw [hrecords]; exact List.cons_ne_nil _ _)).1
        obtain ⟨decision, hsection, hturn⟩ := turn_of_step hstep
        rw [hevent] at hsection
        cases hsection
        refine ⟨tokens, now, old, { old with
          bucket := { (refillBucket old.bucket now).1 with
            tokens := (refillBucket old.bucket now).1.tokens - tokens }
          updatedNs := now }, hevent, if_pos rfl, hfound, ?_, hcovered, rfl, rfl, rfl⟩
        have hkey := Registry.key_of_find hfound
        cases hturn with
        | quiet hempty =>
          have hempty : (consumeBurst s.engine named tokens now).records = [] := hempty
          rw [hrecords] at hempty
          cases hempty
        | failed _ hfailed =>
          have hfailed : ((consumeBurst s.engine named tokens now).commit s.engine
            action.io).status = some _ := hfailed
          rw [hcommitted] at hfailed
          cases hfailed
        | committed =>
          show (installed s.engine.config s.engine.tables
            (consumeBurst s.engine named tokens now).records).envelopes.find named.value = _
          rw [hrecords, (installed_registries _ _).2.2.2.2.2.2]
          simp only [Registry.putAll_cons, Registry.putAll_nil, envelope?, Registry.putSome,
            Registry.find_put]
          exact if_pos hkey
      · exact absurd rfl h
    · exact absurd rfl h
  · exact absurd rfl h

end Spending

end RateGovernor.Dynamics.Balances
