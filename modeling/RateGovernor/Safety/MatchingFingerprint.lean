import RateGovernor.Safety.LegalEnvelope

namespace RateGovernor.Safety.MatchingFingerprint

open Model.CheckedMath Model.Identity Model.Reason Model.Entities Model.Envelope Model.Plan
open Dynamics.PlanLimits Dynamics.Derivation Dynamics.Start LegalEnvelope

variable {fp fp' : PlanFingerprint} {inputs : PlanInputs} {now : U64}

section Least

variable {α : Type*} [LinearOrder α] {others : Set α} {x y least least' : α}

theorem least_le_of_bounded {v : α} (h : IsLeast (insert x others) least)
    (h' : IsLeast (insert y others) least') (hv : v ∈ others) (hy : v ≤ y) : least ≤ least' := by
  rcases h'.1 with rfl | hmem
  · exact (h.2 (Set.mem_insert_of_mem x hv)).trans hy
  · exact h.2 (Set.mem_insert_of_mem x hmem)

/-- Exchanging one element leaves the least one where it is exactly when some other element is
below both. -/
theorem least_eq_iff (h : IsLeast (insert x others) least) (h' : IsLeast (insert y others) least') :
    least' = least ↔ x = y ∨ ∃ v ∈ others, v ≤ x ∧ v ≤ y := by
  constructor
  · intro heq
    rw [heq] at h'
    rcases h.1 with hx | hmem
    · rcases h'.1 with hy | hmem
      · exact .inl (hx.symm.trans hy)
      · exact .inr ⟨least, hmem, h.2 (Set.mem_insert x others), h'.2 (Set.mem_insert y others)⟩
    · exact .inr ⟨least, hmem, h.2 (Set.mem_insert x others), h'.2 (Set.mem_insert y others)⟩
  · rintro (rfl | ⟨v, hv, hx, hy⟩)
    · exact h'.unique h
    · exact le_antisymm (least_le_of_bounded h' h hv hx) (least_le_of_bounded h h' hv hy)

end Least

section Recorded

def otherCeilings (fp : PlanFingerprint) : List U64 :=
  [fp.grantedCeilingUps, fp.policyCeilingUps, fp.resourceCapacityUps] ++
    if fp.backendMaxRateUps ≠ 0 then [fp.backendMaxRateUps] else []

def otherBursts (fp : PlanFingerprint) : List U64 :=
  [fp.policyBurstTokens, fp.grantedBurstTokens] ++
    (if fp.resourceCapacityBurstTokens ≠ 0 then [fp.resourceCapacityBurstTokens] else []) ++
    if fp.backendMaxBurstTokens ≠ 0 then [fp.backendMaxBurstTokens] else []

def amounts (values : List U64) : Set ℕ := {n | ∃ v ∈ values, UInt64.toNat v = n}

theorem ceiling_least (h : fp.hasReservation = true) :
    IsLeast (insert fp.reservedCeilingUps.toNat (amounts (otherCeilings fp)))
      (fingerprintCeiling fp).value.toNat := by
  have hlimits : Limits ([⟨fp.grantedCeilingUps, .grant⟩] ++
      [⟨fp.reservedCeilingUps, .reservation⟩] ++ [⟨fp.policyCeilingUps, .policy⟩] ++
      [⟨fp.resourceCapacityUps, .resource⟩] ++ declared fp.backendMaxRateUps .backend)
      (fingerprintCeiling fp) := by
    unfold fingerprintCeiling
    simp only [if_pos h]
    exact limits_considerDeclared (limits_consider (limits_consider
      (limits_consider List.argmin_singleton)))
  convert hlimits.least using 1
  ext n
  simp only [amounts, otherCeilings, declared, amount, Set.mem_insert_iff, Set.mem_ofPred_eq]
  split <;> simp [or_left_comm, eq_comm]

theorem burst_least (h : fp.hasReservation = true) :
    IsLeast (insert fp.reservedBurstTokens.toNat (amounts (otherBursts fp)))
      (fingerprintBurst fp).value.toNat := by
  have hlimits : Limits ([⟨fp.policyBurstTokens, .policy⟩] ++
      [⟨fp.grantedBurstTokens, .grant⟩] ++ [⟨fp.reservedBurstTokens, .reservation⟩] ++
      declared fp.resourceCapacityBurstTokens .resource ++
      declared fp.backendMaxBurstTokens .backend) (fingerprintBurst fp) := by
    unfold fingerprintBurst
    simp only [if_pos h]
    exact limits_considerDeclared (limits_considerDeclared (limits_consider
      (limits_consider List.argmin_singleton)))
  convert hlimits.least using 1
  ext n
  simp only [amounts, otherBursts, declared, amount, Set.mem_insert_iff, Set.mem_ofPred_eq]
  repeat' split
  all_goals simp only [List.mem_append, List.mem_cons, List.not_mem_nil, exists_eq_left,
    or_false, or_and_right, exists_or]
  all_goals tauto

/-- Two plans record the same magnitudes, their reservations' apart. -/
structure SameAuthority (fp fp' : PlanFingerprint) : Prop where
  reserved : fp'.hasReservation = fp.hasReservation
  granted : fp'.grantedCeilingUps = fp.grantedCeilingUps ∧
    fp'.grantedBurstTokens = fp.grantedBurstTokens
  policy : fp'.policyCeilingUps = fp.policyCeilingUps ∧
    fp'.policyFloorUps = fp.policyFloorUps ∧ fp'.policyTargetUps = fp.policyTargetUps ∧
    fp'.policyBurstTokens = fp.policyBurstTokens
  resource : fp'.resourceCapacityUps = fp.resourceCapacityUps ∧
    fp'.resourceCapacityBurstTokens = fp.resourceCapacityBurstTokens
  backend : fp'.backendMaxRateUps = fp.backendMaxRateUps ∧
    fp'.backendMaxBurstTokens = fp.backendMaxBurstTokens

def Immaterial (recorded stored : U64) (others : List U64) : Prop :=
  recorded = stored ∨ ∃ v ∈ others, v ≤ recorded ∧ v ≤ stored

theorem least_amounts_iff {recorded stored least least' : U64} {others : List U64}
    (h : IsLeast (insert recorded.toNat (amounts others)) least.toNat)
    (h' : IsLeast (insert stored.toNat (amounts others)) least'.toNat) :
    least' = least ↔ Immaterial recorded stored others := by
  rw [← UInt64.toNat_inj, least_eq_iff h h', UInt64.toNat_inj]
  simp only [amounts, Set.mem_ofPred_eq, Immaterial, UInt64.le_iff_toNat_le]
  constructor
  · rintro (heq | ⟨_, ⟨v, hv, rfl⟩, hle⟩)
    · exact .inl heq
    · exact .inr ⟨v, hv, hle⟩
  · rintro (heq | ⟨v, hv, hle⟩)
    · exact .inl heq
    · exact .inr ⟨_, ⟨v, hv, rfl⟩, hle⟩

theorem ceiling_same_iff (hsame : SameAuthority fp fp') :
    (fingerprintCeiling fp').value = (fingerprintCeiling fp).value ↔
      (fp.hasReservation = true →
        Immaterial fp.reservedCeilingUps fp'.reservedCeilingUps (otherCeilings fp)) := by
  cases hreserved : fp.hasReservation with
  | false =>
    refine ⟨fun _ h ↦ absurd h Bool.false_ne_true, fun _ ↦ ?_⟩
    unfold fingerprintCeiling
    rw [hsame.reserved, hreserved, hsame.granted.1, hsame.policy.1, hsame.resource.1,
      hsame.backend.1]
    rfl
  | true =>
    have hothers : otherCeilings fp' = otherCeilings fp := by
      unfold otherCeilings
      rw [hsame.granted.1, hsame.policy.1, hsame.resource.1, hsame.backend.1]
    have hleast := ceiling_least (hsame.reserved.trans hreserved)
    rw [hothers] at hleast
    rw [least_amounts_iff (ceiling_least hreserved) hleast]
    exact ⟨fun h _ ↦ h, fun h ↦ h rfl⟩

theorem burst_same_iff (hsame : SameAuthority fp fp') :
    (fingerprintBurst fp').value = (fingerprintBurst fp).value ↔
      (fp.hasReservation = true →
        Immaterial fp.reservedBurstTokens fp'.reservedBurstTokens (otherBursts fp)) := by
  cases hreserved : fp.hasReservation with
  | false =>
    refine ⟨fun _ h ↦ absurd h Bool.false_ne_true, fun _ ↦ ?_⟩
    unfold fingerprintBurst
    rw [hsame.reserved, hreserved, hsame.granted.2, hsame.policy.2.2.2, hsame.resource.2,
      hsame.backend.2]
    rfl
  | true =>
    have hothers : otherBursts fp' = otherBursts fp := by
      unfold otherBursts
      rw [hsame.granted.2, hsame.policy.2.2.2, hsame.resource.2, hsame.backend.2]
    have hleast := burst_least (hsame.reserved.trans hreserved)
    rw [hothers] at hleast
    rw [least_amounts_iff (burst_least hreserved) hleast]
    exact ⟨fun h _ ↦ h, fun h ↦ h rfl⟩

end Recorded

section Matching

theorem selfConsistent_iff : fingerprintSelfConsistent fp = true ↔
    fp.effectiveCeilingUps = (fingerprintCeiling fp).value ∧
    fp.effectiveFloorUps = fp.policyFloorUps ∧
    ¬ fp.effectiveCeilingUps < fp.effectiveFloorUps ∧
    fp.effectiveTargetUps =
      clampU64 fp.policyTargetUps fp.policyFloorUps fp.effectiveCeilingUps ∧
    fp.effectiveBurstTokens = (fingerprintBurst fp).value := by
  unfold fingerprintSelfConsistent
  simp only [false_guard, ne_eq, Decidable.not_not, decide_eq_true_eq]

theorem sameAuthority_of_matches (hmatches : fingerprintMatchesAuthority fp inputs = true)
    (h : (derivePlan inputs now).authorized = true) :
    SameAuthority fp (derivePlan inputs now).plan.fingerprint ∧
      (fp.hasReservation = true → ∃ r, inputs.reservationDef = some r ∧
        (derivePlan inputs now).plan.fingerprint.reservedCeilingUps = r.ceilingUps ∧
        (derivePlan inputs now).plan.fingerprint.reservedBurstTokens = r.burstTokens) := by
  obtain ⟨resource, grant, policy, reservation, backend, hadmitted, hplan⟩ := plan_of_authorized h
  rw [hplan]
  unfold fingerprintMatchesAuthority at hmatches
  rw [hadmitted.grantStored, hadmitted.policyStored, hadmitted.resourceStored,
    hadmitted.backendStored] at hmatches
  simp only [false_guard, ne_eq, Bool.or_eq_true, Bool.and_eq_true, decide_eq_true_eq, not_or,
    Decidable.not_not, and_true] at hmatches
  obtain ⟨-, -, -, -, hreserved, -, hgranted, hpolicy, hresource, hbackend⟩ := hmatches
  refine ⟨⟨hreserved.symm, ⟨hgranted.1.symm, hgranted.2.symm⟩, ?_, ⟨hresource.1.symm,
    hresource.2.symm⟩, ⟨hbackend.1.symm, hbackend.2.symm⟩⟩, fun hflag ↦ ?_⟩
  · exact ⟨hpolicy.1.1.1.symm, hpolicy.1.1.2.symm, hpolicy.1.2.symm, hpolicy.2.symm⟩
  · obtain ⟨r, rfl, hstored, -⟩ := hadmitted.reserved (hreserved.symm.trans hflag)
    exact ⟨r, hstored, rfl, rfl⟩

/-- The reservation stored now, where one is asked for, leaves the least limits where they were
recorded. -/
def ReservationUnmoved (fp : PlanFingerprint) (inputs : PlanInputs) : Prop :=
  inputs.hasReservation = true → ∀ r, inputs.reservationDef = some r →
    Immaterial fp.reservedCeilingUps r.ceilingUps (otherCeilings fp) ∧
    Immaterial fp.reservedBurstTokens r.burstTokens (otherBursts fp)

/-- A plan derived of matching authorities has the magnitudes recorded. -/
def Justified (fp : PlanFingerprint) (plan : EffectivePlan) : Prop :=
  plan.ceilingUps = fp.effectiveCeilingUps ∧ plan.floorUps = fp.effectiveFloorUps ∧
    plan.targetUps = fp.effectiveTargetUps ∧ plan.burstTokens = fp.effectiveBurstTokens

theorem consistent_of_authorized (h : (derivePlan inputs now).authorized = true) :
    fingerprintSelfConsistent (derivePlan inputs now).plan.fingerprint = true := by
  obtain ⟨_, _, _, _, _, _, hchecked⟩ := authorized_iff_checked.1 h
  rw [derivePlan_of_checked hchecked, publishPlan_plan hchecked.published]
  exact (publishPlan_authorized.1 hchecked.published).2.2.2.2

/-- Consistent plans of the same authorities have the same magnitudes exactly when the
reservation's limits make no difference to them. -/
theorem justified_iff {plan : EffectivePlan} (hconsistent : fingerprintSelfConsistent fp = true)
    (hconsistent' : fingerprintSelfConsistent plan.fingerprint = true)
    (hsame : SameAuthority fp plan.fingerprint) :
    Justified fp plan ↔ (fp.hasReservation = true →
      Immaterial fp.reservedCeilingUps plan.fingerprint.reservedCeilingUps (otherCeilings fp) ∧
      Immaterial fp.reservedBurstTokens plan.fingerprint.reservedBurstTokens
        (otherBursts fp)) := by
  obtain ⟨hceiling, hfloor, -, htarget, hburst⟩ := selfConsistent_iff.1 hconsistent
  obtain ⟨hceiling', hfloor', -, htarget', hburst'⟩ := selfConsistent_iff.1 hconsistent'
  have hceilings := ceiling_same_iff hsame
  have hbursts := burst_same_iff hsame
  rw [← hceiling, ← hceiling'] at hceilings
  rw [← hburst, ← hburst'] at hbursts
  have hfloors : plan.floorUps = fp.effectiveFloorUps := by
    rw [EffectivePlan.floorUps, hfloor, hfloor', hsame.policy.2.1]
  have htargets (h : plan.ceilingUps = fp.effectiveCeilingUps) :
      plan.targetUps = fp.effectiveTargetUps := by
    rw [EffectivePlan.ceilingUps] at h
    rw [EffectivePlan.targetUps, htarget, htarget', h, hsame.policy.2.1, hsame.policy.2.2.1]
  constructor
  · rintro ⟨hc, -, -, hb⟩ hreserved
    exact ⟨hceilings.1 hc hreserved, hbursts.1 hb hreserved⟩
  · intro h
    have hc := hceilings.2 fun hreserved ↦ (h hreserved).1
    exact ⟨hc, hfloors, htargets hc, hbursts.2 fun hreserved ↦ (h hreserved).2⟩

/-- A matching fingerprint is still the justified decision exactly when the limits of the
reservation, which the match does not compare, make no difference. -/
theorem matching_justified_iff (hconsistent : fingerprintSelfConsistent fp = true)
    (hmatches : fingerprintMatchesAuthority fp inputs = true)
    (h : (derivePlan inputs now).authorized = true) :
    Justified fp (derivePlan inputs now).plan ↔ ReservationUnmoved fp inputs := by
  obtain ⟨hsame, hstored⟩ := sameAuthority_of_matches hmatches h
  rw [justified_iff hconsistent (consistent_of_authorized h) hsame]
  have hreserved : fp.hasReservation = inputs.hasReservation := by
    obtain ⟨_, _, _, _, _, _, hplan⟩ := plan_of_authorized h
    rw [← hsame.reserved, hplan]
    rfl
  unfold ReservationUnmoved
  rw [hreserved] at hstored ⊢
  constructor
  · intro hmoved hflag r hr
    obtain ⟨r', hr', hceiling, hburst⟩ := hstored hflag
    obtain rfl := Option.some.inj (hr.symm.trans hr')
    rw [← hceiling, ← hburst]
    exact hmoved hflag
  · intro hmoved hflag
    obtain ⟨r, hr, hceiling, hburst⟩ := hstored hflag
    rw [hceiling, hburst]
    exact hmoved hflag r hr

end Matching

section Sample

def sampleReservation : Reservation :=
  { id := ⟨1⟩, flow := ⟨1⟩, resource := ⟨1⟩, state := .active, provenance := operator,
    ceilingUps := 80, burstTokens := 8 }

def reservedInputs (reservation : Reservation) : PlanInputs :=
  { sampleInputs with
    hasReservation := true
    reservation := ⟨1⟩
    reservationGeneration := ⟨1⟩
    reservationDef := some reservation }

/-- The plan recorded while the reservation was the sample one. -/
def recordedPlan : PlanFingerprint :=
  (derivePlan (reservedInputs sampleReservation) 5).plan.fingerprint

theorem matching_justified_sample :
    Justified recordedPlan (derivePlan (reservedInputs sampleReservation) 9).plan :=
  (matching_justified_iff (by decide) (by decide) (by decide)).2 fun _ r hr ↦ by
    obtain rfl := Option.some.inj hr
    exact ⟨.inl rfl, .inl rfl⟩

/-- A reservation halved at the same generation still matches, and halves the plan. -/
theorem matching_unjustified :
    ¬ ∀ (fp : PlanFingerprint) (inputs : PlanInputs) (now : U64),
      fingerprintSelfConsistent fp = true → fingerprintMatchesAuthority fp inputs = true →
      (derivePlan inputs now).authorized = true → Justified fp (derivePlan inputs now).plan := by
  intro h
  have hjustified := h recordedPlan
    (reservedInputs { sampleReservation with ceilingUps := 40, burstTokens := 4 }) 5
    (by decide) (by decide) (by decide)
  exact absurd hjustified.1 (by decide)

end Sample

end RateGovernor.Safety.MatchingFingerprint
