import RateGovernor.Dynamics.Derivation
import RateGovernor.Dynamics.Driving
import RateGovernor.Dynamics.Start

namespace RateGovernor.Dynamics.Furnishing

open Model.CheckedMath Model.Identity Model.Reason Model.Entities Model.Envelope Model.Plan
open Model.EngineState Model.Durability Model.Authority Model.Calls Model.Lifecycle Model.Execution
open Foundation.KeyedTable Foundation.GuardedRun Install Halting Driving Derivation Start

section Plans

variable {inputs : PlanInputs} {id : RateEnvelopeId} {now : U64}

theorem authorized_of_id (hid : id.valid = true) (h : (derivePlan inputs now).authorized = true) :
    (derivePlan { inputs with envelope := id } now).authorized = true := by
  obtain ⟨flow, resource, grant, policy, reservation, backend, hchecked⟩ :=
    authorized_iff_checked.1 h
  have hpublished : (publishPlan policy (assemblePlan { inputs with envelope := id } resource grant
      policy reservation backend now)).authorized = true := by
    have hinvariants : (assemblePlan { inputs with envelope := id } resource grant policy
        reservation backend now).invariantsHold =
          (assemblePlan inputs resource grant policy reservation backend now).invariantsHold := by
      simp only [EffectivePlan.invariantsHold, assemblePlan, hid, hchecked.identified.1]
      rfl
    refine Eq.trans ?_ hchecked.published
    simp only [publishPlan, apply_ite PlanOutcome.authorized, hinvariants]
    rfl
  refine authorized_iff_checked.2 ⟨flow, resource, grant, policy, reservation, backend,
    ⟨⟨hid, hchecked.identified.2⟩, hchecked.named, hchecked.flowChecked, hchecked.resourceChecked,
      hchecked.grantChecked, hchecked.policyChecked, ?_, hchecked.backendChecked, hpublished⟩⟩
  have hreserved := hchecked.reservationChecked
  cases reservation with
  | none => exact hreserved
  | some reservation => exact hreserved

end Plans

/-- An engine with the sample authorities, and a second grant beside the first. -/
def hall : System :=
  drive step sampleStart (register ++ [⟨.putGrant { sampleGrant with id := ⟨2⟩ }, []⟩])

/-- The envelope with this number, when it has been opened and when it has been authorized. -/
def opened (i : U64) : RateEnvelope :=
  { openedEnvelope hall.engine sampleRequest 5 with id := ⟨i⟩ }

def seated (i : U64) : RateEnvelope :=
  authorizedEnvelope (opened i) (derivePlanLocked hall.engine (opened i) 5).plan 5

theorem id_seated (i : U64) : (seated i).id.value = i := by
  unfold seated authorizedEnvelope
  simp only
  split
  · split <;> rfl
  · rfl

def seats (n : ℕ) : Registry RateEnvelope (·.id.value) :=
  (List.range n).foldl (fun r i ↦ r.put (seated (UInt64.ofNat (i + 1)))) .empty

def furnished (next opened authorized : U64) (envelopes : Registry RateEnvelope (·.id.value)) :
    System where
  engine := { hall.engine with
    control := { hall.engine.control with
      nextEnvelopeId := next
      counters := { hall.engine.control.counters with
        envelopesOpened := opened, plansAuthorized := authorized } }
    tables := { hall.engine.tables with envelopes } }
  calls := []

def crowd (n : ℕ) : System :=
  furnished (UInt64.ofNat (n + 1)) (UInt64.ofNat n) (UInt64.ofNat n) (seats n)

theorem seats_succ (n : ℕ) :
    seats (n + 1) = (seats n).put (seated (UInt64.ofNat (n + 1))) := by
  simp only [seats, List.range_succ, List.foldl_append, List.foldl_cons, List.foldl_nil]

theorem size_seats_le (n : ℕ) : (seats n).size ≤ n := by
  induction n with
  | zero => exact Nat.le_refl 0
  | succ n ih =>
    rw [seats_succ]
    cases hfind : (seats n).find (seated (UInt64.ofNat (n + 1))).id.value with
    | none =>
      rw [Registry.size_put_of_find_none hfind]
      omega
    | some _ =>
      rw [Registry.size_put_of_find hfind]
      omega

def seat (i : U64) : List Action :=
  [⟨.openEnvelope sampleRequest actor 5, []⟩, ⟨.authorize ⟨i⟩ actor 5, []⟩]

theorem openEnvelope_crowd {n : ℕ} (hroom : n < 4096) :
    openEnvelope (crowd n).engine sampleRequest actor 5 =
      publish { (crowd n).engine.control with nextEnvelopeId := UInt64.ofNat (n + 1) + 1 }
        (Control.count { (crowd n).engine.control with nextEnvelopeId := UInt64.ofNat (n + 1) + 1 }
          fun c ↦ { c with envelopesOpened := c.envelopesOpened + 1 })
        [.envelope .envelopeOpened (opened (UInt64.ofNat (n + 1)))]
        ⟨UInt64.ofNat (n + 1)⟩ none := by
  have hrunning : (crowd n).engine.control.shuttingDown = false :=
    (by decide +kernel : hall.engine.control.shuttingDown = false)
  have hactor : checkActor (crowd n).engine actor = none :=
    (by decide +kernel : checkActor hall.engine actor = none)
  have hsize : ¬ (crowd n).engine.config.maxEnvelopes.toNat ≤
      (crowd n).engine.tables.envelopes.size := by
    have hmax : hall.engine.config.maxEnvelopes.toNat = 4096 := by decide +kernel
    have hle := size_seats_le n
    have hlt : ¬ hall.engine.config.maxEnvelopes.toNat ≤ (seats n).size := by omega
    exact hlt
  have htext : isBoundedText sampleRequest.annotation
      (crowd n).engine.config.maxAttributeBytes.toNat = true :=
    (by decide +kernel : isBoundedText sampleRequest.annotation
      hall.engine.config.maxAttributeBytes.toNat = true)
  have hcomplete : (!sampleRequest.flow.valid || !sampleRequest.resource.valid ||
      !sampleRequest.grant.valid || !sampleRequest.policy.valid || !sampleRequest.backend.valid) =
        false := by decide
  have hreservation :
      (sampleRequest.hasReservation && !sampleRequest.reservation.valid) = false := by
    decide
  unfold openEnvelope
  simp only [hrunning, hactor, hcomplete, hreservation, htext, hsize, Bool.false_eq_true, if_false,
    Bool.not_true]
  rfl

def crowdOpened (n : ℕ) : System :=
  furnished (UInt64.ofNat (n + 1) + 1) (UInt64.ofNat n + 1) (UInt64.ofNat n)
    ((seats n).put (opened (UInt64.ofNat (n + 1))))

theorem drive_openEnvelope {n : ℕ} (hroom : n < 4096) (rest : List Action) :
    drive step (crowd n) (⟨.openEnvelope sampleRequest actor 5, []⟩ :: rest) =
      drive step (crowdOpened n) rest := by
  have hnone : (crowd n).engine.config.durability = .none :=
    (by decide +kernel : hall.engine.config.durability = .none)
  have hsection : sectionOf (crowd n) (.openEnvelope sampleRequest actor 5) =
      some (begun (crowd n) (openEnvelope (crowd n).engine sampleRequest actor 5)) := rfl
  rw [drive_section hsection, performed_of_none hnone, openEnvelope_crowd hroom]
  rfl

theorem ofNat_succ_ne_zero {n : ℕ} (h : n < 4096) : UInt64.ofNat (n + 1) ≠ 0 := by
  intro hzero
  have hnat := congrArg UInt64.toNat hzero
  rw [UInt64.toNat_ofNat'] at hnat
  have hz : (0 : U64).toNat = 0 := rfl
  omega

theorem authorize_crowd {n : ℕ} (hroom : n < 4096) :
    authorize (crowdOpened n).engine ⟨UInt64.ofNat (n + 1)⟩ actor 5 =
      publish
        (Control.count (crowdOpened n).engine.control fun c ↦
          { c with plansAuthorized := c.plansAuthorized + 1 })
        (Control.count (crowdOpened n).engine.control fun c ↦
          { c with plansAuthorized := c.plansAuthorized + 1 })
        [.envelope .envelopeAuthorized (seated (UInt64.ofNat (n + 1)))]
        (derivePlanLocked hall.engine (opened (UInt64.ofNat (n + 1))) 5) none := by
  have hrunning : (crowdOpened n).engine.control.shuttingDown = false :=
    (by decide +kernel : hall.engine.control.shuttingDown = false)
  have hactor : checkActor (crowdOpened n).engine actor = none :=
    (by decide +kernel : checkActor hall.engine actor = none)
  have hfind : (crowdOpened n).engine.tables.envelopes.find (UInt64.ofNat (n + 1)) =
      some (opened (UInt64.ofNat (n + 1))) := Registry.find_put_self (seats n) (opened _)
  have hplan : derivePlanLocked (crowdOpened n).engine (opened (UInt64.ofNat (n + 1))) 5 =
      derivePlanLocked hall.engine (opened (UInt64.ofNat (n + 1))) 5 := rfl
  have hid : (opened (UInt64.ofNat (n + 1))).id.valid = true :=
    decide_eq_true (ofNat_succ_ne_zero hroom)
  have hfirst : (derivePlanLocked hall.engine (opened 1) 5).authorized = true := by decide +kernel
  have hauthorized :
      (derivePlanLocked hall.engine (opened (UInt64.ofNat (n + 1))) 5).authorized = true :=
    authorized_of_id hid hfirst
  unfold authorize
  simp only [hrunning, hactor, hfind, hplan, hauthorized, Bool.false_eq_true, if_false,
    Bool.not_true]
  rfl

theorem drive_authorize {n : ℕ} (hroom : n < 4096) (rest : List Action) :
    drive step (crowdOpened n) (⟨.authorize ⟨UInt64.ofNat (n + 1)⟩ actor 5, []⟩ :: rest) =
      drive step (crowd (n + 1)) rest := by
  have hnone : (crowdOpened n).engine.config.durability = .none :=
    (by decide +kernel : hall.engine.config.durability = .none)
  have hsection : sectionOf (crowdOpened n) (.authorize ⟨UInt64.ofNat (n + 1)⟩ actor 5) =
      some (begun (crowdOpened n)
        (authorize (crowdOpened n).engine ⟨UInt64.ofNat (n + 1)⟩ actor 5)) := rfl
  have hseated : ((seats n).put (opened (UInt64.ofNat (n + 1)))).put
      (seated (UInt64.ofNat (n + 1))) = seats (n + 1) := by
    rw [seats_succ]
    exact Registry.put_put _ (id_seated _).symm
  have hnext : UInt64.ofNat (n + 1) + 1 = UInt64.ofNat (n + 1 + 1) := (UInt64.ofNat_add _ 1).symm
  have hcount : UInt64.ofNat n + 1 = UInt64.ofNat (n + 1) := (UInt64.ofNat_add n 1).symm
  have hcrowd : crowd (n + 1) =
      furnished (UInt64.ofNat (n + 1) + 1) (UInt64.ofNat n + 1) (UInt64.ofNat n + 1)
        (((seats n).put (opened (UInt64.ofNat (n + 1)))).put
          (seated (UInt64.ofNat (n + 1)))) := by
    rw [crowd, hseated, hnext, hcount]
  rw [drive_section hsection, performed_of_none hnone, authorize_crowd hroom, hcrowd]
  rfl

theorem drive_seats {n : ℕ} (hroom : n ≤ 4096) :
    drive step hall ((List.range n).flatMap fun i ↦ seat (UInt64.ofNat (i + 1))) = crowd n := by
  induction n with
  | zero => rfl
  | succ n ih =>
    have hlt : n < 4096 := hroom
    rw [List.range_succ, List.flatMap_append, drive_append, ih (Nat.le_of_lt hlt),
      List.flatMap_singleton]
    exact (drive_openEnvelope hlt _).trans (drive_authorize hlt [])

theorem reachable_crowd {n : ℕ} (hroom : n ≤ 4096) : Reachable (crowd n) := by
  rw [← drive_seats hroom, hall, ← drive_append]
  exact ⟨sampleStart, fresh_sampleStart, reaches_drive fun _ _ _ ↦ trivial⟩

end RateGovernor.Dynamics.Furnishing
