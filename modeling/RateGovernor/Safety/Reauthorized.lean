import RateGovernor.Dynamics.PlanLimits
import RateGovernor.Safety.TickRefill

namespace RateGovernor.Safety.Reauthorized

open Model.CheckedMath Model.Bucket Model.Identity Model.Reason Model.Entities Model.Envelope
open Model.Plan Model.EngineState Model.JournalWriter Model.Durability Model.Authority Model.Calls
open Model.Lifecycle Model.Execution Foundation.KeyedTable Foundation.GuardedRun
open Dynamics.Install Dynamics.PlanLimits Dynamics.Sections Dynamics.Turns Dynamics.Evolution
open Dynamics.Bindings Dynamics.Plans Dynamics.Buckets Dynamics.Start SoundAuthorities TickRefill

variable {s t : System} {action : Action} {event : Event} {old new envelope : RateEnvelope}
  {tables tables' : Tables} {boot : WorkerBootId} {now now' k : U64} {id : RateEnvelopeId}
  {caller : ActorContext} {io : Io}

section Stamps

def Derived (boot : WorkerBootId) (envelope : RateEnvelope) : Prop :=
  ∃ tables now, (derivePlan (makePlanInputs boot tables envelope) now).authorized = true ∧
    envelope.plan = (derivePlan (makePlanInputs boot tables envelope) now).plan

theorem Derived.keep (h : Derived boot old) (hbinding : binding new = binding old)
    (hplan : new.plan = old.plan) : Derived boot new := by
  obtain ⟨tables, now, hauthorized, heq⟩ := h
  have hinputs : makePlanInputs boot tables new = makePlanInputs boot tables old := by
    simp only [binding, Binding.mk.injEq] at hbinding
    simp only [makePlanInputs, hbinding]
  refine ⟨tables, now, ?_, ?_⟩
  · rw [hinputs]
    exact hauthorized
  · rw [hinputs, hplan]
    exact heq

end Stamps

section Authorizing

/-- The envelope is applied and verified, and its plan would be derived again with the ceiling and
the burst it has. -/
structure Settled (s : System) (envelope : RateEnvelope) (now : U64) : Prop where
  applied : envelope.state = .applied
  verified : envelope.effectVerified = true
  recorded : envelope.hasPlan = true
  supported : (derivePlanLocked s.engine envelope now).authorized = true
  ceiling : (planNow s envelope now).ceilingUps = envelope.plan.ceilingUps
  burst : (planNow s envelope now).burstTokens = envelope.plan.burstTokens

end Authorizing

section Sample

instance (s : System) (envelope : RateEnvelope) (now : U64) : Decidable (Settled s envelope now) :=
  decidable_of_iff (envelope.state = .applied ∧ envelope.effectVerified = true ∧
      envelope.hasPlan = true ∧ (derivePlanLocked s.engine envelope now).authorized = true ∧
      (planNow s envelope now).ceilingUps = envelope.plan.ceilingUps ∧
      (planNow s envelope now).burstTokens = envelope.plan.burstTokens)
    ⟨fun ⟨h₁, h₂, h₃, h₄, h₅, h₆⟩ ↦ ⟨h₁, h₂, h₃, h₄, h₅, h₆⟩,
      fun ⟨h₁, h₂, h₃, h₄, h₅, h₆⟩ ↦ ⟨h₁, h₂, h₃, h₄, h₅, h₆⟩⟩

end Sample

end RateGovernor.Safety.Reauthorized
