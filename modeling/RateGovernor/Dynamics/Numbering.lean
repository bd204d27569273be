import RateGovernor.Dynamics.Filing
import RateGovernor.Dynamics.Plans
import RateGovernor.Dynamics.Snapshots

namespace RateGovernor.Dynamics.Numbering

open Model.CheckedMath Model.Identity Model.Entities Model.Envelope Model.EngineState
open Model.Durability Model.Lifecycle Model.Execution Foundation.KeyedTable Foundation.GuardedRun
open Install Sections Staging Turns Evolution Bindings Halting Issue Attempts Start Serials Records
open Filing Plans Snapshots

variable {s t : System} {action : Action} {k : U64} {envelope : RateEnvelope}

theorem opened_step (hids : IdsAhead s) (hstep : step s action = some t)
    (hold : s.engine.tables.envelopes.find k = none)
    (hfind : t.engine.tables.envelopes.find k = some envelope) :
    Ahead s.engine.config s.engine.tables s.engine.control.nextEnvelopeId ∧
      s.engine.tables.envelopes.size < s.engine.config.maxEnvelopes.toNat ∧
      k = s.engine.control.nextEnvelopeId ∧ Planless envelope := by
  obtain hstuck | hahead := hids
  · rw [(stuck_step hstuck hstep).2, hold] at hfind
    cases hfind
  · obtain hkept | ⟨type, hstages⟩ := envelope_step hstep hfind
    · rw [hold] at hkept
      cases hkept
    · have hkey := Registry.key_of_find hfind
      by_cases htype : type = .envelopeOpened
      · subst htype
        generalize action.event = event at hstages
        cases hstages with
        | opened hroom => exact ⟨hahead, hroom, hkey.symm, fun _ ↦ rfl⟩
      · obtain ⟨old, hstored⟩ := replaces_of_stages hstages htype
        have hkey : envelope.id.value = k := hkey
        rw [hkey, hold] at hstored
        cases hstored

theorem envelopes_size_step (hstep : step s action = some t) :
    s.engine.tables.envelopes.size ≤ t.engine.tables.envelopes.size ∧
      ∀ k envelope, s.engine.tables.envelopes.find k = none →
        t.engine.tables.envelopes.find k = some envelope →
          s.engine.tables.envelopes.size < t.engine.tables.envelopes.size := by
  obtain ⟨records, -, htables⟩ := tables_step hstep
  rw [htables, (installed_registries _ _).2.2.2.2.2.2]
  exact ⟨Registry.size_le_size_putAll _ _, fun k envelope ↦ Registry.size_lt_size_putAll⟩

def Numbered (s : System) : Prop :=
  ∀ k envelope, s.engine.tables.envelopes.find k = some envelope →
    k.toNat ≤ s.engine.tables.envelopes.size

theorem numbered_step (h : Numbered s) (hids : IdsAhead s) (hstep : step s action = some t) :
    Numbered t := by
  intro k envelope hfind
  obtain ⟨hgrows, hnew⟩ := envelopes_size_step hstep
  cases hold : s.engine.tables.envelopes.find k with
  | some old => exact Nat.le_trans (h k old hold) hgrows
  | none =>
    obtain ⟨hahead, hroom, rfl, -⟩ := opened_step hids hstep hold hfind
    have hlt := hnew _ envelope hold hfind
    have hnext := (hahead hroom).2
    omega

def AllPlanless (s : System) : Prop :=
  ∀ k envelope, s.engine.tables.envelopes.find k = some envelope → Planless envelope

theorem allPlanless_step (h : AllPlanless s) (hids : IdsAhead s) (hstep : step s action = some t) :
    AllPlanless t := by
  intro k envelope hfind
  cases hold : s.engine.tables.envelopes.find k with
  | none =>
    obtain ⟨-, -, -, hplanless⟩ := opened_step hids hstep hold hfind
    exact hplanless
  | some old =>
    obtain rfl | ⟨type, hstages, htype⟩ := replaced_step hids hstep hold hfind
    · exact h k envelope hold
    · have hkey := Registry.key_of_find hfind
      have hkey : envelope.id.value = k := hkey
      rw [← hkey] at hold
      obtain ⟨hplan, hflag⟩ | ⟨-, -, hrecorded⟩ := replans_of_stages hstages htype hold
      · intro hnone
        rw [hplan]
        exact h _ old hold (hflag ▸ hnone)
      · intro hnone
        rw [hrecorded] at hnone
        cases hnone

def SerialsShort (s : System) : Prop :=
  ∀ k a, s.engine.tables.attempts.find k = some a → k ≠ 0xFFFFFFFFFFFFFFFF

theorem serialsShort_step (h : SerialsShort s) (hroom : Serviceable s)
    (hstep : step s action = some t) : SerialsShort t := by
  intro k a hfind
  have hkey := Registry.key_of_find hfind
  obtain hold | hcreated | ⟨type, hstages⟩ := attempt_step hstep hfind
  · exact h k a hold
  · obtain ⟨envelope, hcreates⟩ := creates_of_stages hcreated
    have hissued := hcreates.issued
    rw [hkey] at hissued
    rw [hissued]
    exact hroom
  · obtain ⟨old, hfound, -⟩ := moves_of_stages hstages
    rw [hkey] at hfound
    exact h k old hfound

structure Ordered (s : System) : Prop where
  filed : Filed s
  ids : IdsAhead s
  numbered : Numbered s
  planless : AllPlanless s
  serials : SerialsShort s
  epoch : (Replay.fresh s.engine.config).tables.epoch.value ≤ s.engine.tables.epoch.value

theorem replay_of_fresh (h : Fresh s) :
    s.engine.tables = (Replay.fresh s.engine.config).tables ∧
      s.engine.control.nextEnvelopeId = 1 ∧ s.engine.control.nextAttemptId = 1 ∧
      s.engine.control.recoveryOrphanRecords = 0 := by
  obtain ⟨config, backend, session, journal, io, rfl⟩ := h
  unfold construct
  simp only
  cases backend <;> (split; exact ⟨rfl, rfl, rfl, rfl⟩; split <;> exact ⟨rfl, rfl, rfl, rfl⟩)

theorem ordered_of_fresh (h : Fresh s) : Ordered s where
  filed := filed_of_fresh h
  ids := idsAhead_of_fresh h
  numbered k envelope hfind := by
    rw [no_envelope_of_fresh h] at hfind
    cases hfind
  planless k envelope hfind := by
    rw [no_envelope_of_fresh h] at hfind
    cases hfind
  serials k a hfind := by
    rw [no_attempt_of_fresh h] at hfind
    cases hfind
  epoch := by
    rw [(replay_of_fresh h).1]
    exact UInt64.le_refl _

theorem ordered_step (h : Ordered s) (hseveral : 2 ≤ s.engine.config.maxAttemptsPerEnvelope.toNat)
    (hroom : Serviceable s) (hstep : step s action = some t) : Ordered t where
  filed := filed_step h.filed hseveral h.ids hroom hstep
  ids := idsAhead_step h.ids hstep
  numbered := numbered_step h.numbered h.ids hstep
  planless := allPlanless_step h.planless h.ids hstep
  serials := serialsShort_step h.serials hroom hstep
  epoch := by
    rw [config_step hstep]
    obtain hsame | ⟨-, -, -, -, hnewer⟩ := epoch_step hstep
    · rw [hsame]
      exact h.epoch
    · exact UInt64.le_trans h.epoch (UInt64.le_of_lt hnewer)

theorem Ordered.snapshotable (h : Ordered s) : Snapshotable s.engine.config s.engine.tables :=
  ⟨h.filed.shelved, h.epoch, h.numbered, h.serials, h.planless⟩

end RateGovernor.Dynamics.Numbering
