import RateGovernor.Foundation.WordMixing
import RateGovernor.Safety.LiveDuplicates

namespace RateGovernor.Safety.EnvelopeKeys

open Model.CheckedMath Model.Identity Model.Reason Model.Entities Model.Envelope Model.EngineState
open Model.Durability Model.Calls Model.Lifecycle Model.Revocation Model.Execution Model.Recovery
open Foundation.KeyedTable Foundation.GuardedRun Foundation.WordMixing Dynamics.Turns Dynamics.Start
open OneInFlight LiveDuplicates

section Mixing

def mixing : BitVec 64 ≃ BitVec 64 :=
  (Equiv.addRight 0x9E3779B97F4A7C15#64).trans <|
  (xorShift 30 (by decide)).trans <|
  (@scale 64 0xBF58476D1CE4E5B9#64 0x96DE1B173F119089#64 (by decide)).trans <|
  (xorShift 27 (by decide)).trans <|
  (@scale 64 0x94D049BB133111EB#64 0x319642B2D24D8EC3#64 (by decide)).trans <|
  xorShift 31 (by decide)

theorem toBitVec_mix64 (value : U64) : (mix64 value).toBitVec = mixing value.toBitVec := rfl

theorem mix64_injective : Function.Injective mix64 := by
  intro a b h
  have hmixed := congrArg UInt64.toBitVec h
  rw [toBitVec_mix64, toBitVec_mix64] at hmixed
  exact UInt64.toBitVec_inj.1 (mixing.injective hmixed)

theorem mix64_surjective : Function.Surjective mix64 := by
  intro value
  refine ⟨⟨mixing.symm value.toBitVec⟩, UInt64.toBitVec_inj.1 ?_⟩
  rw [toBitVec_mix64]
  exact mixing.apply_symm_apply value.toBitVec

end Mixing

section Keys

variable {envelope other : RateEnvelopeId} {generation : Generation} {kind : AttemptKind}

theorem envelope_of_key (h : computeIdempotencyKey envelope generation kind =
    computeIdempotencyKey other generation kind) : envelope = other := by
  have hstate := mix64_injective h
  rw [UInt64.xor_left_inj, UInt64.xor_left_inj] at hstate
  exact StrongId.eq_of_value (mix64_injective hstate)

theorem key_apply_ne_revoke (envelope : RateEnvelopeId) (generation : Generation) :
    computeIdempotencyKey envelope generation .apply ≠
      computeIdempotencyKey envelope generation .revoke := by
  intro h
  have hstate := mix64_injective h
  rw [UInt64.xor_right_inj] at hstate
  exact absurd (mix64_injective hstate) (by decide)

end Keys

section Requests

variable {start s : System} {envelope : RateEnvelope} {attempt : EnforcementAttempt}
  {kind : AttemptKind} {id : RateEnvelopeId}

theorem own_of_absorbs (hstart : Starts start) (hrun : Reaches lifeStep anyStep start s)
    (hfound : s.engine.tables.envelopes.find id.value = some envelope)
    (h : Absorbs s kind envelope attempt) (hkind : attempt.kind = kind)
    (hgeneration : attempt.envelopeGeneration = envelope.generation) : attempt.envelope = id := by
  have hstored := Registry.key_of_find hfound
  have hid : envelope.id = id := StrongId.eq_of_value hstored
  have hkey := (keyed_of_reaches hstart hrun).key attempt.id.value attempt h.inflight
  rw [h.key, hkind, hgeneration] at hkey
  rw [← hid]
  exact (envelope_of_key hkey).symm

end Requests

/-- The mixing function is a bijection, so the keys of two envelopes of one generation differ, and
so do those of the apply and the revoke of one envelope. Through operations, crashes and recoveries
in any order, an apply that answers with an apply attempt in flight of its envelope's generation
answers with an attempt for that envelope, and so does a revoke with a revoke attempt. -/
theorem keys_apart :
    Function.Bijective mix64 ∧
    (∀ generation kind, Function.Injective fun envelope ↦
      computeIdempotencyKey envelope generation kind) ∧
    (∀ envelope generation, computeIdempotencyKey envelope generation .apply ≠
      computeIdempotencyKey envelope generation .revoke) ∧
    ∀ start s, Starts start → Reaches lifeStep anyStep start s →
      (∀ id caller now session status dispatch,
        ((apply s.engine id caller now session).reply status).1 = .ok dispatch →
        dispatch.duplicate = true →
        ∃ envelope attempt, s.engine.tables.envelopes.find id.value = some envelope ∧
          InFlight s dispatch.attempt.value attempt ∧
          (attempt.kind = .apply → attempt.envelopeGeneration = envelope.generation →
            attempt.envelope = id)) ∧
      ∀ id reason caller now session status dispatch,
        ((revoke s.engine id reason caller now session).reply status).1 = .ok dispatch →
        dispatch.duplicate = true → dispatch.attempt.valid = true →
        ∃ envelope attempt, s.engine.tables.envelopes.find id.value = some envelope ∧
          InFlight s dispatch.attempt.value attempt ∧
          (attempt.kind = .revoke → attempt.envelopeGeneration = envelope.generation →
            attempt.envelope = id) := by
  refine ⟨⟨mix64_injective, mix64_surjective⟩, fun _ _ _ _ ↦ envelope_of_key,
    key_apply_ne_revoke, fun start s hstart hrun ↦ ⟨?_, ?_⟩⟩
  · intro id caller now session status dispatch hreply hduplicate
    obtain ⟨-, envelope, attempt, hfound, hnamed, habsorbs⟩ := absorbs_of_apply hreply hduplicate
    exact ⟨envelope, attempt, hfound, hnamed ▸ habsorbs.inflight,
      own_of_absorbs hstart hrun hfound habsorbs⟩
  · intro id reason caller now session status dispatch hreply hduplicate hvalid
    obtain ⟨-, envelope, attempt, hfound, hnamed, habsorbs⟩ :=
      absorbs_of_revoke hreply hduplicate hvalid
    exact ⟨envelope, attempt, hfound, hnamed ▸ habsorbs.inflight,
      own_of_absorbs hstart hrun hfound habsorbs⟩

/-- Whether a second apply of the envelope is answered with an attempt of its generation. -/
def repeats (s : System) : Bool :=
  match ((apply s.engine ⟨1⟩ actor 6 {}).reply none).1 with
  | .ok dispatch => dispatch.duplicate && (s.engine.tables.attempts.find dispatch.attempt.value).any
      fun attempt ↦ attempt.kind = .apply && (s.engine.tables.envelopes.find 1).any
        fun envelope ↦ attempt.envelopeGeneration = envelope.generation
  | .error _ => false

theorem keys_apart_repeated : ∃ s dispatch attempt,
    run lifeStep sampleStart (dispatchSample.map .act) = some s ∧
      ((apply s.engine ⟨1⟩ actor 6 {}).reply none).1 = .ok dispatch ∧
      dispatch.duplicate = true ∧ InFlight s dispatch.attempt.value attempt ∧
      attempt.envelope = ⟨1⟩ := by
  obtain ⟨s, hs, hrepeats⟩ := (Option.any_eq_true _ _).1 (by decide +kernel :
    (run lifeStep sampleStart (dispatchSample.map .act)).any repeats = true)
  have hreaches : Reaches lifeStep anyStep sampleStart s :=
    reaches_of_run (guarded_anyStep _ _) hs
  unfold repeats at hrepeats
  split at hrepeats
  · next dispatch hreply =>
    simp only [Bool.and_eq_true, Option.any_eq_true, decide_eq_true_eq] at hrepeats
    obtain ⟨hduplicate, stored, hstored, hkind, current, hcurrent, hgeneration⟩ := hrepeats
    obtain ⟨envelope, attempt, hfind, hinflight, hown⟩ := (keys_apart.2.2.2 sampleStart s
      (.fresh fresh_sampleStart) hreaches).1 _ _ _ _ _ _ hreply hduplicate
    cases hstored.symm.trans hinflight.1
    cases hcurrent.symm.trans hfind
    exact ⟨s, dispatch, stored, hs, hreply, hduplicate, hinflight, hown hkind hgeneration⟩
  · cases hrepeats

end RateGovernor.Safety.EnvelopeKeys
