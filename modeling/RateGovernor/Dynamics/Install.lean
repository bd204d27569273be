import RateGovernor.Model.Execution

namespace RateGovernor.Dynamics.Install

open Model.CheckedMath Model.Identity Model.Entities Model.Envelope Model.EngineState
open Model.Durability Foundation.KeyedTable

section Objects

def flow? : Staged → Option Flow
  | .flow value => some value
  | _ => none

def grant? : Staged → Option Grant
  | .grant _ value => some value
  | _ => none

def reservation? : Staged → Option Reservation
  | .reservation _ value => some value
  | _ => none

def policy? : Staged → Option Policy
  | .policy _ value => some value
  | _ => none

def resource? : Staged → Option Resource
  | .resource _ value => some value
  | _ => none

def backend? : Staged → Option BackendDescriptor
  | .backend value => some value
  | _ => none

def envelope? : Staged → Option RateEnvelope
  | .envelope _ value => some value
  | _ => none

/-- The attempt a staged object writes, whether it is new or updated. -/
def attempt? : Staged → Option EnforcementAttempt
  | .created value => some value
  | .attempt _ value => some value
  | _ => none

end Objects

variable {config : EngineConfig}

section Retention

theorem evictTerminal_tables (limit : U64) (fuel : ℕ) (tables : Tables) (list : List U64) :
    ∃ attempts order, (evictTerminal limit fuel tables list).1 =
      { tables with attempts := attempts, attemptOrder := order } ∧
      ∀ k a, attempts.find k = some a → tables.attempts.find k = some a := by
  induction fuel generalizing tables list with
  | zero => exact ⟨tables.attempts, tables.attemptOrder, rfl, fun _ _ h ↦ h⟩
  | succ fuel ih =>
    simp only [evictTerminal]
    split
    · exact ⟨tables.attempts, tables.attemptOrder, rfl, fun _ _ h ↦ h⟩
    · split
      · exact ⟨tables.attempts, tables.attemptOrder, rfl, fun _ _ h ↦ h⟩
      · next victim _ =>
        obtain ⟨attempts, order, heq, hsub⟩ := ih
          { tables with
            attempts := tables.attempts.remove victim
            attemptOrder := tables.attemptOrder.filter (· ≠ victim) } (list.erase victim)
        refine ⟨attempts, order, heq, ?_⟩
        intro k a h
        have hremove := hsub k a h
        simp only [Registry.find_remove] at hremove
        split at hremove
        · cases hremove
        · exact hremove

theorem find_foldl_remove {r : Registry EnforcementAttempt (·.id.value)} {victims : List U64}
    {k : U64} {a : EnforcementAttempt} (h : (victims.foldl Registry.remove r).find k = some a) :
    r.find k = some a := by
  induction victims generalizing r with
  | nil => exact h
  | cons victim victims ih =>
    have hremove := ih h
    rw [Registry.find_remove] at hremove
    split at hremove
    · cases hremove
    · exact hremove

theorem find_retain {config : EngineConfig} {tables : Tables} {attempt old : EnforcementAttempt}
    {k : U64} (h : (tables.retainAttempt config attempt).attempts.find k = some old) :
    (tables.attempts.put attempt).find k = some old := by
  obtain ⟨attempts, order, heq, hsub⟩ := evictTerminal_tables config.maxAttemptsPerEnvelope
    (tables.enlisted attempt).length (tables.enlist attempt) (tables.enlisted attempt)
  rw [Tables.retainAttempt, heq] at h
  exact hsub k old (find_foldl_remove h)

theorem retainAttempt_tables (config : EngineConfig) (tables : Tables) (attempt : EnforcementAttempt) :
    ∃ attempts order lists, tables.retainAttempt config attempt =
      { tables with attempts := attempts, attemptOrder := order, attemptsByEnvelope := lists } ∧
      ∀ k a, attempts.find k = some a → a = attempt ∨ tables.attempts.find k = some a := by
  obtain ⟨attempts, order, heq, -⟩ := evictTerminal_tables config.maxAttemptsPerEnvelope
    (tables.enlisted attempt).length (tables.enlist attempt) (tables.enlisted attempt)
  refine ⟨(tables.retainAttempt config attempt).attempts,
    (tables.retainAttempt config attempt).attemptOrder,
    (tables.retainAttempt config attempt).attemptsByEnvelope, ?_, fun k a h ↦ ?_⟩
  · rw [Tables.retainAttempt, heq]
    rfl
  have hput := find_retain h
  rw [Registry.find_put] at hput
  split at hput
  · cases hput
    exact .inl rfl
  · exact .inr hput

end Retention

section Batch

variable (tables : Tables) (records : List Staged)

def installed (config : EngineConfig) (tables : Tables) (records : List Staged) : Tables :=
  records.foldl (Tables.install config) tables

theorem installed_registries :
    (installed config tables records).flows = tables.flows.putAll flow? records ∧
    (installed config tables records).grants = tables.grants.putAll grant? records ∧
    (installed config tables records).reservations =
      tables.reservations.putAll reservation? records ∧
    (installed config tables records).policies = tables.policies.putAll policy? records ∧
    (installed config tables records).resources = tables.resources.putAll resource? records ∧
    (installed config tables records).backends = tables.backends.putAll backend? records ∧
    (installed config tables records).envelopes = tables.envelopes.putAll envelope? records := by
  induction records generalizing tables with
  | nil => exact ⟨rfl, rfl, rfl, rfl, rfl, rfl, rfl⟩
  | cons record records ih =>
    have h := ih (tables.install config record)
    cases record with
    | created attempt =>
      obtain ⟨attempts, order, lists, heq, -⟩ := retainAttempt_tables config tables attempt
      have hinst : tables.install config (.created attempt) = _ := heq
      unfold installed at h ⊢
      rw [List.foldl_cons, hinst]
      rw [hinst] at h
      exact h
    | _ => exact h

theorem installed_attempts {k : U64} {a : EnforcementAttempt}
    (h : (installed config tables records).attempts.find k = some a) :
    (∃ record ∈ records, attempt? record = some a) ∨ tables.attempts.find k = some a := by
  induction records generalizing tables with
  | nil => exact .inr h
  | cons record records ih =>
    obtain ⟨r, hr, ha⟩ | hold := ih (tables.install config record) h
    · exact .inl ⟨r, List.mem_cons_of_mem _ hr, ha⟩
    · cases record with
      | created attempt =>
        obtain ⟨attempts, order, lists, heq, hsub⟩ :=
          retainAttempt_tables config tables attempt
        simp only [Tables.install, heq] at hold
        obtain rfl | hfind := hsub k a hold
        · exact .inl ⟨.created a, List.mem_cons_self, rfl⟩
        · exact .inr hfind
      | attempt type attempt =>
        simp only [Tables.install, Registry.find_put] at hold
        split at hold
        · cases hold
          exact .inl ⟨.attempt type a, List.mem_cons_self, rfl⟩
        · exact .inr hold
      | _ => exact .inr hold

theorem installed_attempts_putAll (h : ∀ record ∈ records, ∀ attempt, record ≠ .created attempt) :
    (installed config tables records).attempts = tables.attempts.putAll attempt? records := by
  induction records generalizing tables with
  | nil => rfl
  | cons record records ih =>
    have hrest := ih (tables.install config record) fun r hr ↦ h r (List.mem_cons_of_mem _ hr)
    refine hrest.trans ?_
    cases record with
    | created attempt => exact absurd rfl (h _ List.mem_cons_self attempt)
    | _ => rfl

theorem installed_epoch :
    (installed config tables records).epoch = tables.epoch ∨
      ∃ reason, .epoch (installed config tables records).epoch reason ∈ records := by
  induction records generalizing tables with
  | nil => exact .inl rfl
  | cons record records ih =>
    obtain heq | ⟨reason, hmem⟩ := ih (tables.install config record)
    · cases record with
      | epoch epoch reason =>
        refine .inr ⟨reason, ?_⟩
        have hepoch : (installed config tables (.epoch epoch reason :: records)).epoch = epoch := heq
        rw [hepoch]
        exact List.mem_cons_self
      | created attempt =>
        obtain ⟨attempts, order, lists, hret, -⟩ :=
          retainAttempt_tables config tables attempt
        refine .inl (heq.trans ?_)
        simp only [Tables.install, hret]
      | _ => exact .inl heq
    · exact .inr ⟨reason, List.mem_cons_of_mem _ hmem⟩

end Batch

end RateGovernor.Dynamics.Install
