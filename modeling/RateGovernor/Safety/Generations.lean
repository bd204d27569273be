import RateGovernor.Dynamics.Start
import RateGovernor.Dynamics.Evolution
import RateGovernor.Dynamics.Demotion

namespace RateGovernor.Safety.Generations

open Model.CheckedMath Model.Identity Model.Reason Model.Entities Model.Envelope Model.EngineState
open Model.JournalWriter Model.Durability Model.Authority Model.Execution
open Foundation.KeyedTable Foundation.GuardedRun
open Dynamics.Install Dynamics.Staging Dynamics.Turns Dynamics.Evolution Dynamics.Demotion
open Dynamics.Start

inductive AuthorityKind
  | flow | grant | reservation | policy | resource | backend
  deriving DecidableEq

/-- The generation a table stores for an id. -/
def generationAt (tables : Tables) : AuthorityKind → U64 → Option Generation
  | .flow, k => (tables.flows.find k).map (·.generation)
  | .grant, k => (tables.grants.find k).map (·.generation)
  | .reservation, k => (tables.reservations.find k).map (·.generation)
  | .policy, k => (tables.policies.find k).map (·.generation)
  | .resource, k => (tables.resources.find k).map (·.generation)
  | .backend, k => (tables.backends.find k).map (·.generation)

/-- What an operation on authorities is about. -/
def target : Event → Option (AuthorityKind × U64)
  | .putFlow flow => some (.flow, flow.id.value)
  | .putGrant grant => some (.grant, grant.id.value)
  | .putReservation reservation => some (.reservation, reservation.id.value)
  | .putPolicy policy => some (.policy, policy.id.value)
  | .putResource resource => some (.resource, resource.id.value)
  | .putBackend backend => some (.backend, backend.id.value)
  | .changeGrantState id _ _ _ => some (.grant, id.value)
  | .changeReservationState id _ _ _ => some (.reservation, id.value)
  | .changePolicyState id _ _ _ => some (.policy, id.value)
  | .changeResourceState id _ _ _ => some (.resource, id.value)
  | _ => none

def operation (engine : Engine) : Event → Option (Decision Status)
  | .putFlow flow => some (putFlow engine flow)
  | .putGrant grant => some (putGrant engine grant)
  | .putReservation reservation => some (putReservation engine reservation)
  | .putPolicy policy => some (putPolicy engine policy)
  | .putResource resource => some (putResource engine resource)
  | .putBackend backend => some (putBackend engine backend)
  | .changeGrantState id generation state actor =>
    some (changeGrantState engine id generation state actor)
  | .changeReservationState id generation state actor =>
    some (changeReservationState engine id generation state actor)
  | .changePolicyState id generation state actor =>
    some (changePolicyState engine id generation state actor)
  | .changeResourceState id generation state actor =>
    some (changeResourceState engine id generation state actor)
  | _ => none

/-- The operation reports success. -/
def succeeds (s : System) (action : Action) : Bool :=
  (operation s.engine action.event).any fun decision ↦
    (decision.perform s.engine action.io).2.1.isNone

/-- A state change asked for at the largest generation of an entry that has reached it. -/
def outruns (tables : Tables) : Event → Bool
  | .changeGrantState id generation _ _ => largest .grant id.value generation
  | .changeReservationState id generation _ _ => largest .reservation id.value generation
  | .changePolicyState id generation _ _ => largest .policy id.value generation
  | .changeResourceState id generation _ _ => largest .resource id.value generation
  | _ => false
where
  largest (kind : AuthorityKind) (k : U64) (generation : Generation) : Bool :=
    generation.value = kU64Max && generationAt tables kind k = some generation

section Operations

variable {s t : System} {action : Action} {engine : Engine} {io : Io}

theorem perform_map {ρ σ : Type} (f : ρ → σ) (decision : Decision ρ) :
    ((Decision.map f decision).perform engine io).1 = (decision.perform engine io).1 := by
  have hcommit : (Decision.map f decision).commit engine io = decision.commit engine io := rfl
  have hrecords : (Decision.map f decision).records = decision.records := rfl
  unfold Decision.perform
  rw [hcommit, hrecords]
  split
  · rfl
  · dsimp only
    cases (decision.commit engine io).status <;> rfl

theorem section_of_operation {decision : Decision Status}
    (hoperation : operation s.engine action.event = some decision) :
    sectionOf s action.event = some (once s decision) := by
  generalize action.event = event at hoperation
  cases event <;> cases hoperation <;> rfl

theorem engine_of_operation {decision : Decision Status}
    (hoperation : operation s.engine action.event = some decision)
    (hstep : step s action = some t) : t.engine = (decision.perform s.engine action.io).1 := by
  rw [step, section_of_operation hoperation] at hstep
  cases hstep
  exact perform_map _ decision

theorem stage_reply (control : Control) (records : List Staged) (error : Error) :
    (stage control records).reply (some error) ≠ none := nofun

theorem perform_stage {control : Control} {staged : Staged}
    (h : ((stage control [staged]).perform engine io).2.1 = none) :
    ((stage control [staged]).commit engine io).status = none ∧
      ((stage control [staged]).perform engine io).1.tables =
        installed engine.config engine.tables [staged] := by
  refine ⟨?_, (perform_done (stage_reply _ _) h).2.2⟩
  unfold Decision.perform at h
  rw [if_neg (show ¬ (stage control [staged]).records.isEmpty = true from Bool.false_ne_true)] at h
  simp only at h
  split at h
  · cases h
  · assumption

theorem ingest_staged {names : Ingest} {shape : ReasonCode} {existing : Option Generation}
    {generation : Generation} {size : ℕ} {limit : U64} {staged : Staged}
    (h : ((ingest engine names shape existing generation size limit staged).perform
      engine io).2.1 = none) :
    ingest engine names shape existing generation size limit staged =
        stage engine.control [staged] ∧
      ∀ stored, existing = some stored → stored.value < generation.value := by
  unfold ingest at h ⊢
  split at h
  · next hshape =>
    have hnone : ingestPrecondition shape names.what = none := h
    rw [ingestPrecondition, if_neg hshape] at hnone
    cases hnone
  · split at h
    · cases h
    · cases existing with
      | none =>
        simp only at h
        split at h
        · cases h
        · next hshape hrunning hroom =>
          rw [if_neg hshape, if_neg hrunning]
          exact ⟨if_neg hroom, fun _ hstored ↦ nomatch hstored⟩
      | some stored =>
        simp only at h
        split at h
        · cases h
        · next hshape hrunning hnewer =>
          rw [if_neg hshape, if_neg hrunning]
          refine ⟨if_neg hnewer, ?_⟩
          intro other hother
          cases hother
          exact UInt64.not_le.1 hnewer

theorem changeState_staged {α : Type} {actor : ActorContext} {found : Option α}
    {missing mismatch : Error} {current : α → Bool} {staged : α → Staged}
    (h : ((changeState engine actor found missing mismatch current staged).perform
      engine io).2.1 = none) :
    ∃ old, found = some old ∧ current old = true ∧
      changeState engine actor found missing mismatch current staged =
        stage engine.control [staged old] := by
  unfold changeState at h ⊢
  split at h
  · cases h
  · next hrunning =>
    rw [if_neg hrunning]
    cases hactor : checkActor engine actor with
    | some fence =>
      rw [hactor] at h
      cases h
    | none =>
      rw [hactor] at h
      cases found with
      | none => cases h
      | some old =>
        simp only at h ⊢
        split at h
        · cases h
        · next hcurrent => exact ⟨old, rfl, by simpa using hcurrent, if_neg hcurrent⟩

theorem staged_of_operation {event : Event} {decision : Decision Status}
    (hoperation : operation engine event = some decision)
    (h : (decision.perform engine io).2.1 = none) :
    ∃ staged, decision = stage engine.control [staged] := by
  cases event with
  | putFlow flow | putGrant grant | putReservation reservation | putPolicy policy
  | putResource resource | putBackend backend =>
    cases hoperation
    exact ⟨_, (ingest_staged h).1⟩
  | changeGrantState id | changeReservationState id | changePolicyState id
  | changeResourceState id =>
    cases hoperation
    obtain ⟨old, -, -, hstage⟩ := changeState_staged h
    exact ⟨_, hstage⟩
  | _ => cases hoperation

theorem commits_of_succeeds (hsuccess : succeeds s action = true) : commits s action = true := by
  obtain ⟨decision, hoperation, hdone⟩ := (Option.any_eq_true _ _).1 hsuccess
  have hdone := Option.isNone_iff_eq_none.1 hdone
  have hsection := section_of_operation hoperation
  obtain ⟨staged, rfl⟩ := staged_of_operation hoperation hdone
  exact commits_of_committed hsection (List.cons_ne_nil _ _) (perform_stage hdone).1

def authorityOf : Staged → Option (AuthorityKind × U64 × Generation)
  | .flow flow => some (.flow, flow.id.value, flow.generation)
  | .grant _ grant => some (.grant, grant.id.value, grant.generation)
  | .reservation _ reservation =>
    some (.reservation, reservation.id.value, reservation.generation)
  | .policy _ policy => some (.policy, policy.id.value, policy.generation)
  | .resource _ resource => some (.resource, resource.id.value, resource.generation)
  | .backend backend => some (.backend, backend.id.value, backend.generation)
  | _ => none

theorem generationAt_installed {config : EngineConfig} {tables : Tables} {staged : Staged}
    {kind : AuthorityKind} {k : U64} {generation : Generation}
    (h : authorityOf staged = some (kind, k, generation)) :
    generationAt (installed config tables [staged]) kind k = some generation := by
  have stored {α : Type} {key : α → U64} (r : Registry α key) (v : α) (f : α → Generation) :
      ((r.put v).find (key v)).map f = some (f v) := by
    rw [Registry.find_put_self]
    rfl
  cases staged <;> cases h
  all_goals exact stored _ _ _

variable {kind : AuthorityKind} {k : U64}

theorem newer_of_ingest {names : Ingest} {shape : ReasonCode} {existing : Option Generation}
    {generation : Generation} {size : ℕ} {limit : U64} {staged : Staged}
    (h : ((ingest engine names shape existing generation size limit staged).perform
      engine io).2.1 = none) (hexisting : existing = generationAt engine.tables kind k)
    (hstaged : authorityOf staged = some (kind, k, generation)) :
    ∃ next, generationAt ((ingest engine names shape existing generation size limit
        staged).perform engine io).1.tables kind k = some next ∧
      ∀ old, generationAt engine.tables kind k = some old → old.value < next.value := by
  obtain ⟨hstage, hnewer⟩ := ingest_staged h
  rw [hexisting] at hnewer
  refine ⟨generation, ?_, hnewer⟩
  rw [hstage] at h ⊢
  rw [(perform_stage h).2]
  exact generationAt_installed hstaged

theorem newer_of_changeState {α : Type} {actor : ActorContext} {found : Option α}
    {missing mismatch : Error} {generation : Generation} {generationOf : α → Generation}
    {staged : α → Staged}
    (h : ((changeState engine actor found missing mismatch
      (fun old ↦ generationOf old = generation) staged).perform engine io).2.1 = none)
    (hfound : found.map generationOf = generationAt engine.tables kind k)
    (hstaged : ∀ old, found = some old →
      authorityOf (staged old) = some (kind, k, ⟨generation.value + 1⟩))
    (hroom : outruns.largest engine.tables kind k generation = false) :
    ∃ next, generationAt ((changeState engine actor found missing mismatch
        (fun old ↦ generationOf old = generation) staged).perform engine io).1.tables kind k =
          some next ∧
      ∀ old, generationAt engine.tables kind k = some old → old.value < next.value := by
  obtain ⟨old, hold, hcurrent, hstage⟩ := changeState_staged h
  have hbefore : generationAt engine.tables kind k = some generation := by
    rw [← hfound, hold, Option.map_some, of_decide_eq_true hcurrent]
  refine ⟨⟨generation.value + 1⟩, ?_, ?_⟩
  · rw [hstage] at h ⊢
    rw [(perform_stage h).2]
    exact generationAt_installed (hstaged old hold)
  · intro stored hstored
    rw [hbefore] at hstored
    cases hstored
    simp only [outruns.largest, hbefore, decide_true, Bool.and_true,
      decide_eq_false_iff_not] at hroom
    exact lt_succ hroom

theorem newer_of_succeeds (hstep : step s action = some t)
    (htarget : target action.event = some (kind, k)) (hsuccess : succeeds s action = true)
    (hroom : outruns s.engine.tables action.event = false) :
    ∃ generation, generationAt t.engine.tables kind k = some generation ∧
      ∀ old, generationAt s.engine.tables kind k = some old → old.value < generation.value := by
  obtain ⟨decision, hoperation, hdone⟩ := (Option.any_eq_true _ _).1 hsuccess
  have hengine := engine_of_operation hoperation hstep
  have hdone := Option.isNone_iff_eq_none.1 hdone
  rw [hengine]
  generalize action.event = event at htarget hoperation hroom
  cases event with
  | putFlow flow | putGrant grant | putReservation reservation | putPolicy policy
  | putResource resource | putBackend backend =>
    cases htarget
    cases hoperation
    exact newer_of_ingest hdone rfl rfl
  | changeGrantState id | changeReservationState id | changePolicyState id
  | changeResourceState id =>
    cases htarget
    cases hoperation
    refine newer_of_changeState hdone rfl ?_ hroom
    intro old hold
    have hkey := Registry.key_of_find hold
    rw [← hkey]
    rfl
  | _ => cases htarget

end Operations

section Runs

variable {s t u : System} {action : Action} {kind : AuthorityKind} {k : U64}

theorem not_wraps {event : Event} (h : outruns s.engine.tables event = false) :
    ¬ Wraps s event := by
  have largest {kind : AuthorityKind} {k : U64} {generation : Generation}
      (hmax : generation.value = kU64Max)
      (hstored : generationAt s.engine.tables kind k = some generation) :
      outruns.largest s.engine.tables kind k generation = true := by
    simp only [outruns.largest, hmax, hstored, decide_true, Bool.and_self]
  intro hwraps
  cases hwraps with
  | grant hfound hmax | reservation hfound hmax | policy hfound hmax | resource hfound hmax =>
    refine Bool.false_ne_true (h.symm.trans (largest hmax ?_))
    simp only [generationAt, hfound, Option.map_some]

theorem flows_step (h : step s action = some t) :
    Advances (·.generation) s.engine.tables.flows t.engine.tables.flows := by
  obtain ⟨records, hstages, htables⟩ := tables_step h
  rw [htables, (installed_registries _ _).1]
  generalize action.event = event at hstages
  refine Advances.of_putAll fun record hmem v hv old hold ↦ ?_
  cases record <;> cases hv
  cases hstages _ hmem with
  | flow hnewer => exact hnewer old hold

theorem Advances.generation {α : Type} {key : α → U64} {f : α → Generation} {r r' : Registry α key}
    (h : Advances f r r') {generation : Generation} (hfind : (r.find k).map f = some generation) :
    ∃ next, (r'.find k).map f = some next ∧ generation.value ≤ next.value := by
  obtain ⟨v, hv, rfl⟩ := Option.map_eq_some_iff.1 hfind
  obtain ⟨v', hv', rfl | hnewer⟩ := h k v hv
  · exact ⟨_, Option.map_eq_some_iff.2 ⟨v', hv', rfl⟩, UInt64.le_refl _⟩
  · exact ⟨_, Option.map_eq_some_iff.2 ⟨v', hv', rfl⟩, UInt64.le_of_lt hnewer⟩

/-- No state change that the run commits is asked for at the largest generation of an entry. -/
def within (s : System) (action : Action) : Prop :=
  commits s action = true → outruns s.engine.tables action.event = false

instance (s : System) (action : Action) : Decidable (within s action) :=
  inferInstanceAs (Decidable (_ → _))

theorem authorities_within (hok : within s action) (h : step s action = some t) :
    AuthoritiesAdvance s.engine.tables t.engine.tables := by
  obtain hsame | hcommits := same_or_commits h
  · rw [hsame]
    exact .refl _
  · exact authorities_step (not_wraps (hok hcommits)) h

/-- No step takes a generation back or forgets it. -/
theorem generation_step (hok : within s action) (h : step s action = some t)
    {generation : Generation}
    (hstored : generationAt s.engine.tables kind k = some generation) :
    ∃ next, generationAt t.engine.tables kind k = some next ∧ generation.value ≤ next.value := by
  have hadvance := authorities_within hok h
  cases kind with
  | flow => exact Advances.generation (flows_step h) hstored
  | grant => exact Advances.generation hadvance.grants hstored
  | reservation => exact Advances.generation hadvance.reservations hstored
  | policy => exact Advances.generation hadvance.policies hstored
  | resource => exact Advances.generation hadvance.resources hstored
  | backend => exact Advances.generation hadvance.backends hstored

theorem generation_reaches (h : Reaches step within s t) {generation : Generation}
    (hstored : generationAt s.engine.tables kind k = some generation) :
    ∃ next, generationAt t.engine.tables kind k = some next ∧ generation.value ≤ next.value := by
  induction h with
  | refl => exact ⟨generation, hstored, UInt64.le_refl _⟩
  | tail _ hok hstep ih =>
    obtain ⟨next, hnext, hle⟩ := ih
    obtain ⟨later, hlater, hle'⟩ := generation_step hok hstep hnext
    exact ⟨later, hlater, UInt64.le_trans hle hle'⟩

/-- In a run that asks for no state change at the largest generation, an operation that succeeds
stores a generation greater than any that was stored for its id before. -/
theorem stores_greater (hrun : Reaches step within s t) (hok : within t action)
    (hstep : step t action = some u) (htarget : target action.event = some (kind, k))
    (hsuccess : succeeds t action = true) :
    ∃ generation, generationAt u.engine.tables kind k = some generation ∧
      ∀ old, generationAt s.engine.tables kind k = some old → old.value < generation.value := by
  have hroom := hok (commits_of_succeeds hsuccess)
  obtain ⟨generation, hstored, hnewer⟩ := newer_of_succeeds hstep htarget hsuccess hroom
  refine ⟨generation, hstored, ?_⟩
  intro old hold
  obtain ⟨current, hcurrent, hle⟩ := generation_reaches hrun hold
  exact UInt64.lt_of_le_of_lt hle (hnewer current hcurrent)

end Runs

section Sample

def recallGrant : Action := ⟨.changeGrantState ⟨1⟩ ⟨1⟩ .recalled actor, []⟩

def regrant : Action := ⟨.putGrant { sampleGrant with generation := ⟨3⟩ }, []⟩

/-- A grant is registered, recalled and registered again. -/
theorem greater_after_recall : ∃ s t u, step sampleStart ⟨.putGrant sampleGrant, []⟩ = some s ∧
    step s recallGrant = some t ∧ step t regrant = some u ∧
    generationAt s.engine.tables .grant 1 = some ⟨1⟩ ∧
    ∃ generation, generationAt u.engine.tables .grant 1 = some generation ∧
      ∀ old, generationAt s.engine.tables .grant 1 = some old → old.value < generation.value := by
  refine ⟨_, _, _, rfl, rfl, rfl, by decide +kernel, ?_⟩
  refine @stores_greater _ _ _ regrant .grant 1 (.tail (a := recallGrant) .refl ?_ rfl) ?_ rfl rfl ?_
  all_goals decide +kernel

/-- The last grant there can be is recalled, and registered once more. -/
def lastGrant : Grant := { sampleGrant with generation := ⟨kU64Max⟩ }

def recallLast : Action := ⟨.changeGrantState ⟨1⟩ ⟨kU64Max⟩ .recalled actor, []⟩

theorem recalled_grant_returns : ∃ s t u,
    step sampleStart ⟨.putGrant lastGrant, []⟩ = some s ∧ step s recallLast = some t ∧
      step t ⟨.putGrant lastGrant, []⟩ = some u ∧
      generationAt s.engine.tables .grant 1 = some ⟨kU64Max⟩ ∧
      succeeds s recallLast = true ∧ generationAt t.engine.tables .grant 1 = some ⟨0⟩ ∧
      succeeds t ⟨.putGrant lastGrant, []⟩ = true ∧
      u.engine.tables.grants.find 1 = some lastGrant :=
  ⟨_, _, _, rfl, rfl, rfl, by decide +kernel, by decide +kernel, by decide +kernel,
    by decide +kernel, by decide +kernel⟩

end Sample

end RateGovernor.Safety.Generations
