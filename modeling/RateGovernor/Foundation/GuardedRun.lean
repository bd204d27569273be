import Mathlib.Data.Nat.Notation
import Mathlib.Logic.Basic

namespace RateGovernor.Foundation.GuardedRun

variable {σ α : Type} {step : σ → α → Option σ} {ok ok' : σ → α → Prop}

/-- States reached by steps that each meet the guard `ok` where they start. -/
inductive Reaches (step : σ → α → Option σ) (ok : σ → α → Prop) (s : σ) : σ → Prop
  | refl : Reaches step ok s s
  | tail {t u : σ} {a : α} : Reaches step ok s t → ok t a → step t a = some u → Reaches step ok s u

/-- The guard that admits every step. -/
def anyStep : σ → α → Prop := fun _ _ ↦ True

theorem Reaches.trans {s t u : σ} (h : Reaches step ok s t) (h' : Reaches step ok t u) :
    Reaches step ok s u := by
  induction h' with
  | refl => exact h
  | tail _ hok hs ih => exact .tail ih hok hs

theorem Reaches.mono {s t : σ} (himp : ∀ s a, ok s a → ok' s a) (h : Reaches step ok s t) :
    Reaches step ok' s t := by
  induction h with
  | refl => exact .refl
  | tail _ hok hs ih => exact .tail ih (himp _ _ hok) hs

/-- A property kept by every guarded step survives every guarded run. -/
theorem Reaches.invariant {I : σ → Prop} {s t : σ} (h : Reaches step ok s t) (hs : I s)
    (hstep : ∀ s a t, I s → ok s a → step s a = some t → I t) : I t := by
  induction h with
  | refl => exact hs
  | tail _ hok hst ih => exact hstep _ _ _ ih hok hst

/-- Executes a list of actions, stopping at the first one that is not enabled. -/
def run (step : σ → α → Option σ) : σ → List α → Option σ
  | s, [] => some s
  | s, a :: actions => match step s a with
    | none => none
    | some t => run step t actions

theorem run_singleton (s : σ) (a : α) : run step s [a] = step s a := by
  simp only [run]
  cases step s a <;> rfl

theorem run_append {s t : σ} {actions rest : List α} (h : run step s actions = some t) :
    run step s (actions ++ rest) = run step t rest := by
  induction actions generalizing s with
  | nil =>
    cases h
    rfl
  | cons a actions ih =>
    cases hs : step s a with
    | none =>
      simp only [run, hs] at h
      cases h
    | some u =>
      simp only [run, hs] at h
      simp only [List.cons_append, run, hs]
      exact ih h

theorem run_concat {s t : σ} {a : α} {actions : List α}
    (h : run step s (actions ++ [a]) = some t) :
    ∃ u, run step s actions = some u ∧ step u a = some t := by
  induction actions generalizing s with
  | nil => exact ⟨s, rfl, (run_singleton s a).symm.trans h⟩
  | cons b actions ih =>
    cases hs : step s b with
    | none =>
      simp only [List.cons_append, run, hs] at h
      cases h
    | some u =>
      simp only [List.cons_append, run, hs] at h ⊢
      exact ih h

/-- A measure that no step raises and that each counted action lowers bounds the number of counted
actions in a run. -/
theorem countP_add_le {I : σ → Prop} {measure : σ → ℕ} {counted : α → Bool} {s t : σ}
    {actions : List α} (hkeep : ∀ s a t, I s → step s a = some t → I t)
    (hlower : ∀ s a t, I s → step s a = some t →
      measure t + (if counted a then 1 else 0) ≤ measure s)
    (hs : I s) (h : run step s actions = some t) :
    actions.countP counted + measure t ≤ measure s := by
  induction actions generalizing s with
  | nil =>
    cases h
    exact Nat.le_of_eq (Nat.zero_add _)
  | cons a actions ih =>
    cases hstep : step s a with
    | none => simp only [run, hstep] at h; cases h
    | some u =>
      simp only [run, hstep] at h
      have hrest := ih (hkeep s a u hs hstep) h
      have hfirst := hlower s a u hs hstep
      rw [List.countP_cons]
      omega

theorem invariant_of_run {I : σ → Prop} {s t : σ} {actions : List α}
    (hkeep : ∀ s a t, I s → step s a = some t → I t) (hs : I s) (h : run step s actions = some t) :
    I t := by
  induction actions generalizing s with
  | nil =>
    cases h
    exact hs
  | cons a actions ih =>
    cases hstep : step s a with
    | none => simp only [run, hstep] at h; cases h
    | some u =>
      simp only [run, hstep] at h
      exact ih (hkeep s a u hs hstep) h

/-- Every action of the list is enabled and meets the guard where it is taken. -/
def Guarded (step : σ → α → Option σ) (ok : σ → α → Prop) : σ → List α → Prop
  | _, [] => True
  | s, a :: actions => ok s a ∧ match step s a with
    | none => True
    | some t => Guarded step ok t actions

theorem Guarded.mono {s : σ} {actions : List α} (himp : ∀ s a, ok s a → ok' s a)
    (h : Guarded step ok s actions) : Guarded step ok' s actions := by
  induction actions generalizing s with
  | nil => trivial
  | cons a actions ih =>
    obtain ⟨ha, hrest⟩ := h
    refine ⟨himp s a ha, ?_⟩
    cases hs : step s a with
    | none => trivial
    | some t =>
      simp only [hs] at hrest
      exact ih hrest

theorem Guarded.both {s : σ} {actions : List α} (h : Guarded step ok s actions)
    (h' : Guarded step ok' s actions) : Guarded step (fun s a ↦ ok s a ∧ ok' s a) s actions := by
  induction actions generalizing s with
  | nil => trivial
  | cons a actions ih =>
    obtain ⟨ha, hrest⟩ := h
    obtain ⟨ha', hrest'⟩ := h'
    refine ⟨⟨ha, ha'⟩, ?_⟩
    cases hs : step s a with
    | none => trivial
    | some t =>
      rw [hs] at hrest hrest'
      exact ih hrest hrest'

theorem Guarded.of_append {s t : σ} {before rest : List α} (h : Guarded step ok s (before ++ rest))
    (hrun : run step s before = some t) : Guarded step ok s before ∧ Guarded step ok t rest := by
  induction before generalizing s with
  | nil =>
    cases hrun
    exact ⟨trivial, h⟩
  | cons a before ih =>
    obtain ⟨ha, hrest⟩ := h
    cases hs : step s a with
    | none =>
      simp only [run, hs] at hrun
      cases hrun
    | some u =>
      simp only [run, hs] at hrun
      rw [hs] at hrest
      obtain ⟨hbefore, hafter⟩ := ih hrest hrun
      refine ⟨⟨ha, ?_⟩, hafter⟩
      rw [hs]
      exact hbefore

instance decidableGuarded [∀ s a, Decidable (ok s a)] :
    (s : σ) → (actions : List α) → Decidable (Guarded step ok s actions)
  | _, [] => isTrue trivial
  | s, a :: actions =>
    have : Decidable (match step s a with
        | none => True
        | some t => Guarded step ok t actions) :=
      match step s a with
      | none => isTrue trivial
      | some t => decidableGuarded t actions
    inferInstanceAs (Decidable (ok s a ∧ match step s a with
      | none => True
      | some t => Guarded step ok t actions))

theorem reaches_of_run {s t : σ} {actions : List α} (hok : Guarded step ok s actions)
    (h : run step s actions = some t) : Reaches step ok s t := by
  induction actions generalizing s with
  | nil =>
    cases h
    exact .refl
  | cons a actions ih =>
    obtain ⟨ha, hrest⟩ := hok
    cases hs : step s a with
    | none => simp only [run, hs] at h; cases h
    | some u =>
      simp only [run, hs] at h hrest
      exact (Reaches.tail .refl ha hs).trans (ih hrest h)

theorem guarded_anyStep (s : σ) (actions : List α) : Guarded step anyStep s actions := by
  induction actions generalizing s with
  | nil => trivial
  | cons a actions ih =>
    refine ⟨trivial, ?_⟩
    cases step s a with
    | none => trivial
    | some t => exact ih t

section Driving

variable {s t : σ} {a : α} {actions : List α}

/-- Takes the actions one after the other, passing over those that are not enabled. -/
def drive (step : σ → α → Option σ) : σ → List α → σ
  | s, [] => s
  | s, a :: actions => match step s a with
    | none => drive step s actions
    | some t => drive step t actions

theorem drive_enabled (h : step s a = some t) :
    drive step s (a :: actions) = drive step t actions := by
  simp only [drive, h]

theorem drive_disabled (h : step s a = none) :
    drive step s (a :: actions) = drive step s actions := by
  simp only [drive, h]

theorem drive_append (s : σ) (actions rest : List α) :
    drive step s (actions ++ rest) = drive step (drive step s actions) rest := by
  induction actions generalizing s with
  | nil => rfl
  | cons a actions ih =>
    cases hs : step s a with
    | none =>
      rw [List.cons_append, drive_disabled hs, drive_disabled hs]
      exact ih s
    | some t =>
      rw [List.cons_append, drive_enabled hs, drive_enabled hs]
      exact ih t

/-- Actions of which none is enabled change nothing. -/
theorem drive_idle (h : ∀ a ∈ actions, step s a = none) : drive step s actions = s := by
  induction actions with
  | nil => rfl
  | cons a actions ih =>
    rw [drive_disabled (h a List.mem_cons_self)]
    exact ih fun b hb ↦ h b (List.mem_cons_of_mem a hb)

/-- Driving is a run, with the actions passed over left out. -/
theorem reaches_drive (hok : ∀ s, ∀ a ∈ actions, ok s a) :
    Reaches step ok s (drive step s actions) := by
  induction actions generalizing s with
  | nil => exact .refl
  | cons a actions ih =>
    have hrest : ∀ s, ∀ b ∈ actions, ok s b := fun s b hb ↦ hok s b (List.mem_cons_of_mem a hb)
    cases hs : step s a with
    | none =>
      rw [drive_disabled hs]
      exact ih hrest
    | some t =>
      rw [drive_enabled hs]
      exact (Reaches.tail .refl (hok s a List.mem_cons_self) hs).trans (ih hrest)

end Driving

end RateGovernor.Foundation.GuardedRun
