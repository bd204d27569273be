import Mathlib.Algebra.BigOperators.Group.List.Basic
import Mathlib.Tactic.Abel

namespace RateGovernor.Foundation.Slots

variable {α M : Type} [AddCommMonoid M]

/-- What the slots hold together, each of them by the measure `f`. -/
def total (f : α → M) (slots : List α) : M := (slots.map f).sum

theorem total_cons (f : α → M) (a : α) (slots : List α) :
    total f (a :: slots) = f a + total f slots := by
  simp only [total, List.map_cons, List.sum_cons]

/-- One slot set apart from the others, which keep what they hold when it is written. -/
theorem total_apart (f : α → M) {slots : List α} {index : ℕ} {old : α}
    (h : slots[index]? = some old) :
    ∃ others, total f slots = f old + others ∧
      ∀ new, total f (slots.set index new) = f new + others := by
  induction slots generalizing index with
  | nil =>
    rw [List.getElem?_nil] at h
    cases h
  | cons a slots ih =>
    cases index with
    | zero =>
      rw [List.getElem?_cons_zero] at h
      cases h
      exact ⟨total f slots, total_cons f old slots, fun new ↦ total_cons f new slots⟩
    | succ index =>
      rw [List.getElem?_cons_succ] at h
      obtain ⟨others, hslots, hset⟩ := ih h
      refine ⟨f a + others, ?_, fun new ↦ ?_⟩
      · rw [total_cons, hslots, add_left_comm]
      · rw [List.set_cons_succ, total_cons, hset new, add_left_comm]

theorem total_eq_zero {f : α → M} {slots : List α} (h : ∀ slot ∈ slots, f slot = 0) :
    total f slots = 0 := by
  induction slots with
  | nil => rfl
  | cons a slots ih =>
    rw [total_cons, h a List.mem_cons_self, zero_add]
    exact ih fun slot hslot ↦ h slot (List.mem_cons_of_mem a hslot)

theorem total_replicate {f : α → M} {a : α} (h : f a = 0) (n : ℕ) :
    total f (List.replicate n a) = 0 :=
  total_eq_zero fun _ hslot ↦ (List.eq_of_mem_replicate hslot) ▸ h

/-- What the slots hold together with `p` makes up `a`. When one slot is written and the rest moves
so that nothing is gained and nothing lost, they make up the new whole. -/
theorem total_balanced {M : Type} [AddCancelCommMonoid M] {f : α → M} {slots : List α} {index : ℕ}
    {old new : α} {a b p q : M} (h : slots[index]? = some old) (ha : a = total f slots + p)
    (hb : b + (f old + p) = a + (f new + q)) : b = total f (slots.set index new) + q := by
  obtain ⟨others, hslots, hset⟩ := total_apart f h
  have hwhole : b + (f old + p) = (f new + others + q) + (f old + p) := by
    rw [hb, ha, hslots]
    abel
  rw [hset new]
  exact add_right_cancel hwhole

end RateGovernor.Foundation.Slots
