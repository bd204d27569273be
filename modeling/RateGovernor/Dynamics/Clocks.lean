import RateGovernor.Dynamics.Evolution

namespace RateGovernor.Dynamics.Clocks

open Model.CheckedMath Model.Calls Model.Lifecycle Model.Execution Foundation.GuardedRun Turns

def readingOf : Event → Option U64
  | .advanceEpoch _ _ now | .openEnvelope _ _ now | .authorize _ _ now | .apply _ _ now _
  | .revoke _ _ _ now _ | .cancelAttempt _ _ _ now | .abandonAttempt _ _ _ now
  | .consumeBurst _ _ now | .tick now _ | .revalidateAll _ now | .shutdown now
  | .readClock _ now | .readBack _ _ now | .publish _ now | .revalidateNext _ now _ => some now
  | _ => none

structure Timed extends Action where
  instant : U64

/-- A system, the instant its clock has come to, and for each outstanding call the instant at which
it last went on. -/
structure Clocked where
  system : System
  clock : U64 := 0
  marks : List U64 := []

/-- A call that begins or goes on is marked with the instant, and one that ends loses its mark. -/
def remark (event : Event) (before after : List Call) (instant : U64) (marks : List U64) :
    List U64 :=
  match siteOf event with
  | .opening => marks ++ List.replicate (after.length - before.length) instant
  | .resuming i =>
    if after.length < before.length then marks.eraseIdx i else marks.set i instant
  | .waiting i => marks.set i instant

def clockedStep (c : Clocked) (timed : Timed) : Option Clocked :=
  (step c.system timed.toAction).map fun system ↦
    { system
      clock := timed.instant
      marks := remark timed.event c.system.calls system.calls timed.instant c.marks }

def unlocked (event : Event) : Bool :=
  match siteOf event with
  | .waiting _ => true
  | _ => false

/-- The clock does not run backwards. A section may run later than the reading it works with, which
is taken before the lock; what a call waits for without the lock is read as it happens. -/
structure Timely (c : Clocked) (timed : Timed) : Prop where
  forward : c.clock ≤ timed.instant
  read : ∀ now, readingOf timed.event = some now → now ≤ timed.instant
  prompt : unlocked timed.event = true → ∀ now, readingOf timed.event = some now →
    now = timed.instant

instance (c : Clocked) (timed : Timed) : Decidable (Timely c timed) :=
  decidable_of_iff (c.clock ≤ timed.instant ∧
      (readingOf timed.event).all (fun now ↦ now ≤ timed.instant) = true ∧
      (unlocked timed.event = true →
        (readingOf timed.event).all (fun now ↦ now = timed.instant) = true)) (by
    simp only [Option.all_eq_true, decide_eq_true_eq]
    exact ⟨fun ⟨hforward, hread, hprompt⟩ ↦ ⟨hforward, hread, hprompt⟩,
      fun ⟨hforward, hread, hprompt⟩ ↦ ⟨hforward, hread, hprompt⟩⟩)

section Steps

variable {c d : Clocked} {timed : Timed} {ok : Clocked → Timed → Prop} {call : Call} {mark : U64}
  {i : ℕ}

theorem system_step (h : clockedStep c timed = some d) :
    step c.system timed.toAction = some d.system := by
  obtain ⟨system, hstep, hd⟩ := Option.map_eq_some_iff.1 h
  rw [hstep, ← hd]

theorem clock_step (h : clockedStep c timed = some d) : d.clock = timed.instant := by
  obtain ⟨system, -, hd⟩ := Option.map_eq_some_iff.1 h
  rw [← hd]

theorem marks_step (h : clockedStep c timed = some d) :
    d.marks = remark timed.event c.system.calls d.system.calls timed.instant c.marks := by
  obtain ⟨system, -, hd⟩ := Option.map_eq_some_iff.1 h
  rw [← hd]

def Aligned (c : Clocked) : Prop := c.marks.length = c.system.calls.length

theorem aligned_step (h : Aligned c) (hstep : clockedStep c timed = some d) : Aligned d := by
  obtain ⟨status, houtstanding⟩ := outstanding_step (system_step hstep)
  rw [Aligned, marks_step hstep]
  unfold Aligned at h
  generalize d.system.calls = calls at houtstanding
  unfold remark
  cases houtstanding with
  | opening hsite =>
    rw [hsite]
    simp only [List.length_append, List.length_replicate, h, Nat.add_sub_cancel_left]
  | @resuming i next hsite hfound =>
    rw [hsite]
    cases next with
    | none =>
      have hlength := List.length_eraseIdx_of_lt hfound
      have hshorter : (c.system.calls.eraseIdx i).length < c.system.calls.length := by omega
      simp only [replaceCall, hshorter, if_true]
      rw [List.length_eraseIdx_of_lt (h ▸ hfound), h, hlength]
    | some call =>
      simp only [replaceCall, List.length_set, Nat.lt_irrefl, if_false, h]
  | waiting hsite =>
    rw [hsite]
    simp only [List.length_set, h]

theorem mark_step (h : Aligned c) (hstep : clockedStep c timed = some d)
    (hcall : d.system.calls[i]? = some call) (hmark : d.marks[i]? = some mark) :
    (∃ j : ℕ, c.system.calls[j]? = some call ∧ c.marks[j]? = some mark) ∨
      mark = timed.instant ∧ ∃ status, Begins c.system timed.event status call := by
  obtain ⟨status, houtstanding⟩ := outstanding_step (system_step hstep)
  rw [marks_step hstep] at hmark
  unfold Aligned at h
  generalize d.system.calls = calls at houtstanding hcall hmark
  unfold remark at hmark
  have placed {j : ℕ} {next : Call} (hbegins : Begins c.system timed.event status next)
      (hcall : (c.system.calls.set j next)[i]? = some call)
      (hmark : (c.marks.set j timed.instant)[i]? = some mark) :
      (∃ k : ℕ, c.system.calls[k]? = some call ∧ c.marks[k]? = some mark) ∨
        mark = timed.instant ∧ ∃ status, Begins c.system timed.event status call := by
    by_cases hij : j = i
    · subst hij
      rw [List.getElem?_set_self'] at hcall hmark
      obtain ⟨_, -, rfl⟩ := Option.map_eq_some_iff.1 hcall
      obtain ⟨_, -, rfl⟩ := Option.map_eq_some_iff.1 hmark
      exact .inr ⟨rfl, status, hbegins⟩
    · rw [List.getElem?_set_ne hij] at hcall hmark
      exact .inl ⟨i, hcall, hmark⟩
  cases houtstanding with
  | @opening next hsite hbegins =>
    rw [hsite] at hmark
    by_cases hold : i < c.system.calls.length
    · rw [List.getElem?_append_left hold] at hcall
      rw [List.getElem?_append_left (h ▸ hold)] at hmark
      exact .inl ⟨i, hcall, hmark⟩
    · have hnew : c.system.calls.length ≤ i := Nat.le_of_not_lt hold
      rw [List.getElem?_append_right hnew] at hcall
      simp only at hmark
      rw [List.getElem?_append_right (h ▸ hnew)] at hmark
      have hnext := Option.mem_toList.1 (List.mem_of_getElem? hcall)
      exact .inr ⟨List.eq_of_mem_replicate (List.mem_of_getElem? hmark), status, hbegins call hnext⟩
  | @resuming j next hsite hfound hbegins =>
    rw [hsite] at hmark
    cases next with
    | none =>
      have hlength := List.length_eraseIdx_of_lt hfound
      have hshorter : (c.system.calls.eraseIdx j).length < c.system.calls.length := by omega
      simp only [replaceCall, hshorter, if_true] at hcall hmark
      rw [List.getElem?_eraseIdx] at hcall hmark
      split at hcall
      · next hlt =>
        rw [if_pos hlt] at hmark
        exact .inl ⟨i, hcall, hmark⟩
      · next hge =>
        rw [if_neg hge] at hmark
        exact .inl ⟨i + 1, hcall, hmark⟩
    | some next =>
      simp only [replaceCall, List.length_set, Nat.lt_irrefl, if_false] at hcall hmark
      exact placed (hbegins next rfl) hcall hmark
  | waiting hsite hfound hbegins =>
    rw [hsite] at hmark
    exact placed hbegins hcall hmark

end Steps

end RateGovernor.Dynamics.Clocks
