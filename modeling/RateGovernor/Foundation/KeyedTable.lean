import Mathlib.Data.Nat.Notation
import Std.Data.ExtTreeMap

namespace RateGovernor.Foundation.KeyedTable

open Std

variable {α : Type}

/-- An ordered finite map from 64-bit keys, equal when it answers every lookup alike. -/
abbrev Table (α : Type) := ExtTreeMap UInt64 α compare

theorem getElem?_insert (t : Table α) (k a : UInt64) (v : α) :
    (t.insert k v)[a]? = if k = a then some v else t[a]? := by
  rw [ExtTreeMap.getElem?_insert]
  simp only [Std.compare_eq_iff_eq]

theorem getElem?_erase (t : Table α) (k a : UInt64) :
    (t.erase k)[a]? = if k = a then none else t[a]? := by
  rw [ExtTreeMap.getElem?_erase]
  simp only [Std.compare_eq_iff_eq]

theorem ext {t u : Table α} (h : ∀ k : UInt64, t[k]? = u[k]?) : t = u :=
  ExtTreeMap.ext_getElem? h

/-- Writing back the value a key already holds changes nothing. -/
theorem insert_of_getElem? {t : Table α} {k : UInt64} {v : α} (h : t[k]? = some v) :
    t.insert k v = t := by
  apply ext
  intro a
  rw [getElem?_insert]
  split
  · next hk => rw [← hk, h]
  · rfl

/-- A table that stores every value under the key the value itself names. -/
structure Registry (α : Type) (key : α → UInt64) where
  table : Table α
  keyed : ∀ (k : UInt64) (v : α), table[k]? = some v → key v = k

namespace Registry

variable {key : α → UInt64}

def empty : Registry α key where
  table := ∅
  keyed := by
    intro k v h
    rw [ExtTreeMap.getElem?_empty] at h
    cases h

def find (r : Registry α key) (k : UInt64) : Option α := r.table[k]?

def put (r : Registry α key) (v : α) : Registry α key where
  table := r.table.insert (key v) v
  keyed := by
    intro k w h
    rw [getElem?_insert] at h
    split at h
    · next hk => cases h; exact hk
    · exact r.keyed k w h

def remove (r : Registry α key) (k : UInt64) : Registry α key where
  table := r.table.erase k
  keyed := by
    intro a v h
    rw [getElem?_erase] at h
    split at h
    · cases h
    · exact r.keyed a v h

/-- The stored values in the order of their keys. -/
def entries (r : Registry α key) : List α := r.table.toList.map (·.2)

def size (r : Registry α key) : ℕ := r.table.size

theorem length_entries (r : Registry α key) : r.entries.length = r.size := by
  rw [entries, List.length_map, ExtTreeMap.length_toList]
  rfl

@[simp] theorem find_empty (k : UInt64) : (empty : Registry α key).find k = none :=
  ExtTreeMap.getElem?_empty

theorem find_put (r : Registry α key) (v : α) (k : UInt64) :
    (r.put v).find k = if key v = k then some v else r.find k :=
  getElem?_insert _ _ _ _

theorem find_remove (r : Registry α key) (k a : UInt64) :
    (r.remove k).find a = if k = a then none else r.find a :=
  getElem?_erase _ _ _

theorem key_of_find {r : Registry α key} {k : UInt64} {v : α} (h : r.find k = some v) :
    key v = k :=
  r.keyed k v h

theorem find_put_self (r : Registry α key) (v : α) : (r.put v).find (key v) = some v := by
  rw [find_put, if_pos rfl]

theorem find_put_of_ne (r : Registry α key) {v : α} {k : UInt64} (h : key v ≠ k) :
    (r.put v).find k = r.find k := by
  rw [find_put, if_neg h]

protected theorem ext {r s : Registry α key} (h : ∀ k, r.find k = s.find k) : r = s := by
  cases r with
  | mk table keyed =>
    cases s with
    | mk table' keyed' =>
      have htable : table = table' := KeyedTable.ext h
      subst htable
      rfl

/-- The later of two writes to a key stands. -/
theorem put_put (r : Registry α key) {v w : α} (h : key v = key w) :
    (r.put v).put w = r.put w := by
  refine Registry.ext fun k ↦ ?_
  rw [find_put, find_put, find_put, h]
  split <;> rfl

theorem mem_entries {r : Registry α key} {v : α} : v ∈ r.entries ↔ r.find (key v) = some v := by
  constructor
  · intro h
    obtain ⟨⟨k, w⟩, hmem, hw⟩ := List.mem_map.1 h
    have hfind : r.find k = some w := ExtTreeMap.mem_toList_iff_getElem?_eq_some.1 hmem
    simp only at hw
    rw [← hw, key_of_find hfind]
    exact hfind
  · intro h
    exact List.mem_map.2 ⟨(key v, v), ExtTreeMap.mem_toList_iff_getElem?_eq_some.2 h, rfl⟩

theorem mem_entries_of_find {r : Registry α key} {k : UInt64} {v : α} (h : r.find k = some v) :
    v ∈ r.entries := by
  rw [mem_entries, key_of_find h]
  exact h

/-- No two entries have the same key. -/
theorem nodup_entries (r : Registry α key) : (r.entries.map key).Nodup := by
  rw [entries, List.map_map, List.Nodup, List.pairwise_map]
  refine List.Pairwise.imp_of_mem ?_ (ExtTreeMap.distinct_keys_toList (t := r.table))
  intro a b ha hb hne heq
  have hkey (p : UInt64 × α) (hp : p ∈ r.table.toList) : key p.2 = p.1 :=
    r.keyed p.1 p.2 (ExtTreeMap.mem_toList_iff_getElem?_eq_some.1 hp)
  have heq : key a.2 = key b.2 := heq
  rw [hkey a ha, hkey b hb] at heq
  exact hne (compare_eq_iff_eq.2 heq)

/-- The entries stand in the order of their keys. -/
theorem sorted_entries (r : Registry α key) : r.entries.Pairwise fun v w ↦ key v < key w := by
  rw [entries, List.pairwise_map]
  refine List.Pairwise.imp_of_mem ?_ (ExtTreeMap.ordered_keys_toList (t := r.table))
  intro a b ha hb hlt
  have hkey (p : UInt64 × α) (hp : p ∈ r.table.toList) : key p.2 = p.1 :=
    r.keyed p.1 p.2 (ExtTreeMap.mem_toList_iff_getElem?_eq_some.1 hp)
  rw [hkey a ha, hkey b hb]
  exact Std.compare_eq_lt.1 hlt

/-- What stands before an entry has a smaller key. -/
theorem takeWhile_entries {r : Registry α key} {k : UInt64} {v : α} (h : r.find k = some v) :
    (r.entries.takeWhile fun w ↦ key w ≠ k) = r.entries.filter fun w ↦ key w < k := by
  have hmem : ∃ w ∈ r.entries, key w = k := ⟨v, mem_entries_of_find h, key_of_find h⟩
  have hsorted := r.sorted_entries
  generalize r.entries = list at hmem hsorted
  induction list with
  | nil =>
    obtain ⟨w, hw, -⟩ := hmem
    cases hw
  | cons w list ih =>
    obtain ⟨hbefore, hrest⟩ := List.pairwise_cons.1 hsorted
    by_cases hw : key w = k
    · have hnone : list.filter (fun x ↦ key x < k) = [] := by
        refine List.filter_eq_nil_iff.2 fun x hx hlt ↦ ?_
        have hgt := hbefore x hx
        rw [hw] at hgt
        exact UInt64.lt_asymm hgt (of_decide_eq_true hlt)
      rw [List.takeWhile_cons, if_neg (by simpa using hw), List.filter_cons, if_neg, hnone]
      rw [hw, decide_eq_true_eq]
      exact UInt64.lt_irrefl k
    · have hlater : ∃ x ∈ list, key x = k := by
        obtain ⟨x, hx, hkey⟩ := hmem
        obtain rfl | hx := List.mem_cons.1 hx
        · exact absurd hkey hw
        · exact ⟨x, hx, hkey⟩
      obtain ⟨x, hx, hkey⟩ := hlater
      have hlt : key w < k := hkey ▸ hbefore x hx
      rw [List.takeWhile_cons, if_pos (by simpa using hw), List.filter_cons,
        if_pos (decide_eq_true hlt), ih ⟨x, hx, hkey⟩ hrest]

theorem forall_find_iff {r : Registry α key} {P : α → Prop} :
    (∀ k v, r.find k = some v → P v) ↔ ∀ v ∈ r.entries, P v :=
  ⟨fun h v hv ↦ h _ v (mem_entries.1 hv), fun h _ v hv ↦ h v (mem_entries_of_find hv)⟩

/-- Writing back what is stored changes nothing. -/
theorem put_of_find {r : Registry α key} {v : α} (h : r.find (key v) = some v) : r.put v = r := by
  apply Registry.ext
  intro k
  rw [find_put]
  split
  · next hk => rw [← hk, h]
  · rfl

theorem size_le_size_put (r : Registry α key) (v : α) : r.size ≤ (r.put v).size :=
  ExtTreeMap.size_le_size_insert

theorem size_put_of_find_none {r : Registry α key} {v : α} (h : r.find (key v) = none) :
    (r.put v).size = r.size + 1 := by
  have hcontains : r.table.contains (key v) = (r.find (key v)).isSome :=
    ExtTreeMap.contains_eq_isSome_getElem?
  show (r.table.insert (key v) v).size = r.table.size + 1
  rw [ExtTreeMap.size_insert, hcontains, h]
  rfl

theorem size_put_of_find {r : Registry α key} {v w : α} (h : r.find (key v) = some w) :
    (r.put v).size = r.size := by
  have hcontains : r.table.contains (key v) = (r.find (key v)).isSome :=
    ExtTreeMap.contains_eq_isSome_getElem?
  show (r.table.insert (key v) v).size = r.table.size
  rw [ExtTreeMap.size_insert, hcontains, h]
  rfl

/-- Writes the value a list entry carries, if it carries one. -/
def putSome (r : Registry α key) : Option α → Registry α key
  | none => r
  | some v => r.put v

section Batch

variable {ρ : Type} (f : ρ → Option α)

def putAll (r : Registry α key) (l : List ρ) : Registry α key :=
  l.foldl (fun r x ↦ r.putSome (f x)) r

@[simp] theorem putAll_nil (r : Registry α key) : r.putAll f [] = r := rfl

@[simp] theorem putAll_cons (r : Registry α key) (x : ρ) (l : List ρ) :
    r.putAll f (x :: l) = (r.putSome (f x)).putAll f l := rfl

variable {f}

theorem putAll_of_none {r : Registry α key} {l : List ρ} (h : ∀ x ∈ l, f x = none) :
    r.putAll f l = r := by
  induction l with
  | nil => rfl
  | cons x l ih =>
    rw [putAll_cons, h x List.mem_cons_self]
    exact ih fun y hy ↦ h y (List.mem_cons_of_mem _ hy)

/-- What is stored after a batch was in the batch or was stored before it. -/
theorem find_putAll {r : Registry α key} {l : List ρ} {k : UInt64} {v : α}
    (h : (r.putAll f l).find k = some v) : (∃ x ∈ l, f x = some v) ∨ r.find k = some v := by
  induction l generalizing r with
  | nil => exact .inr h
  | cons x l ih =>
    rw [putAll_cons] at h
    obtain ⟨y, hy, hv⟩ | hr := ih h
    · exact .inl ⟨y, List.mem_cons_of_mem _ hy, hv⟩
    · cases hx : f x with
      | none =>
        rw [hx] at hr
        exact .inr hr
      | some w =>
        rw [hx] at hr
        simp only [putSome, find_put] at hr
        split at hr
        · cases hr
          exact .inl ⟨x, List.mem_cons_self, hx⟩
        · exact .inr hr

/-- A batch never loses a key: it keeps the old value or stores one of its own. -/
theorem find_putAll_of_find {r : Registry α key} {k : UInt64} {v : α} (h : r.find k = some v)
    (l : List ρ) :
    ∃ w, (r.putAll f l).find k = some w ∧ (w = v ∨ ∃ x ∈ l, f x = some w) := by
  induction l generalizing r v with
  | nil => exact ⟨v, h, .inl rfl⟩
  | cons x l ih =>
    cases hx : f x with
    | none =>
      rw [putAll_cons, hx]
      obtain ⟨w, hw, hor⟩ := ih h
      exact ⟨w, hw, hor.imp id fun ⟨y, hy, hv⟩ ↦ ⟨y, List.mem_cons_of_mem _ hy, hv⟩⟩
    | some u =>
      rw [putAll_cons, hx]
      by_cases hk : key u = k
      · have hput : (r.put u).find k = some u := by rw [find_put, if_pos hk]
        obtain ⟨w, hw, hor⟩ := ih hput
        refine ⟨w, hw, .inr ?_⟩
        obtain rfl | ⟨y, hy, hv⟩ := hor
        · exact ⟨x, List.mem_cons_self, hx⟩
        · exact ⟨y, List.mem_cons_of_mem _ hy, hv⟩
      · have hput : (r.put u).find k = some v := by rw [find_put, if_neg hk, h]
        obtain ⟨w, hw, hor⟩ := ih hput
        exact ⟨w, hw, hor.imp id fun ⟨y, hy, hv⟩ ↦ ⟨y, List.mem_cons_of_mem _ hy, hv⟩⟩

/-- A key the batch writes holds a value of the batch. -/
theorem find_putAll_of_mem {r : Registry α key} {l : List ρ} {x : ρ} {v : α} (hx : x ∈ l)
    (hv : f x = some v) : ∃ w, (r.putAll f l).find (key v) = some w ∧ ∃ y ∈ l, f y = some w := by
  induction l generalizing r with
  | nil => cases hx
  | cons y l ih =>
    rw [putAll_cons]
    obtain rfl | hx := List.mem_cons.1 hx
    · rw [hv]
      obtain ⟨w, hw, rfl | ⟨z, hz, hzw⟩⟩ := find_putAll_of_find (f := f) (find_put_self r v) l
      · exact ⟨w, hw, x, List.mem_cons_self, hv⟩
      · exact ⟨w, hw, z, List.mem_cons_of_mem _ hz, hzw⟩
    · obtain ⟨w, hw, z, hz, hzw⟩ := ih hx
      exact ⟨w, hw, z, List.mem_cons_of_mem _ hz, hzw⟩

/-- Storing the entries of a registry in an empty one gives it back. -/
theorem putAll_entries (r : Registry α key) {l : List ρ}
    (hl : ∀ x ∈ l, ∀ v, f x = some v → v ∈ r.entries)
    (hr : ∀ v ∈ r.entries, ∃ x ∈ l, f x = some v) :
    (Registry.empty : Registry α key).putAll f l = r := by
  apply Registry.ext
  intro k
  cases hfind : r.find k with
  | none =>
    cases hput : ((Registry.empty : Registry α key).putAll f l).find k with
    | none => rfl
    | some v =>
      obtain ⟨x, hx, hv⟩ | hempty := find_putAll hput
      · have hstored := mem_entries.1 (hl x hx v hv)
        rw [key_of_find hput, hfind] at hstored
        cases hstored
      · rw [find_empty] at hempty
        cases hempty
  | some v =>
    obtain ⟨x, hx, hv⟩ := hr v (mem_entries_of_find hfind)
    obtain ⟨w, hput, y, hy, hw⟩ := find_putAll_of_mem
      (r := (Registry.empty : Registry α key)) hx hv
    rw [key_of_find hfind] at hput
    have hstored := mem_entries.1 (hl y hy w hw)
    rw [key_of_find hput, hfind] at hstored
    rw [hput, hstored]

/-- A batch made of the updates of what is stored leaves each key with its update. -/
theorem find_putAll_update {r : Registry α key} {l : List ρ} (update : α → Option α)
    (hkey : ∀ v w, update v = some w → key w = key v)
    (hsound : ∀ x ∈ l, ∀ w, f x = some w → ∃ v, r.find (key v) = some v ∧ update v = some w)
    (hcomplete : ∀ v w, r.find (key v) = some v → update v = some w →
      ∃ x ∈ l, ∃ u, f x = some u ∧ key u = key w) (k : UInt64) :
    (r.putAll f l).find k = (r.find k).map fun old ↦ (update old).getD old := by
  have updated {w : α} (hw : (r.putAll f l).find k = some w) (hbatch : ∃ x ∈ l, f x = some w) :
      ∃ old, r.find k = some old ∧ update old = some w := by
    obtain ⟨x, hx, hxw⟩ := hbatch
    obtain ⟨v, hv, hvw⟩ := hsound x hx w hxw
    rw [← hkey v w hvw, key_of_find hw] at hv
    exact ⟨v, hv, hvw⟩
  cases hold : r.find k with
  | none =>
    cases hput : (r.putAll f l).find k with
    | none => rfl
    | some w =>
      obtain hbatch | hkept := find_putAll hput
      · obtain ⟨old, hfind, -⟩ := updated hput hbatch
        rw [hold] at hfind
        cases hfind
      · rw [hold] at hkept
        cases hkept
  | some old =>
    have hfound : r.find (key old) = some old := by rw [key_of_find hold, hold]
    cases hupdate : update old with
    | none =>
      obtain ⟨w, hw, rfl | hbatch⟩ := find_putAll_of_find (f := f) hold l
      · rw [hw, Option.map_some, hupdate]
        rfl
      · obtain ⟨old', hold', hupdate'⟩ := updated hw hbatch
        rw [hold] at hold'
        cases hold'
        rw [hupdate] at hupdate'
        cases hupdate'
    | some u =>
      obtain ⟨x, hx, u', hxu, hkeys⟩ := hcomplete old u hfound hupdate
      obtain ⟨w, hw, hbatch⟩ := find_putAll_of_mem (r := r) hx hxu
      rw [hkeys, hkey old u hupdate, key_of_find hold] at hw
      obtain ⟨old', hold', hupdate'⟩ := updated hw hbatch
      rw [hold] at hold'
      cases hold'
      rw [hw, Option.map_some, hupdate']
      rfl

theorem size_le_size_putAll (r : Registry α key) (l : List ρ) : r.size ≤ (r.putAll f l).size := by
  induction l generalizing r with
  | nil => exact Nat.le_refl _
  | cons x l ih =>
    refine Nat.le_trans ?_ (ih (r.putSome (f x)))
    cases f x with
    | none => exact Nat.le_refl _
    | some v => exact size_le_size_put r v

/-- A batch that only replaces values leaves as many as there were. -/
theorem size_putAll_of_find {r : Registry α key} {l : List ρ}
    (h : ∀ x ∈ l, ∀ v, f x = some v → ∃ w, r.find (key v) = some w) :
    (r.putAll f l).size = r.size := by
  induction l generalizing r with
  | nil => rfl
  | cons x l ih =>
    have hrest : ∀ y ∈ l, ∀ v, f y = some v → ∃ w, r.find (key v) = some w :=
      fun y hy ↦ h y (List.mem_cons_of_mem x hy)
    rw [putAll_cons]
    cases hx : f x with
    | none => exact ih hrest
    | some v =>
      obtain ⟨w, hw⟩ := h x List.mem_cons_self v hx
      refine (ih fun y hy u hu ↦ ?_).trans (size_put_of_find hw)
      obtain ⟨old, hold⟩ := hrest y hy u hu
      by_cases hkey : key v = key u
      · exact ⟨v, (find_put r v (key u)).trans (if_pos hkey)⟩
      · exact ⟨old, (find_put_of_ne r hkey).trans hold⟩

theorem size_lt_size_putAll {r : Registry α key} {l : List ρ} {k : UInt64} {v : α}
    (hnone : r.find k = none) (hsome : (r.putAll f l).find k = some v) :
    r.size < (r.putAll f l).size := by
  induction l generalizing r with
  | nil =>
    rw [putAll_nil, hnone] at hsome
    cases hsome
  | cons x l ih =>
    rw [putAll_cons] at hsome ⊢
    cases hx : f x with
    | none =>
      rw [hx] at hsome
      exact ih hnone hsome
    | some w =>
      rw [hx] at hsome
      by_cases hk : key w = k
      · rw [← hk] at hnone
        have hsize : (r.putSome (some w)).size = r.size + 1 := size_put_of_find_none hnone
        have hle := size_le_size_putAll (f := f) (r.putSome (some w)) l
        omega
      · refine Nat.lt_of_le_of_lt (size_le_size_put r w) (ih ?_ hsome)
        exact (find_put r w k).trans ((if_neg hk).trans hnone)

end Batch

end Registry

end RateGovernor.Foundation.KeyedTable
