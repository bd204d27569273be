import RateGovernor.Dynamics.Checksums
import RateGovernor.Foundation.ExactReader

namespace RateGovernor.Dynamics.Sealing

open Model.CheckedMath Model.Journal Foundation.ByteCodec Foundation.ExactReader
open Foundation.ReflectedCrc Checksums

variable {low high : ℕ} {original changed front front' back back' : Bytes}

section Bursts

/-- The bytes were changed, and only within at most four consecutive ones, none of them before the
lower position nor from the upper one on. -/
structure ShortChange (low high : ℕ) (original changed : Bytes) : Prop where
  length : changed.length = original.length
  ne : changed ≠ original
  confined : ∃ start width, width ≤ 4 ∧ low ≤ start ∧ start + width ≤ high ∧
    ∀ i, i < start ∨ start + width ≤ i → changed[i]? = original[i]?

/-- At most four bytes at some place were replaced by as many others. -/
def Burst (original changed : Bytes) : Prop :=
  ∃ before old new after : Bytes, original = before ++ old ++ after ∧
    changed = before ++ new ++ after ∧ new.length = old.length ∧ old.length ≤ 4 ∧ new ≠ old

theorem Burst.append (h : Burst original changed) (rest : Bytes) :
    Burst (original ++ rest) (changed ++ rest) := by
  obtain ⟨before, old, new, after, rfl, rfl, hrest⟩ := h
  exact ⟨before, old, new, after ++ rest, List.append_assoc _ _ _, List.append_assoc _ _ _, hrest⟩

theorem Burst.prepend (h : Burst original changed) (rest : Bytes) :
    Burst (rest ++ original) (rest ++ changed) := by
  obtain ⟨before, old, new, after, rfl, rfl, hrest⟩ := h
  refine ⟨rest ++ before, old, new, after, ?_, ?_, hrest⟩ <;> simp only [List.append_assoc]

theorem take_drop_split (l : Bytes) (start width : ℕ) :
    l = l.take start ++ (l.drop start).take width ++ l.drop (start + width) := by
  rw [List.append_assoc, ← List.drop_drop, List.take_append_drop, List.take_append_drop]

theorem ShortChange.burst (h : ShortChange low high original changed) : Burst original changed := by
  obtain ⟨start, width, hwidth, -, -, hsame⟩ := h.confined
  have hbefore : changed.take start = original.take start := by
    refine List.ext_getElem? fun i ↦ ?_
    rw [List.getElem?_take, List.getElem?_take]
    split
    · next hi => exact hsame i (.inl hi)
    · rfl
  have hafter : changed.drop (start + width) = original.drop (start + width) := by
    refine List.ext_getElem? fun i ↦ ?_
    rw [List.getElem?_drop, List.getElem?_drop]
    exact hsame _ (.inr (Nat.le_add_right _ _))
  have hsplit := take_drop_split changed start width
  rw [hbefore, hafter] at hsplit
  refine ⟨_, _, _, _, take_drop_split original start width, hsplit, ?_, ?_, fun hnew ↦ h.ne ?_⟩
  · rw [List.length_take, List.length_take, List.length_drop, List.length_drop, h.length]
  · rw [List.length_take]
    omega
  · rw [hsplit, hnew]
    exact (take_drop_split original start width).symm

theorem ShortChange.untouched (h : ShortChange low high original changed) (place count : ℕ)
    (haway : place + count ≤ low ∨ high ≤ place) :
    (changed.drop place).take count = (original.drop place).take count := by
  obtain ⟨start, width, -, hlow, hhigh, hsame⟩ := h.confined
  refine List.ext_getElem? fun i ↦ ?_
  rw [List.getElem?_take, List.getElem?_take, List.getElem?_drop, List.getElem?_drop]
  split
  · exact hsame _ (by omega)
  · rfl

theorem ShortChange.in_front (h : ShortChange low high (front ++ back) (front' ++ back'))
    (hlength : front'.length = front.length) (hhigh : high ≤ front.length) :
    back' = back ∧ ShortChange low high front front' := by
  obtain ⟨start, width, hwidth, hlow, hend, hsame⟩ := h.confined
  have hback : back' = back := by
    refine List.ext_getElem? fun i ↦ ?_
    have hi := hsame (front.length + i) (.inr (by omega))
    rwa [List.getElem?_append_right (by omega), List.getElem?_append_right (by omega), hlength,
      Nat.add_sub_cancel_left] at hi
  refine ⟨hback, hlength, fun hfront ↦ h.ne (by rw [hfront, hback]), start, width, hwidth, hlow,
    hend, fun i hi ↦ ?_⟩
  by_cases hin : i < front.length
  · have hi := hsame i hi
    rwa [List.getElem?_append_left (by omega), List.getElem?_append_left hin] at hi
  · rw [List.getElem?_eq_none (by omega), List.getElem?_eq_none (by omega)]

theorem ShortChange.behind (h : ShortChange low high (front ++ back) (front' ++ back'))
    (hlength : front'.length = front.length) (hlow : front.length ≤ low) :
    front' = front ∧ ShortChange (low - front.length) (high - front.length) back back' := by
  obtain ⟨start, width, hwidth, hstart, hend, hsame⟩ := h.confined
  have hfront : front' = front := by
    refine List.ext_getElem? fun i ↦ ?_
    by_cases hin : i < front.length
    · have hi := hsame i (.inl (by omega))
      rwa [List.getElem?_append_left (by omega), List.getElem?_append_left hin] at hi
    · rw [List.getElem?_eq_none (by omega), List.getElem?_eq_none (by omega)]
  subst hfront
  have hlong := h.length
  rw [List.length_append, List.length_append] at hlong
  refine ⟨rfl, by omega, fun hback ↦ h.ne (by rw [hback]), start - front'.length, width, hwidth,
    by omega, by omega, fun i hi ↦ ?_⟩
  have hi := hsame (front'.length + i) (by omega)
  rwa [List.getElem?_append_right (by omega), List.getElem?_append_right (by omega),
    Nat.add_sub_cancel_left] at hi

end Bursts

section Checksum

theorem length_bitsOf (data : Bytes) : (bitsOf data).length = 8 * data.length := by
  induction data with
  | nil => rfl
  | cons byte data ih =>
    rw [bitsOf_cons, List.length_append, length_byteBits, ih, List.length_cons]
    omega

theorem byteBits_injective : Function.Injective byteBits := by
  intro a b h
  have hword := congrArg (word : List Bool → BitVec 32) h
  rw [word_byteBits, word_byteBits, UInt32.toBitVec_inj] at hword
  have hnat := congrArg UInt32.toNat hword
  rw [UInt8.toNat_toUInt32, UInt8.toNat_toUInt32] at hnat
  exact UInt8.toNat_inj.1 hnat

theorem bitsOf_injective : Function.Injective bitsOf := by
  intro a b h
  induction a generalizing b with
  | nil =>
    have hlength := congrArg List.length h
    rw [length_bitsOf, length_bitsOf, List.length_nil] at hlength
    exact (List.eq_nil_of_length_eq_zero (by omega)).symm
  | cons x a ih =>
    cases b with
    | nil =>
      have hlength := congrArg List.length h
      rw [length_bitsOf, length_bitsOf, List.length_nil, List.length_cons] at hlength
      omega
    | cons y b =>
      rw [bitsOf_cons, bitsOf_cons] at h
      obtain ⟨hfirst, hrest⟩ := List.append_inj h rfl
      rw [byteBits_injective hfirst, ih hrest]

/-- Replacing up to four bytes anywhere in a string changes its checksum. -/
theorem crc32c_ne_of_burst (h : Burst original changed) : crc32c changed ≠ crc32c original := by
  obtain ⟨before, old, new, after, rfl, rfl, hlength, hshort, hne⟩ := h
  intro hsame
  have hfed := congrArg UInt32.toBitVec hsame
  rw [crc32c_eq_reflectedCrc32c, crc32c_eq_reflectedCrc32c, reflectedCrc32c, reflectedCrc32c,
    BitVec.xor_left_inj, bitsOf_append, bitsOf_append, bitsOf_append, bitsOf_append] at hfed
  refine feed_ne_of_burst msb_polynomial ?_ ?_ (fun hbits ↦ hne (bitsOf_injective hbits).symm) _ _
    hfed
  · rw [length_bitsOf]
    omega
  · rw [length_bitsOf, length_bitsOf, hlength]

end Checksum

section Sealed

def sealed (front back : Bytes) : Bytes := front ++ (putU32 (crc32c (front ++ back)) ++ back)

theorem putU32_injective : Function.Injective putU32 := by
  intro a b h
  have ha := decodes_u32 a []
  rw [h, decodes_u32 b []] at ha
  cases ha
  rfl

theorem not_sealed (hfront : front'.length = front.length)
    (hplace : high ≤ front.length ∨ front.length ≤ low ∧ high ≤ front.length + 4 ∨
      front.length + 4 ≤ low) :
    ¬ ShortChange low high (sealed front back) (sealed front' back') := by
  intro h
  obtain hhigh | hplace := hplace
  · obtain ⟨hrest, hfront⟩ := h.in_front hfront hhigh
    obtain ⟨hcrc, rfl⟩ := List.append_inj hrest (by rw [putU32_length, putU32_length])
    exact crc32c_ne_of_burst (hfront.burst.append back') (putU32_injective hcrc)
  · obtain ⟨rfl, hrest⟩ := h.behind hfront (by omega)
    obtain ⟨-, hhigh⟩ | hlow := hplace
    · obtain ⟨rfl, hcrc⟩ := hrest.in_front (by rw [putU32_length, putU32_length])
        (by rw [putU32_length]; omega)
      exact hcrc.ne rfl
    · obtain ⟨hcrc, hback⟩ := hrest.behind (by rw [putU32_length, putU32_length])
        (by rw [putU32_length]; omega)
      exact crc32c_ne_of_burst (hback.burst.prepend front') (putU32_injective hcrc)

end Sealed

end RateGovernor.Dynamics.Sealing
