import Mathlib.Data.BitVec
import Mathlib.Logic.Function.Iterate

namespace RateGovernor.Foundation.ReflectedCrc

variable {w n : ℕ}

/-- One bit of a message taken into the register of a reflected cyclic redundancy check. -/
def push (p c : BitVec w) (bit : Bool) : BitVec w :=
  if c.getLsbD 0 ^^ bit then (c >>> 1) ^^^ p else c >>> 1

/-- The register after a message, its first bit first. -/
def feed (p c : BitVec w) (bits : List Bool) : BitVec w := bits.foldl (push p) c

/-- The register shifted by one bit without a message. -/
def shift (p c : BitVec w) : BitVec w := push p c false

/-- The bits of a message as a word, the first bit lowest. -/
def word (bits : List Bool) : BitVec w := (BitVec.ofBoolListLE bits).setWidth w

variable {p c : BitVec w} {bits other : List Bool} {bit : Bool}

theorem getLsbD_word (bits : List Bool) (i : ℕ) :
    (word bits : BitVec w).getLsbD i = (decide (i < w) && bits.getD i false) := by
  rw [word, BitVec.getLsbD_setWidth, BitVec.getLsbD_ofBoolListLE]

theorem getLsbD_word_of_length_le {i : ℕ} (h : bits.length ≤ i) :
    (word bits : BitVec w).getLsbD i = false := by
  rw [getLsbD_word, List.getD_eq_getElem?_getD, List.getElem?_eq_none h, Option.getD_none,
    Bool.and_false]

theorem word_nil : (word [] : BitVec w) = 0#w := by
  refine BitVec.eq_of_getLsbD_eq fun i _ ↦ ?_
  rw [getLsbD_word_of_length_le (Nat.zero_le i), BitVec.getLsbD_zero]

theorem word_cons (bit : Bool) (bits : List Bool) :
    (word (bit :: bits) : BitVec w) = word [bit] ^^^ (word bits <<< 1) := by
  refine BitVec.eq_of_getLsbD_eq fun i hi ↦ ?_
  rw [BitVec.getLsbD_xor, BitVec.getLsbD_shiftLeft, getLsbD_word, getLsbD_word, getLsbD_word]
  cases i with
  | zero => simp
  | succ i => simp [hi, Nat.lt_of_succ_lt hi]

/-- Bits that fit in a word are told apart by it. -/
theorem word_injective (hfits : bits.length ≤ w) (hlength : other.length = bits.length)
    (h : (word bits : BitVec w) = word other) : bits = other := by
  refine List.ext_getElem hlength.symm fun i hi hi' ↦ ?_
  have hbit := congrArg (·.getLsbD i) h
  simp only [getLsbD_word, decide_eq_true (Nat.lt_of_lt_of_le hi hfits), Bool.true_and,
    List.getD_eq_getElem?_getD, List.getElem?_eq_getElem hi, List.getElem?_eq_getElem hi',
    Option.getD_some] at hbit
  exact hbit

section Linear

@[simp]
theorem feed_nil (p c : BitVec w) : feed p c [] = c := rfl

@[simp]
theorem feed_cons (p c : BitVec w) (bit : Bool) (bits : List Bool) :
    feed p c (bit :: bits) = feed p (push p c bit) bits := rfl

theorem feed_append (p c : BitVec w) (bits other : List Bool) :
    feed p c (bits ++ other) = feed p (feed p c bits) other := List.foldl_append

theorem shift_eq (p c : BitVec w) :
    shift p c = (c >>> 1) ^^^ (if c.getLsbD 0 then p else 0#w) := by
  rw [shift, push, Bool.xor_false]
  split
  · rfl
  · rw [BitVec.xor_zero]

theorem shift_xor (p a b : BitVec w) : shift p (a ^^^ b) = shift p a ^^^ shift p b := by
  have hfeedback : (if (a.getLsbD 0 ^^ b.getLsbD 0) = true then p else 0#w) =
      (if a.getLsbD 0 then p else 0#w) ^^^ (if b.getLsbD 0 then p else 0#w) := by
    cases a.getLsbD 0 <;> cases b.getLsbD 0 <;> simp
  rw [shift_eq, shift_eq, shift_eq, BitVec.ushiftRight_xor_distrib, BitVec.getLsbD_xor, hfeedback]
  ac_rfl

theorem iterate_shift_xor (p a b : BitVec w) (n : ℕ) :
    (shift p)^[n] (a ^^^ b) = (shift p)^[n] a ^^^ (shift p)^[n] b := by
  induction n generalizing a b with
  | zero => rfl
  | succ n ih => rw [Function.iterate_succ_apply, shift_xor, ih]; rfl

/-- A bit of the message acts as if it stood in the register. -/
theorem push_eq (hw : 0 < w) (p c : BitVec w) (bit : Bool) :
    push p c bit = shift p (c ^^^ word [bit]) := by
  have hlow : (c ^^^ word [bit]).getLsbD 0 = (c.getLsbD 0 ^^ bit) := by
    rw [BitVec.getLsbD_xor, getLsbD_word, decide_eq_true hw]
    rfl
  have hrest : (c ^^^ word [bit]) >>> 1 = c >>> 1 := by
    have hnone : (word [bit] : BitVec w) >>> 1 = 0#w := by
      refine BitVec.eq_of_getLsbD_eq fun i _ ↦ ?_
      rw [BitVec.getLsbD_ushiftRight, getLsbD_word]
      simp
    rw [BitVec.ushiftRight_xor_distrib, hnone, BitVec.xor_zero]
  rw [shift, push, push, hlow, hrest, Bool.xor_false]

/-- Bits below a word that are clear leave the register by shifting alone. -/
theorem iterate_shift_of_clear (h : ∀ i < n, c.getLsbD i = false) :
    (shift p)^[n] c = c >>> n := by
  induction n generalizing c with
  | zero => rfl
  | succ n ih =>
    have hlow : shift p c = c >>> 1 := by
      rw [shift_eq, h 0 (Nat.succ_pos n)]
      exact BitVec.xor_zero
    rw [Function.iterate_succ_apply, hlow, ih, ← BitVec.shiftRight_add, Nat.add_comm]
    intro i hi
    rw [BitVec.getLsbD_ushiftRight]
    exact h (1 + i) (by omega)

theorem shift_raised (h : bits.length < w) :
    shift p (word bits <<< 1) = (word bits : BitVec w) := by
  have hlow : ((word bits : BitVec w) <<< 1).getLsbD 0 = false := by
    rw [BitVec.getLsbD_shiftLeft]
    simp
  rw [shift_eq, hlow, if_neg Bool.false_ne_true, BitVec.xor_zero]
  refine BitVec.eq_of_getLsbD_eq fun i hi ↦ ?_
  rw [BitVec.getLsbD_ushiftRight, BitVec.getLsbD_shiftLeft]
  by_cases hlast : 1 + i < w
  · simp [hlast]
  · rw [getLsbD_word_of_length_le (show bits.length ≤ i by omega), decide_eq_false hlast]
    rfl

/-- As many bits as the register has can be put into it at once. -/
theorem feed_eq (hfits : bits.length ≤ w) (p c : BitVec w) :
    feed p c bits = (shift p)^[bits.length] (c ^^^ word bits) := by
  induction bits generalizing c with
  | nil =>
    rw [word_nil, BitVec.xor_zero]
    rfl
  | cons bit bits ih =>
    rw [List.length_cons] at hfits
    rw [feed_cons, ih (Nat.le_of_succ_le hfits), push_eq (by omega), List.length_cons,
      Function.iterate_succ_apply, word_cons bit bits, ← BitVec.xor_assoc,
      shift_xor p (c ^^^ word [bit]),
      shift_raised hfits]

/-- The register after some bits, from the part of it that they meet and the rest, which is only
moved. -/
theorem feed_eq_table {mask : BitVec w} (hfits : bits.length ≤ w)
    (hmask : ∀ i < w, mask.getLsbD i = decide (i < bits.length)) :
    feed p c bits = (shift p)^[bits.length] ((c ^^^ word bits) &&& mask) ^^^
      (c >>> bits.length) := by
  have hsplit : c ^^^ word bits = ((c ^^^ word bits) &&& mask) ^^^ (c &&& ~~~mask) := by
    refine BitVec.eq_of_getLsbD_eq fun i hi ↦ ?_
    rw [BitVec.getLsbD_xor, BitVec.getLsbD_xor, BitVec.getLsbD_and, BitVec.getLsbD_and,
      BitVec.getLsbD_not, hmask i hi, BitVec.getLsbD_xor]
    by_cases hlow : i < bits.length
    · simp [hlow]
    · rw [getLsbD_word_of_length_le (Nat.le_of_not_lt hlow), decide_eq_false hlow,
        decide_eq_true hi]
      simp
  have hclear : ∀ i < bits.length, (c &&& ~~~mask).getLsbD i = false := by
    intro i hi
    rw [BitVec.getLsbD_and, BitVec.getLsbD_not, hmask i (Nat.lt_of_lt_of_le hi hfits)]
    simp [hi]
  have hmoved : (c &&& ~~~mask) >>> bits.length = c >>> bits.length := by
    refine BitVec.eq_of_getLsbD_eq fun i hi ↦ ?_
    rw [BitVec.getLsbD_ushiftRight, BitVec.getLsbD_ushiftRight, BitVec.getLsbD_and,
      BitVec.getLsbD_not]
    by_cases hin : bits.length + i < w
    · rw [hmask _ hin]
      simp [hin]
    · rw [decide_eq_false hin, BitVec.getLsbD_of_ge c _ (Nat.le_of_not_lt hin)]
      rfl
  rw [feed_eq hfits, ← hmoved, ← iterate_shift_of_clear (p := p) hclear, ← iterate_shift_xor,
    ← hsplit]

end Linear

section Detection

theorem width_pos (hp : p.msb = true) : 0 < w := by
  rw [BitVec.msb_eq_getLsbD_last] at hp
  have hlast := BitVec.lt_of_getLsbD hp
  omega

/-- With the highest bit of the polynomial set no information leaves the register. -/
theorem shift_injective (hp : p.msb = true) : Function.Injective (shift p) := by
  have hzero : ∀ d : BitVec w, shift p d = 0#w → d = 0#w := by
    intro d h
    rw [shift_eq] at h
    cases hlow : d.getLsbD 0 with
    | true =>
      rw [hlow, if_pos rfl] at h
      have htop := congrArg BitVec.msb h
      rw [BitVec.msb_xor, hp, BitVec.msb_ushiftRight] at htop
      simp at htop
    | false =>
      rw [hlow, if_neg Bool.false_ne_true, BitVec.xor_zero] at h
      refine BitVec.eq_of_getLsbD_eq fun i hi ↦ ?_
      cases i with
      | zero => simpa using hlow
      | succ i =>
        have hbit := congrArg (·.getLsbD i) h
        simpa [Nat.add_comm] using hbit
  intro a b h
  have hdifference := hzero (a ^^^ b) (by rw [shift_xor, h, BitVec.xor_self])
  exact BitVec.xor_eq_zero_iff.1 hdifference

theorem iterate_shift_injective (hp : p.msb = true) (n : ℕ) :
    Function.Injective (shift p)^[n] := (shift_injective hp).iterate n

theorem feed_injective (hp : p.msb = true) (bits : List Bool) :
    Function.Injective fun c ↦ feed p c bits := by
  induction bits with
  | nil => exact fun _ _ h ↦ h
  | cons bit bits ih =>
    intro a b h
    have hpushed : push p a bit = push p b bit := ih h
    rw [push_eq (width_pos hp), push_eq (width_pos hp)] at hpushed
    exact (BitVec.xor_left_inj _).1 (shift_injective hp hpushed)

/-- Two messages of one length that differ only within as many bits as the register has leave
different registers. -/
theorem feed_ne_of_burst (hp : p.msb = true) (hfits : bits.length ≤ w)
    (hlength : other.length = bits.length) (hne : other ≠ bits) (before after : List Bool) :
    feed p c (before ++ bits ++ after) ≠ feed p c (before ++ other ++ after) := by
  intro h
  rw [feed_append, feed_append, feed_append, feed_append] at h
  have hsame := feed_injective hp after h
  rw [feed_eq hfits p (feed p c before), feed_eq (hlength.trans_le hfits) p (feed p c before),
    hlength] at hsame
  have hword := (BitVec.xor_right_inj _).1 (iterate_shift_injective hp _ hsame)
  exact hne (word_injective hfits hlength hword).symm

end Detection

end RateGovernor.Foundation.ReflectedCrc
