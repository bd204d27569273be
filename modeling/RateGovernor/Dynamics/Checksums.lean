import RateGovernor.Foundation.ReflectedCrc
import RateGovernor.Model.Journal

namespace RateGovernor.Dynamics.Checksums

open Model.CheckedMath Model.Entities Model.Journal Foundation.ByteCodec
open Foundation.ReflectedCrc

section Steps

def byteBits (byte : UInt8) : List Bool := (List.range 8).map byte.toBitVec.getLsbD

def bitsOf (data : Bytes) : List Bool := data.flatMap byteBits

def polynomial : BitVec 32 := kCrc32cPolynomial.toBitVec

/-- The bit-serial reflected check with the polynomial of the code, started from all ones and
complemented at the end. -/
def reflectedCrc32c (data : Bytes) : UInt32 :=
  ⟨feed polynomial 0xFFFFFFFF#32 (bitsOf data) ^^^ 0xFFFFFFFF#32⟩

theorem msb_polynomial : polynomial.msb = true := by decide

@[simp]
theorem length_byteBits (byte : UInt8) : (byteBits byte).length = 8 := rfl

theorem bitsOf_cons (byte : UInt8) (data : Bytes) :
    bitsOf (byte :: data) = byteBits byte ++ bitsOf data := List.flatMap_cons

theorem bitsOf_append (a b : Bytes) : bitsOf (a ++ b) = bitsOf a ++ bitsOf b := List.flatMap_append

theorem word_byteBits (byte : UInt8) : word (byteBits byte) = byte.toUInt32.toBitVec := by
  refine BitVec.eq_of_getLsbD_eq fun i hi ↦ ?_
  have hwide : byte.toUInt32.toBitVec = byte.toBitVec.setWidth 32 := rfl
  rw [getLsbD_word, hwide, BitVec.getLsbD_setWidth, byteBits, List.getD_eq_getElem?_getD,
    List.getElem?_map]
  by_cases hlow : i < 8
  · rw [List.getElem?_range hlow]
    rfl
  · rw [List.getElem?_eq_none (by simpa using hlow), BitVec.getLsbD_of_ge _ _ (by omega)]
    rfl

theorem toBitVec_crcBit (crc : UInt32) : (crcBit crc).toBitVec = shift polynomial crc.toBitVec := by
  have hlow : crc &&& 1 ≠ 0 ↔ crc.toBitVec.getLsbD 0 = true := by
    rw [ne_eq, ← UInt32.toNat_inj, UInt32.toNat_and, BitVec.getLsbD, Nat.testBit_zero,
      decide_eq_true_iff]
    have hone := Nat.and_one_is_mod crc.toNat
    show ¬ crc.toNat &&& 1 = 0 ↔ crc.toNat % 2 = 1
    omega
  rw [crcBit, shift_eq]
  split
  · next hset =>
    rw [if_pos (hlow.1 hset)]
    rfl
  · next hclear =>
    rw [if_neg (mt hlow.2 hclear), BitVec.xor_zero]
    rfl

theorem toBitVec_crcTableEntry (index : UInt32) :
    (crcTableEntry index).toBitVec = (shift polynomial)^[8] index.toBitVec :=
  Function.Semiconj.iterate_right (f := UInt32.toBitVec) toBitVec_crcBit 8 index

def tableStep (crc : UInt32) (byte : UInt8) : UInt32 :=
  crcTableEntry ((crc ^^^ byte.toUInt32) &&& 0xFF) ^^^ (crc >>> 8)

theorem toBitVec_tableStep (crc : UInt32) (byte : UInt8) :
    (tableStep crc byte).toBitVec = feed polynomial crc.toBitVec (byteBits byte) := by
  have hmask : ∀ i < 32, (0xFF#32).getLsbD i = decide (i < (byteBits byte).length) := by
    rw [length_byteBits]
    decide
  rw [feed_eq_table (by rw [length_byteBits]; decide) hmask, word_byteBits]
  exact congrArg (· ^^^ (crc >>> 8).toBitVec) (toBitVec_crcTableEntry _)

theorem toBitVec_foldl_tableStep (crc : UInt32) (data : Bytes) :
    (data.foldl tableStep crc).toBitVec = feed polynomial crc.toBitVec (bitsOf data) := by
  induction data generalizing crc with
  | nil => rfl
  | cons byte data ih =>
    rw [List.foldl_cons, ih, toBitVec_tableStep, bitsOf_cons, feed_append]

end Steps

section Strings

theorem crc32cExtend_eq (seed : UInt32) (data : Bytes) :
    crc32cExtend seed data = data.foldl tableStep (seed ^^^ 0xFFFFFFFF) ^^^ 0xFFFFFFFF := rfl

theorem crc32cExtend_append (seed : UInt32) (a b : Bytes) :
    crc32cExtend (crc32cExtend seed a) b = crc32cExtend seed (a ++ b) := by
  rw [crc32cExtend_eq, crc32cExtend_eq, crc32cExtend_eq, List.foldl_append, UInt32.xor_assoc,
    UInt32.xor_self, UInt32.xor_zero]

theorem crc32c_eq_reflectedCrc32c (data : Bytes) : crc32c data = reflectedCrc32c data := by
  refine UInt32.toBitVec_inj.1 ?_
  rw [reflectedCrc32c, ← toBitVec_foldl_tableStep ⟨0xFFFFFFFF#32⟩ data]
  rfl

end Strings

/-- The checksum computed byte by byte with the table is the bit-serial one, and a checksum can be
continued over what follows. -/
theorem table_is_serial (a b : Bytes) :
    crc32c a = reflectedCrc32c a ∧ crc32cExtend (crc32c a) b = crc32c (a ++ b) :=
  ⟨crc32c_eq_reflectedCrc32c a, crc32cExtend_append 0 a b⟩

end RateGovernor.Dynamics.Checksums
