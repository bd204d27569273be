import RateGovernor.Foundation.ByteCodec

namespace RateGovernor.Foundation.ExactReader

open ByteCodec

/-- What the reader returns stands in the relation to the bytes it takes off. -/
def Consumes {α : Type} (reader : Reader α) (R : α → Bytes → Prop) : Prop :=
  ∀ bytes x left, reader bytes = some (x, left) → ∃ taken, bytes = taken ++ left ∧ R x taken

/-- The reader takes off nothing but the encoding of what it returns. -/
def Exact {α : Type} (reader : Reader α) (encode : α → Bytes) : Prop :=
  Consumes reader fun x taken ↦ encode x = taken

section Rules

variable {α β : Type} {reader : Reader α} {next : α → Reader β} {R S : α → Bytes → Prop}
  {T : β → Bytes → Prop} {encode : α → Bytes}

theorem Consumes.pure {x : α} (h : R x []) : Consumes (Pure.pure x) R := by
  rintro bytes y left hread
  cases hread
  exact ⟨[], rfl, h⟩

theorem Consumes.mono (h : Consumes reader R) (himp : ∀ x taken, R x taken → S x taken) :
    Consumes reader S := by
  intro bytes x left hread
  obtain ⟨taken, hbytes, hrelated⟩ := h bytes x left hread
  exact ⟨taken, hbytes, himp x taken hrelated⟩

theorem Consumes.bind (h : Consumes reader R)
    (h' : ∀ x taken, R x taken → Consumes (next x) fun y more ↦ T y (taken ++ more)) :
    Consumes (reader >>= next) T := by
  intro bytes y left hread
  obtain ⟨⟨x, middle⟩, hx, hy⟩ := Option.bind_eq_some_iff.1 hread
  obtain ⟨taken, rfl, hrelated⟩ := h _ _ _ hx
  obtain ⟨more, rfl, hresult⟩ := h' x taken hrelated _ _ _ hy
  exact ⟨taken ++ more, (List.append_assoc _ _ _).symm, hresult⟩

/-- One field of a record, read by a reader that takes off its encoding. -/
theorem Consumes.field (h : Exact reader encode)
    (h' : ∀ x, Consumes (next x) fun y more ↦ T y (encode x ++ more)) :
    Consumes (reader >>= next) T :=
  h.bind fun x _ hencode ↦ hencode ▸ h' x

theorem Consumes.check {p : Bool} {next : Unit → Reader β} (h : p = true → Consumes (next ()) T) :
    Consumes (ByteCodec.check p >>= next) T := by
  cases p with
  | false =>
    intro bytes y left hread
    cases hread
  | true => exact h rfl

theorem Exact.bytes {x : α} {bytes left : Bytes} (h : Exact reader encode)
    (hread : reader bytes = some (x, left)) : bytes = encode x ++ left := by
  obtain ⟨taken, hbytes, rfl⟩ := h bytes x left hread
  exact hbytes

end Rules

section Words

theorem littleEndian_fromLittleEndian {width : ℕ} {bytes : Bytes} (h : bytes.length = width) :
    littleEndian width (fromLittleEndian bytes) = bytes := by
  induction bytes generalizing width with
  | nil =>
    cases h
    rfl
  | cons byte bytes ih =>
    cases h
    have hlow : UInt8.ofNat (byte.toNat + 256 * fromLittleEndian bytes) = byte := by
      apply UInt8.toNat_inj.1
      rw [UInt8.toNat_ofNat', Nat.add_mul_mod_self_left]
      exact Nat.mod_eq_of_lt byte.toNat_lt
    have hhigh : (byte.toNat + 256 * fromLittleEndian bytes) / 256 = fromLittleEndian bytes := by
      have hlt : byte.toNat < 256 := byte.toNat_lt
      omega
    simp only [List.length_cons, fromLittleEndian, littleEndian, hlow, hhigh, ih rfl]

theorem fromLittleEndian_lt (bytes : Bytes) : fromLittleEndian bytes < 256 ^ bytes.length := by
  induction bytes with
  | nil => exact Nat.one_pos
  | cons byte bytes ih =>
    have hlt : byte.toNat < 256 := byte.toNat_lt
    simp only [fromLittleEndian, List.length_cons, Nat.pow_succ]
    omega

theorem consumes_raw (count : ℕ) :
    Consumes (raw count) fun x taken ↦ taken = x ∧ x.length = count := by
  intro bytes x left hread
  unfold raw at hread
  split at hread
  · cases hread
  · next hlong =>
    cases hread
    refine ⟨_, (List.take_append_drop count bytes).symm, rfl, ?_⟩
    rw [List.length_take]
    omega

private theorem exact_word {α : Type} {width : ℕ} {ofNat : ℕ → α} {toNat : α → ℕ}
    (h : ∀ n, n < 256 ^ width → toNat (ofNat n) = n) :
    Exact (do let bytes ← raw width; return ofNat (fromLittleEndian bytes))
      fun x ↦ littleEndian width (toNat x) := by
  refine (consumes_raw width).bind fun bytes taken hraw ↦ .pure ?_
  obtain ⟨rfl, hlength⟩ := hraw
  have hlt := fromLittleEndian_lt taken
  rw [hlength] at hlt
  change littleEndian width (toNat (ofNat (fromLittleEndian taken))) = taken ++ []
  rw [h _ hlt, littleEndian_fromLittleEndian hlength, List.append_nil]

theorem exact_u8 : Exact u8 putU8 :=
  exact_word fun _ hlt ↦ UInt8.toNat_ofNat_of_lt' hlt

theorem exact_u16 : Exact u16 putU16 :=
  exact_word fun _ hlt ↦ UInt16.toNat_ofNat_of_lt' hlt

theorem exact_u32 : Exact u32 putU32 :=
  exact_word fun _ hlt ↦ UInt32.toNat_ofNat_of_lt' hlt

theorem exact_u64 : Exact u64 putU64 :=
  exact_word fun _ hlt ↦ UInt64.toNat_ofNat_of_lt' hlt

theorem exact_enum {α : Type} [ByteEnum α] : Exact (enum : Reader α) putEnum := by
  refine .field exact_u8 fun code ↦ .pure ?_
  rw [putEnum, ByteEnum.toByte_ofByte, List.append_nil]

/-- A byte that passed for a flag is the one the flag is written as. -/
theorem putBool_of_le_one {byte : UInt8} (h : byte ≤ 1) : putBool (byte = 1) = putU8 byte := by
  have hbyte : byte = 0 ∨ byte = 1 := by
    rw [UInt8.le_iff_toNat_le] at h
    rw [← UInt8.toNat_inj, ← UInt8.toNat_inj]
    simp only [UInt8.reduceToNat] at h ⊢
    omega
  obtain rfl | rfl := hbyte <;> rfl

/-- A listed code is that of the value found for it. -/
theorem code_find {α β : Type} [DecidableEq β] {values : List α} {code : α → β} {raw : β}
    (fallback : α) (h : raw ∈ values.map code) :
    code ((values.find? fun value ↦ code value = raw).getD fallback) = raw := by
  obtain ⟨value, hvalue, rfl⟩ := List.mem_map.1 h
  cases hfind : values.find? fun other ↦ code other = code value with
  | none =>
    have hmiss := List.find?_eq_none.1 hfind value hvalue
    exact absurd (decide_eq_true rfl) hmiss
  | some found =>
    have hcode := List.find?_some hfind
    exact of_decide_eq_true hcode

end Words

end RateGovernor.Foundation.ExactReader
