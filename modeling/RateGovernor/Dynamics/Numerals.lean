import Mathlib.Data.Nat.Digits.Lemmas
import RateGovernor.Model.IdentityText

namespace RateGovernor.Dynamics.Numerals

open Model.CheckedMath Model.Identity Model.Entities

section Checked

variable {a b r : U64}

theorem checkedAdd_eq_some : checkedAdd a b = some r ↔ a.toNat + b.toNat = r.toNat := by
  have ha := a.toNat_lt
  have hb := b.toNat_lt
  have hr := r.toNat_lt
  have hmax : kU64Max.toNat = 2 ^ 64 - 1 := rfl
  have hleft : (kU64Max - b).toNat = 2 ^ 64 - 1 - b.toNat := by
    rw [UInt64.toNat_sub_of_le _ _ (UInt64.le_iff_toNat_le.2 (by omega)), hmax]
  rw [checkedAdd]
  split
  · next hover =>
    have hover := UInt64.lt_iff_toNat_lt.1 hover
    refine ⟨fun hsome ↦ absurd hsome (Option.some_ne_none r).symm, fun hsum ↦ ?_⟩
    omega
  · next hfits =>
    have hfits := mt UInt64.lt_iff_toNat_lt.2 hfits
    have hsum : (a + b).toNat = a.toNat + b.toNat := by
      rw [UInt64.toNat_add, Nat.mod_eq_of_lt (by omega)]
    rw [Option.some_inj, ← UInt64.toNat_inj, hsum]

theorem checkedMul_eq_some : checkedMul a b = some r ↔ a.toNat * b.toNat = r.toNat := by
  have hr := r.toNat_lt
  have hmax : kU64Max.toNat = 2 ^ 64 - 1 := rfl
  have hover : (a ≠ 0 ∧ kU64Max / a < b) ↔ 2 ^ 64 ≤ a.toNat * b.toNat := by
    by_cases hzero : a = 0
    · subst hzero
      simp
    · have hne := mt UInt64.toNat_inj.1 hzero
      rw [UInt64.toNat_zero] at hne
      rw [and_iff_right hzero, UInt64.lt_iff_toNat_lt, UInt64.toNat_div, hmax,
        Nat.div_lt_iff_lt_mul (Nat.pos_of_ne_zero hne), Nat.mul_comm b.toNat]
      omega
  rw [checkedMul]
  split
  · next hlarge =>
    have hlarge := hover.1 hlarge
    refine ⟨fun hsome ↦ absurd hsome (Option.some_ne_none r).symm, fun hproduct ↦ ?_⟩
    omega
  · next hfits =>
    have hfits := mt hover.2 hfits
    have hproduct : (a * b).toNat = a.toNat * b.toNat := by
      rw [UInt64.toNat_mul, Nat.mod_eq_of_lt (by omega)]
    rw [Option.some_inj, ← UInt64.toNat_inj, hproduct]

end Checked

section Decimals

def IsDigit (ch : UInt8) : Prop := 0x30 ≤ ch ∧ ch ≤ 0x39

def digitValue (ch : UInt8) : ℕ := ch.toNat - 0x30

/-- The number a text of decimal digits stands for, the first digit the most significant. -/
def decimalValue (text : Text) : ℕ := Nat.ofDigits 10 (text.reverse.map digitValue)

variable {ch : UInt8} {text rest : Text} {value r : U64}

theorem decimalValue_cons (ch : UInt8) (rest : Text) :
    decimalValue (ch :: rest) = digitValue ch * 10 ^ rest.length + decimalValue rest := by
  rw [decimalValue, List.reverse_cons, List.map_append, Nat.ofDigits_append, List.map_singleton,
    Nat.ofDigits_singleton, List.length_map, List.length_reverse, decimalValue]
  ring

theorem isDigit_iff : IsDigit ch ↔ ¬ (ch < 0x30 ∨ 0x39 < ch) := by
  rw [not_or, UInt8.not_lt, UInt8.not_lt, IsDigit]

theorem toNat_digit (h : IsDigit ch) : (ch - 0x30).toUInt64.toNat = digitValue ch := by
  rw [UInt8.toNat_toUInt64, UInt8.toNat_sub_of_le _ _ h.1]
  rfl

theorem parseDigits_cons : parseDigits value (ch :: rest) = some r ↔
    IsDigit ch ∧ ∃ next : U64, value.toNat * 10 + digitValue ch = next.toNat ∧
      parseDigits next rest = some r := by
  rw [parseDigits]
  split
  · next hbad =>
    refine ⟨fun hsome ↦ absurd hsome (Option.some_ne_none r).symm, fun hdigit ↦ ?_⟩
    exact absurd hbad (isDigit_iff.1 hdigit.1)
  · next hgood =>
    have hdigit := isDigit_iff.2 hgood
    simp only [Option.bind_eq_some_iff, checkedMul_eq_some, checkedAdd_eq_some, toNat_digit hdigit]
    constructor
    · rintro ⟨next, ⟨raised, hraised, hnext⟩, hrest⟩
      exact ⟨hdigit, next, by rw [← hnext, ← hraised]; rfl, hrest⟩
    · rintro ⟨-, next, hnext, hrest⟩
      have hlt := next.toNat_lt
      have hraised : (value * 10).toNat = value.toNat * 10 := by
        rw [UInt64.toNat_mul, Nat.mod_eq_of_lt]
        · rfl
        · have hten : (10 : U64).toNat = 10 := rfl
          rw [hten]
          omega
      exact ⟨next, ⟨value * 10, hraised.symm, by rw [hraised, hnext]⟩, hrest⟩

theorem parseDigits_eq_some : parseDigits value text = some r ↔
    (∀ ch ∈ text, IsDigit ch) ∧
      value.toNat * 10 ^ text.length + decimalValue text = r.toNat := by
  induction text generalizing value with
  | nil =>
    rw [parseDigits, Option.some_inj, ← UInt64.toNat_inj]
    simp [decimalValue]
  | cons ch rest ih =>
    rw [parseDigits_cons, List.forall_mem_cons, decimalValue_cons, List.length_cons, pow_succ]
    constructor
    · rintro ⟨hdigit, next, hnext, hrest⟩
      obtain ⟨hdigits, hvalue⟩ := ih.1 hrest
      refine ⟨⟨hdigit, hdigits⟩, ?_⟩
      rw [← hvalue, ← hnext]
      ring
    · rintro ⟨⟨hdigit, hdigits⟩, hvalue⟩
      have hr := r.toNat_lt
      have hstep : (value.toNat * 10 + digitValue ch) * 10 ^ rest.length + decimalValue rest =
          r.toNat := by
        rw [← hvalue]
        ring
      have hfits : value.toNat * 10 + digitValue ch < 2 ^ 64 := by
        have hle := Nat.le_mul_of_pos_right (value.toNat * 10 + digitValue ch)
          (Nat.pow_pos (n := rest.length) (by decide : 0 < 10))
        omega
      refine ⟨hdigit, UInt64.ofNat (value.toNat * 10 + digitValue ch), ?_, ih.2 ⟨hdigits, ?_⟩⟩
      · rw [UInt64.toNat_ofNat_of_lt' hfits]
      · rw [UInt64.toNat_ofNat_of_lt' hfits, hstep]

/-- The texts `parse_u64_strict` is meant for, their value apart. -/
structure Numeral (text : Text) : Prop where
  nonempty : 1 ≤ text.length
  short : text.length ≤ 20
  digits : ∀ ch ∈ text, IsDigit ch

theorem parseU64Strict_eq_some :
    parseU64Strict text = some r ↔ Numeral text ∧ decimalValue text = r.toNat := by
  have hbegun : parseDigits 0 text = some r ↔
      (∀ ch ∈ text, IsDigit ch) ∧ decimalValue text = r.toNat := by
    rw [parseDigits_eq_some, UInt64.toNat_zero, Nat.zero_mul, Nat.zero_add]
  rw [parseU64Strict]
  split
  · next hbad =>
    rw [List.isEmpty_iff_length_eq_zero] at hbad
    refine ⟨fun hsome ↦ absurd hsome (Option.some_ne_none r).symm, fun hnumeral ↦ ?_⟩
    have hnonempty := hnumeral.1.nonempty
    have hshort := hnumeral.1.short
    omega
  · next hgood =>
    rw [List.isEmpty_iff_length_eq_zero] at hgood
    rw [hbegun]
    constructor
    · rintro ⟨hdigits, hvalue⟩
      exact ⟨⟨by omega, by omega, hdigits⟩, hvalue⟩
    · rintro ⟨hnumeral, hvalue⟩
      exact ⟨hnumeral.digits, hvalue⟩

end Decimals

section Written

variable {n : ℕ} {v : U64}

def byteOf (c : Char) : UInt8 := UInt8.ofNat c.toNat

theorem decimal_eq (v : U64) : decimal v = (Nat.toDigits 10 v.toNat).map byteOf := by
  rw [decimal, ascii, Nat.toString_eq_ofList_toDigits, String.toList_ofList]
  rfl

theorem toNat_byteOf {c : Char} (h : c.isDigit) :
    (byteOf c).toNat = c.toNat ∧ 48 ≤ c.toNat ∧ c.toNat ≤ 57 := by
  rw [Char.isDigit, Bool.and_eq_true, decide_eq_true_eq, decide_eq_true_eq] at h
  have hlow : 48 ≤ c.toNat := UInt32.le_iff_toNat_le.1 h.1
  have hhigh : c.toNat ≤ 57 := UInt32.le_iff_toNat_le.1 h.2
  refine ⟨?_, hlow, hhigh⟩
  rw [byteOf, UInt8.toNat_ofNat', Nat.mod_eq_of_lt (by omega)]

theorem isDigit_byteOf {c : Char} (h : c.isDigit) : IsDigit (byteOf c) := by
  obtain ⟨hbyte, hlow, hhigh⟩ := toNat_byteOf h
  refine ⟨UInt8.le_iff_toNat_le.2 ?_, UInt8.le_iff_toNat_le.2 ?_⟩
  · rw [hbyte]
    exact hlow
  · rw [hbyte]
    exact hhigh

theorem decimalValue_map {cs : List Char} (h : ∀ c ∈ cs, c.isDigit) :
    decimalValue (cs.map byteOf) = Nat.ofDigitChars 10 cs 0 := by
  induction cs with
  | nil => rfl
  | cons c cs ih =>
    have hdigit := toNat_byteOf (h c List.mem_cons_self)
    rw [List.map_cons, decimalValue_cons, ih fun c hc ↦ h c (List.mem_cons_of_mem _ hc),
      Nat.ofDigitChars_cons, @Nat.ofDigitChars_eq_ofDigitChars_zero cs (_ + _),
      List.length_map, digitValue, hdigit.1, Nat.mul_zero, Nat.zero_add, Nat.mul_comm]
    rfl

theorem isDigit_decimal : ∀ ch ∈ decimal v, IsDigit ch := by
  rw [decimal_eq]
  intro ch hch
  obtain ⟨c, hc, rfl⟩ := List.mem_map.1 hch
  exact isDigit_byteOf (Nat.isDigit_of_mem_toDigits (by decide) (by decide) hc)

theorem decimalValue_decimal (v : U64) : decimalValue (decimal v) = v.toNat := by
  rw [decimal_eq, decimalValue_map fun c hc ↦
    Nat.isDigit_of_mem_toDigits (by decide) (by decide) hc]
  exact Nat.ofDigitChars_ten_toDigits

theorem numeral_decimal (v : U64) : Numeral (decimal v) := by
  have hlt := v.toNat_lt
  refine ⟨?_, ?_, isDigit_decimal⟩
  · rw [decimal_eq, List.length_map]
    exact Nat.length_toDigits_pos
  · rw [decimal_eq, List.length_map, Nat.length_toDigits_le_iff (by decide) (by decide)]
    omega

theorem parseU64Strict_decimal (v : U64) : parseU64Strict (decimal v) = some v :=
  parseU64Strict_eq_some.2 ⟨numeral_decimal v, decimalValue_decimal v⟩

end Written

section Prefixes

variable {tag : IdTag} {text rest : Text} {id : StrongId tag}

theorem drop_of_getElem? {α : Type*} {l : List α} {k : ℕ} {a : α} (h : l[k]? = some a) :
    l.drop k = a :: l.drop (k + 1) := by
  obtain ⟨hlt, rfl⟩ := List.getElem?_eq_some_iff.1 h
  exact List.drop_eq_getElem_cons hlt

/-- An identity is read from its prefix, a colon and a numeral, and from nothing else. -/
theorem parse_eq_some : StrongId.parse tag text = some id ↔
    ∃ rest, text = IdTag.prefixText tag ++ colon :: rest ∧ parseU64Strict rest = some id.value := by
  simp only [StrongId.parse]
  generalize IdTag.prefixText tag = front
  constructor
  · intro h
    split at h
    · cases h
    split at h
    · cases h
    next hmatches =>
    rw [not_or, Decidable.not_not, Decidable.not_not] at hmatches
    obtain ⟨v, hparsed, rfl⟩ := Option.map_eq_some_iff.1 h
    refine ⟨_, ?_, hparsed⟩
    have hsplit := List.take_append_drop front.length text
    rw [hmatches.1, drop_of_getElem? hmatches.2] at hsplit
    exact hsplit.symm
  · rintro ⟨rest, rfl, hparsed⟩
    have hnonempty := (parseU64Strict_eq_some.1 hparsed).1.nonempty
    have hdrop : (front ++ colon :: rest).drop (front.length + 1) = rest := by
      rw [List.append_cons, List.drop_left' (by simp)]
    rw [if_neg (by rw [List.length_append, List.length_cons]; omega), if_neg, hdrop, hparsed]
    · rfl
    · simp

theorem colon_notMem_prefixText : ∀ tag : IdTag, colon ∉ tag.prefixText := by
  intro tag
  cases tag <;> decide

theorem prefixText_injective : ∀ a b : IdTag, a.prefixText = b.prefixText → a = b := by
  intro a b h
  cases a <;> cases b <;> first | rfl | (revert h; decide)

theorem colon_notMem (h : ∀ ch ∈ rest, IsDigit ch) : colon ∉ rest := by
  intro hcolon
  exact absurd (h colon hcolon).2 (by decide)

end Prefixes

/-- The parser of numbers accepts up to twenty digits whose value fits in a word, and nothing else;
that of identities reads back what was written, and refuses every text that does not begin with its
own prefix and a colon, those of the other identities among them. -/
theorem exact_grammar :
    (∀ text, (parseU64Strict text).isSome ↔
      1 ≤ text.length ∧ text.length ≤ 20 ∧ (∀ ch ∈ text, IsDigit ch) ∧
        decimalValue text < 2 ^ 64) ∧
    (∀ text value, parseU64Strict text = some value → value.toNat = decimalValue text) ∧
    (∀ tag (id : StrongId tag), StrongId.parse tag id.toText = some id) ∧
    (∀ tag text, ¬ tag.prefixText ++ [colon] <+: text → StrongId.parse tag text = none) ∧
    (∀ tag other (id : StrongId other), other ≠ tag → StrongId.parse tag id.toText = none) := by
  refine ⟨fun text ↦ ⟨fun hsome ↦ ?_, fun hform ↦ ?_⟩, ?_, ?_, ?_, ?_⟩
  · obtain ⟨value, hvalue⟩ := Option.isSome_iff_exists.1 hsome
    obtain ⟨hnumeral, hvalue⟩ := parseU64Strict_eq_some.1 hvalue
    exact ⟨hnumeral.nonempty, hnumeral.short, hnumeral.digits, hvalue ▸ value.toNat_lt⟩
  · obtain ⟨hnonempty, hshort, hdigits, hfits⟩ := hform
    refine Option.isSome_iff_exists.2 ⟨UInt64.ofNat (decimalValue text), ?_⟩
    refine parseU64Strict_eq_some.2 ⟨⟨hnonempty, hshort, hdigits⟩, ?_⟩
    rw [UInt64.toNat_ofNat_of_lt' hfits]
  · intro text value hparsed
    exact (parseU64Strict_eq_some.1 hparsed).2.symm
  · intro tag id
    exact parse_eq_some.2 ⟨decimal id.value, rfl, parseU64Strict_decimal id.value⟩
  · intro tag text hother
    refine Option.eq_none_iff_forall_ne_some.2 fun id hparsed ↦ hother ?_
    obtain ⟨rest, rfl, -⟩ := parse_eq_some.1 hparsed
    exact ⟨rest, (List.append_cons _ _ _).symm⟩
  · intro tag other id hother
    refine Option.eq_none_iff_forall_ne_some.2 fun found hparsed ↦ hother ?_
    obtain ⟨rest, hsame, hrest⟩ := parse_eq_some.1 hparsed
    have hrest := colon_notMem (parseU64Strict_eq_some.1 hrest).1.digits
    have hfront := (List.append_cons_inj_of_notMem (colon_notMem_prefixText tag) hrest).1 hsame.symm
    exact (prefixText_injective tag other hfront.1).symm

end RateGovernor.Dynamics.Numerals
