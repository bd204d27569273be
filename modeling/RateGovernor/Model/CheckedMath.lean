namespace RateGovernor.Model.CheckedMath

abbrev U64 := UInt64

def kU64Max : U64 := 18446744073709551615

def kNanosecondsPerSecond : U64 := 1000000000

/-- A 128-bit product held as two 64-bit halves. -/
structure U128 where
  hi : U64
  lo : U64
  deriving DecidableEq, Repr

def mulWide (a b : U64) : U128 :=
  let aLo := a &&& 0xFFFFFFFF
  let aHi := a >>> 32
  let bLo := b &&& 0xFFFFFFFF
  let bHi := b >>> 32
  let p0 := aLo * bLo
  let p1 := aLo * bHi
  let p2 := aHi * bLo
  let p3 := aHi * bHi
  let mid := (p0 >>> 32) + (p1 &&& 0xFFFFFFFF) + (p2 &&& 0xFFFFFFFF)
  { lo := (mid <<< 32) ||| (p0 &&& 0xFFFFFFFF)
    hi := p3 + (p1 >>> 32) + (p2 >>> 32) + (mid >>> 32) }

structure DivMod where
  quotient : U64
  remainder : U64
  deriving DecidableEq, Repr

/-- The shift-and-subtract loop of `divmod_wide`, from the given bit down to bit zero. -/
def divmodLoop (lo divisor : U64) : Nat → U64 → U64 → DivMod
  | 0, remainder, quotient => ⟨quotient, remainder⟩
  | bit + 1, remainder, quotient =>
    let carry := remainder >>> 63
    let shifted := (remainder <<< 1) ||| ((lo >>> UInt64.ofNat bit) &&& 1)
    if carry ≠ 0 ∨ divisor ≤ shifted then
      divmodLoop lo divisor bit (shifted - divisor) (quotient ||| (1 <<< UInt64.ofNat bit))
    else divmodLoop lo divisor bit shifted quotient

/-- `none` when the divisor is zero or the quotient does not fit in 64 bits. -/
def divmodWide (value : U128) (divisor : U64) : Option DivMod :=
  if divisor = 0 then none
  else if divisor ≤ value.hi then none
  else some (divmodLoop value.lo divisor 64 value.hi 0)

/-- The loop of `mul_mod`, which is that of `divmod_wide` without its quotient. -/
def modLoop (lo modulus : U64) : Nat → U64 → U64
  | 0, remainder => remainder
  | bit + 1, remainder =>
    let carry := remainder >>> 63
    let shifted := (remainder <<< 1) ||| ((lo >>> UInt64.ofNat bit) &&& 1)
    if carry ≠ 0 ∨ modulus ≤ shifted then modLoop lo modulus bit (shifted - modulus)
    else modLoop lo modulus bit shifted

/-- `none` when the modulus is zero. -/
def mulMod (a b m : U64) : Option U64 :=
  if m = 0 then none
  else
    let product := mulWide a b
    some (modLoop product.lo m 64 (product.hi % m))

def mulDivMod (a b d : U64) : Option DivMod :=
  if d = 0 then none else divmodWide (mulWide a b) d

def checkedAdd (a b : U64) : Option U64 :=
  if kU64Max - b < a then none else some (a + b)

def checkedMul (a b : U64) : Option U64 :=
  if a ≠ 0 ∧ kU64Max / a < b then none else some (a * b)

def saturatingAdd (a b : U64) : U64 :=
  if kU64Max - b < a then kU64Max else a + b

def saturatingMulDiv (a b d : U64) : U64 :=
  (divmodWide (mulWide a b) d).elim kU64Max DivMod.quotient

def clampU64 (value low high : U64) : U64 :=
  if value < low then low else if high < value then high else value

end RateGovernor.Model.CheckedMath
