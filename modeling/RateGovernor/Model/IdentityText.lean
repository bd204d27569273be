import RateGovernor.Model.Entities

namespace RateGovernor.Model.Identity

open CheckedMath Entities

def IdTag.prefixText : IdTag → Text
  | .env => ascii "env"
  | .flow => ascii "flow"
  | .res => ascii "res"
  | .grant => ascii "grant"
  | .rsv => ascii "rsv"
  | .pol => ascii "pol"
  | .bkd => ascii "bkd"
  | .att => ascii "att"
  | .gen => ascii "gen"
  | .epoch => ascii "epoch"
  | .boot => ascii "boot"
  | .seq => ascii "seq"

/-- The loop of `parse_u64_strict` over the characters not yet read. -/
def parseDigits (value : U64) : Text → Option U64
  | [] => some value
  | ch :: rest =>
    if ch < 0x30 ∨ 0x39 < ch then none
    else
      let digit := (ch - 0x30).toUInt64
      ((checkedMul value 10).bind fun value ↦ checkedAdd value digit).bind fun value ↦
        parseDigits value rest

def parseU64Strict (text : Text) : Option U64 :=
  if text.isEmpty ∨ 20 < text.length then none else parseDigits 0 text

/-- The digits `std::to_string` writes for a number. -/
def decimal (value : U64) : Text := ascii (toString value.toNat)

def colon : UInt8 := 0x3A

def joinIdentity (prefixText : Text) (value : U64) : Text :=
  prefixText ++ colon :: decimal value

def StrongId.toText {tag : IdTag} (id : StrongId tag) : Text :=
  joinIdentity (IdTag.prefixText tag) id.value

def StrongId.parse (tag : IdTag) (text : Text) : Option (StrongId tag) :=
  let prefixText := IdTag.prefixText tag
  if text.length ≤ prefixText.length + 1 then none
  else if text.take prefixText.length ≠ prefixText ∨ text[prefixText.length]? ≠ some colon then none
  else (parseU64Strict (text.drop (prefixText.length + 1))).map StrongId.mk

end RateGovernor.Model.Identity
