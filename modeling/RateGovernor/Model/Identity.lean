import RateGovernor.Model.CheckedMath

namespace RateGovernor.Model.Identity

open CheckedMath

/-- The type tags that keep one kind of identity from standing in for another. -/
inductive IdTag
  | env | flow | res | grant | rsv | pol | bkd | att | gen | epoch | boot | seq
  deriving DecidableEq, Repr

structure StrongId (tag : IdTag) where
  value : U64 := 0
  deriving DecidableEq, Repr

def StrongId.valid {tag : IdTag} (id : StrongId tag) : Bool := id.value ≠ 0

theorem StrongId.eq_of_value {tag : IdTag} {a b : StrongId tag} (h : a.value = b.value) : a = b := by
  cases a
  cases b
  exact congrArg mk h

abbrev RateEnvelopeId := StrongId .env
abbrev FlowId := StrongId .flow
abbrev ResourceId := StrongId .res
abbrev GrantId := StrongId .grant
abbrev ReservationId := StrongId .rsv
abbrev PolicyId := StrongId .pol
abbrev BackendId := StrongId .bkd
abbrev EnforcementAttemptId := StrongId .att
abbrev Generation := StrongId .gen
abbrev FabricEpoch := StrongId .epoch
abbrev WorkerBootId := StrongId .boot

def splitmix64 (state : U64) : U64 :=
  let z := state + 0x9E3779B97F4A7C15
  let z := (z ^^^ (z >>> 30)) * 0xBF58476D1CE4E5B9
  let z := (z ^^^ (z >>> 27)) * 0x94D049BB133111EB
  z ^^^ (z >>> 31)

def mix64 (value : U64) : U64 := splitmix64 value

end RateGovernor.Model.Identity
