import RateGovernor.Model.CheckedMath

namespace RateGovernor.Model.Bucket

open CheckedMath

/-- Burst accounting with an exact fractional remainder over one second. -/
structure TokenBucket where
  tokens : U64 := 0
  capacity : U64 := 0
  rateUps : U64 := 0
  lastRefillNs : U64 := 0
  fractionalNumerator : U64 := 0
  initialized : Bool := false
  deriving DecidableEq

structure RefillOutcome where
  clockRegressed : Bool := false
  saturated : Bool := false
  tokensGranted : U64 := 0
  tokensAvailable : U64 := 0
  elapsedNs : U64 := 0
  deriving DecidableEq

def configureBucket (capacity rateUps now : U64) : TokenBucket where
  capacity := capacity
  rateUps := rateUps
  tokens := capacity
  lastRefillNs := now
  fractionalNumerator := 0
  initialized := true

def refillBucket (bucket : TokenBucket) (now : U64) : TokenBucket × RefillOutcome :=
  if !bucket.initialized then
    let tokens := if bucket.capacity < bucket.tokens then bucket.capacity else bucket.tokens
    ({ bucket with initialized := true, lastRefillNs := now, tokens := tokens },
      { tokensAvailable := tokens })
  else if now < bucket.lastRefillNs then
    (bucket, { clockRegressed := true, tokensAvailable := bucket.tokens })
  else
    let elapsed := now - bucket.lastRefillNs
    let bucket := { bucket with lastRefillNs := now }
    if elapsed = 0 || bucket.rateUps = 0 || bucket.capacity = 0 then
      if bucket.capacity < bucket.tokens then
        ({ bucket with tokens := bucket.capacity },
          { elapsedNs := elapsed, saturated := true, tokensAvailable := bucket.capacity })
      else (bucket, { elapsedNs := elapsed, tokensAvailable := bucket.tokens })
    else
      let before := bucket.tokens
      match mulDivMod elapsed bucket.rateUps kNanosecondsPerSecond with
      | none =>
        ({ bucket with tokens := bucket.capacity, fractionalNumerator := 0 },
          { elapsedNs := elapsed, saturated := true, tokensGranted := bucket.capacity - before,
            tokensAvailable := bucket.capacity })
      | some scaled =>
        let carry := bucket.fractionalNumerator + scaled.remainder
        let granted := saturatingAdd scaled.quotient (carry / kNanosecondsPerSecond)
        let filled := saturatingAdd before granted
        let tokens := if bucket.capacity < filled then bucket.capacity else filled
        ({ bucket with tokens := tokens, fractionalNumerator := carry % kNanosecondsPerSecond },
          { elapsedNs := elapsed, saturated := bucket.capacity < filled,
            tokensGranted := tokens - before, tokensAvailable := tokens })

/-- `none` when the balance does not cover the amount. -/
def tryConsume (bucket : TokenBucket) (amount : U64) : Option TokenBucket :=
  if bucket.tokens < amount then none else some { bucket with tokens := bucket.tokens - amount }

end RateGovernor.Model.Bucket
