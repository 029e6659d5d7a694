import Mathlib.Data.Rat.Floor
import Pactline.Model.Lifecycle

/-!
# Token buckets

The limiter of the API's requests, `internal/api/rate_limit.go`. Times are nanoseconds, and amounts
of tokens are rationals.
-/

set_option autoImplicit false

namespace Pactline.RateLimit

def rateLimitCapacity : ℚ := 30

def rateLimitRefillPerSec : ℚ := 2

def rateLimitPerMinute : Int := 120

/-- Fifteen minutes. -/
def rateLimitBucketIdleTTL : Int := 15 * 60 * 10 ^ 9

structure LimitDecision where
  allowed : Bool
  limit : Int
  remaining : Int
  resetAfter : Int

structure TokenBucket where
  tokens : ℚ
  updated : Int
  lastSeen : Int

abbrev Buckets := Id → Option TokenBucket

/-- `time.Time.Sub`: a `Duration` is a number of 64 bits, and the difference saturates. -/
def sub (t u : Int) : Int := max (-2 ^ 63) (min (2 ^ 63 - 1) (t - u))

/-- The refill of a bucket, 53-59. -/
def TokenBucket.refill (bucket : TokenBucket) (now : Int) : TokenBucket :=
  let elapsed := sub now bucket.updated
  if 0 < elapsed then
    { bucket with
      tokens := min rateLimitCapacity (bucket.tokens + elapsed / 10 ^ 9 * rateLimitRefillPerSec)
      updated := now }
  else bucket

/-- `Allow`, 44-80, with what it does to idle buckets as an argument. -/
def allowWith (prune : Int → Buckets → Buckets) (buckets : Buckets) (tokenID : Id) (now : Int) :
    LimitDecision × Buckets :=
  let buckets := prune now buckets
  let bucket := (buckets tokenID).getD ⟨rateLimitCapacity, now, now⟩
  let bucket : TokenBucket := { bucket.refill now with lastSeen := now }
  let allowed := decide (1 ≤ bucket.tokens)
  let bucket := if allowed then { bucket with tokens := bucket.tokens - 1 } else bucket
  let resetTokens := if allowed then rateLimitCapacity - bucket.tokens else 1 - bucket.tokens
  (⟨allowed, rateLimitPerMinute, ⌊bucket.tokens⌋,
      max 0 ⌊resetTokens / rateLimitRefillPerSec * 10 ^ 9⌋⟩,
    Function.update buckets tokenID (some bucket))

/-- `pruneLocked`, 88-95. -/
def pruneLocked (now : Int) (buckets : Buckets) : Buckets := fun tokenID =>
  (buckets tokenID).filter fun bucket => ¬ bucket.lastSeen < now - rateLimitBucketIdleTTL

/-- The answers to calls one after the other, each of a token at its time. -/
def answers (prune : Int → Buckets → Buckets) : Buckets → List (Id × Int) → List Bool
  | _, [] => []
  | buckets, (tokenID, now) :: calls =>
    let (decision, buckets) := allowWith prune buckets tokenID now
    decision.allowed :: answers prune buckets calls

end Pactline.RateLimit
