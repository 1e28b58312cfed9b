/-
  Redelivery.Backoff.Writer
  ─────────────────────────
  **Writing backoffs as documents, in the form in which they are read.**
-/
import Redelivery.Backoff.Basic
import Redelivery.Backoff.Republish
import Redelivery.Document.Writer

namespace Redelivery

/-- A backoff as a document. -/
def Backoff.toDocument : Backoff → Document
  | .fixed delay => .map [("type", .text "fixed"), ("delay_ms", .ofUInt64 delay)]
  | .uniformRandom min max =>
      .map [("type", .text "uniform_random"), ("min_ms", .ofUInt64 min), ("max_ms", .ofUInt64 max)]
  | .exponential initial multiplier max =>
      .map [("type", .text "exponential"), ("initial_ms", .ofUInt64 initial),
        ("multiplier", .float multiplier), ("max_ms", .ofUInt64 max)]
  | .exponentialRandom initial multiplier max =>
      .map [("type", .text "exponential_random"), ("initial_ms", .ofUInt64 initial),
        ("multiplier", .float multiplier), ("max_ms", .ofUInt64 max)]
  | .explicit delays =>
      .map [("type", .text "explicit"), ("delays_ms", .list (delays.map .ofUInt64))]

/-- The local retries of a publish as a document. -/
def RepublishPolicy.toDocument (p : RepublishPolicy) : Document :=
  .map [("max_times", .ofUInt64 p.maxTimes), ("min_delay_ms", .ofUInt64 p.minDelay),
    ("max_delay_ms", .ofUInt64 p.maxDelay), ("jitter", .bool p.jitter)]

end Redelivery
