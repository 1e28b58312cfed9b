/-
  Redelivery.Backoff.Republish
  ────────────────────────────
  **Local retries of a publish.**

  A record must be on its next topic before its offset is committed, so a
  failed publish is tried again, a bounded number of times: after the
  minimal pause, then after pauses that double up to the maximal one.
-/
import Redelivery.Document.Fields

namespace Redelivery

/-- How often and after which pauses a failed publish is tried again. -/
structure RepublishPolicy where
  /-- Retries after the first try. -/
  maxTimes : UInt64 := 3
  minDelay : UInt64 := 100
  maxDelay : UInt64 := 2000
  /-- Whether a random part is added to each pause. -/
  jitter : Bool := true
  deriving DecidableEq, Repr, Inhabited

namespace RepublishPolicy

/-- The pause after one of `current` milliseconds. -/
def following (p : RepublishPolicy) (current : Nat) : Nat :=
  let max := p.maxDelay.toNat
  if current < max then min (2 * current) max else max

/-- The `k`-th pause, counted from zero, without its random part. -/
def basePause (p : RepublishPolicy) : Nat → Nat
  | 0 => p.minDelay.toNat
  | k + 1 => p.following (p.basePause k)

/-- The pause after the `k`-th failed try, counted from zero; none once the retries are used up.
`extra` is the random part. -/
def pause? (p : RepublishPolicy) (k extra : Nat) : Option Nat :=
  if k < p.maxTimes.toNat then some (p.basePause k + if p.jitter then extra else 0) else none

/-- The first `n` pauses without their random parts. -/
def pauses (p : RepublishPolicy) (n : Nat) : List Nat :=
  (List.range (min n p.maxTimes.toNat)).map p.basePause

/-- The policy that a document describes. -/
def ofDocument? (r : Reading) (d : Document) : Option RepublishPolicy := do
  let fields ← r.entries? ["max_times", "min_delay_ms", "max_delay_ms", "jitter"] d
  return {
    maxTimes := ← Reading.field fields "max_times" 3 r.uint64?
    minDelay := ← Reading.field fields "min_delay_ms" 100 r.uint64?
    maxDelay := ← Reading.field fields "max_delay_ms" 2000 r.uint64?
    jitter := ← Reading.field fields "jitter" true r.bool? }

end RepublishPolicy

end Redelivery
