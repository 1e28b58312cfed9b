/-
  Redelivery.Backoff.Basic
  ────────────────────────
  **The delays of a chain of retries.**

  A backoff is turned into the delay of every retry level once, when a chain
  is built; records never compute delays.  A valid backoff has a minimum (or
  initial) delay of at most its maximum, a finite multiplier above 1, and no
  delay beyond what a due time in epoch milliseconds can hold.

  `generate` gives one delay fewer than there are attempts, except that an
  explicit list is taken as it is.
-/
import Redelivery.Error
import Redelivery.Draws

namespace Redelivery

/-- How the delays of the retry levels are found; all times in milliseconds. -/
inductive Backoff where
  /-- The same delay at every level. -/
  | fixed (delay : UInt64)
  /-- Delays drawn between two bounds, in ascending order. -/
  | uniformRandom (min max : UInt64)
  /-- The initial delay times a power of the multiplier, at most `max`. -/
  | exponential (initial : UInt64) (multiplier : Float) (max : UInt64)
  /-- Each delay is the one before times a factor between 1 and the multiplier. -/
  | exponentialRandom (initial : UInt64) (multiplier : Float) (max : UInt64)
  /-- These delays. -/
  | explicit (delays : List UInt64)
  deriving DecidableEq, Repr

namespace Backoff

/-- One second at every level. -/
def default : Backoff := .fixed 1000

instance : Inhabited Backoff := ⟨default⟩

/-- Whether the delays are drawn. -/
def isRandom : Backoff → Bool
  | .uniformRandom _ _ | .exponentialRandom _ _ _ => true
  | _ => false

/-- The number of attempts that a list of delays stands for: one more than its length. -/
def impliedAttempts? : Backoff → Option UInt32
  | .explicit delays => some (UInt32.ofNat delays.length + 1)
  | _ => none

/-! ## §1. Validity. -/

/-- A delay must leave room in a due time. -/
def checkDelay (delay : UInt64) : Except BackoffFault Unit :=
  if longestDelay < delay then .error (.delayTooLong delay) else .ok ()

/-- The first fault of the parameters, if any. -/
def validate : Backoff → Except BackoffFault Unit
  | .fixed delay => checkDelay delay
  | .uniformRandom min max =>
      if max < min then .error (.minAboveMax min max) else checkDelay max
  | .exponential initial multiplier max | .exponentialRandom initial multiplier max =>
      if !multiplier.isFinite || multiplier ≤ 1.0 then .error (.multiplierNotAboveOne multiplier)
      else if max < initial then .error (.initialAboveMax initial max)
      else checkDelay max
  | .explicit delays => delays.forM checkDelay

/-! ## §2. Delays. -/

/-- A power by repeated squaring; the order of the products is part of the result. -/
def power (base : Float) (n : Nat) : Float := go 1.0 base n
where
  go (result base : Float) (n : Nat) : Float :=
    let result := if n % 2 = 1 then result * base else result
    if n / 2 = 0 then result else go result (base * base) (n / 2)
  termination_by n

/-- A delay as a whole number, a half upwards, and at most `max`. -/
def capped (delay : Float) (max : UInt64) : UInt64 :=
  if max.toFloat ≤ delay then max else delay.round.toUInt64

/-- Delays that grow by drawn factors, after the given one. -/
def growing (multiplier : Float) (max : UInt64) : UInt64 → List UInt64 → List UInt64
  | _, [] => []
  | current, word :: words =>
      let next := capped (current.toFloat * Draws.factor multiplier word) max
      next :: growing multiplier max next words

/-- The delays of `levels` retry levels. -/
def delays (b : Backoff) (levels : Nat) (draws : Draws) : List UInt64 :=
  let words := (List.range levels).map draws
  match b with
  | .fixed delay => List.replicate levels delay
  | .uniformRandom min max => (words.map (Draws.between min max)).mergeSort
  | .exponential initial multiplier max =>
      (List.range levels).map fun i => capped (initial.toFloat * power multiplier i) max
  | .exponentialRandom initial multiplier max =>
      -- The first delay uses up a word without looking at it.
      let first := min initial max
      match words with
      | [] => []
      | _ :: words => first :: growing multiplier max first words
  | .explicit delays => delays

/-- The delays of the retry levels of a chain with that many attempts. -/
def generate (b : Backoff) (maxAttempts : UInt32) (draws : Draws) :
    Except BackoffFault (List UInt64) := do
  b.validate
  -- A list of delays says itself how many attempts there are.
  if b.impliedAttempts? = none ∧ maxAttempts < 1 then throw .noAttempts
  return b.delays (maxAttempts.toNat - 1) draws

end Backoff

end Redelivery
