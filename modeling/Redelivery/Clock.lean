/-
  Redelivery.Clock
  ────────────────
  **One clock with two faces.**

  Milliseconds since the start, which only grow, and the wall-clock time in
  epoch milliseconds.  Both advance together.
-/

namespace Redelivery

/-- A running clock. -/
structure Clock where
  /-- Wall-clock time at the start. -/
  start : Int64 := 1700000000000
  /-- Milliseconds since the start. -/
  elapsed : Nat := 0
  deriving DecidableEq, Repr, Inhabited

namespace Clock

/-- The wall-clock time. -/
def wall (c : Clock) : Int64 := Int64.ofInt (c.start.toInt + c.elapsed)

/-- The clock some time later; it never goes back. -/
def moveTo (c : Clock) (elapsed : Nat) : Clock := { c with elapsed := max c.elapsed elapsed }

end Clock

end Redelivery
