/-
  Redelivery.Decimal.Shortest
  ───────────────────────────
  **The fewest decimal digits that still name one double.**

  A finite double is `m · 2^q`.  Every real between its two half-way points
  rounds to it (the half-way points too when `m` is even).  For one, two, …
  seventeen digits we look at the two decimals of that many digits around the
  value; the first grid with a decimal in the interval wins, of two the
  nearer, and of two equally near the larger.  All tests are exact, in whole
  numbers.

  `positional` writes the digits without an exponent: `1`, `0.5`, `-2`,
  `10000000000000000`.
-/

namespace Redelivery.Decimal

/-! ## §1. The interval of a double. -/

/-- A positive double, scaled so that all three numbers are whole: the value, and the two ends
of the interval of reals that round to it, each over `den`. -/
structure Interval where
  low : Nat
  value : Nat
  high : Nat
  den : Nat
  /-- Whether the ends belong to the interval. -/
  closed : Bool
  deriving Repr

/-- The interval of the positive finite double with these bits (the sign is not looked at). -/
def Interval.ofBits (bits : UInt64) : Interval :=
  let e : Nat := (bits.toNat / 0x10000000000000) % 0x800
  let f : Nat := bits.toNat % 0x10000000000000
  let m : Nat := if e = 0 then f else 0x10000000000000 + f
  let q : Int := (if e = 0 then 1 else (e : Int)) - 1075 - 2
  let below : Nat := if f = 0 && e > 1 then 1 else 2
  let up : Nat := Nat.pow 2 q.toNat
  { low := (4 * m - below) * up
    value := 4 * m * up
    high := (4 * m + 2) * up
    den := Nat.pow 2 (-q).toNat
    closed := m % 2 = 0 }

/-- Whether `n / d` lies in the interval. -/
def Interval.contains (i : Interval) (n d : Nat) : Bool :=
  if i.closed then i.low * d ≤ n * i.den && n * i.den ≤ i.high * d
  else i.low * d < n * i.den && n * i.den < i.high * d

/-! ## §2. Grids of decimals. -/

/-- A decimal `digits · 10^exponent`. -/
structure Scaled where
  digits : Nat
  exponent : Int
  deriving DecidableEq, Repr

/-- The decimal as a fraction. -/
def Scaled.fraction (s : Scaled) : Nat × Nat :=
  (s.digits * Nat.pow 10 s.exponent.toNat, Nat.pow 10 (-s.exponent).toNat)

/-- The largest `e` with `10^e` at most the value. -/
def Interval.magnitude (i : Interval) : Int :=
  if i.den ≤ i.value then
    (Nat.toDigits 10 (i.value / i.den)).length - 1
  else
    let digits := (Nat.toDigits 10 (i.den / i.value)).length
    -- `den / value` has `digits` digits: the value is at most `10^(1-digits)`
    if i.value * Nat.pow 10 (digits - 1) = i.den then 1 - digits else -digits

/-- The better of the two neighbours of the value on the grid of spacing `10^exponent`, if one
lies in the interval. -/
def Interval.onGrid? (i : Interval) (exponent : Int) : Option Scaled :=
  let n := i.value * Nat.pow 10 (-exponent).toNat
  let d := i.den * Nat.pow 10 exponent.toNat
  let down : Scaled := ⟨n / d, exponent⟩
  let up : Scaled := ⟨n / d + 1, exponent⟩
  let downHit := i.contains down.fraction.1 down.fraction.2
  let upHit := i.contains up.fraction.1 up.fraction.2
  if downHit && upHit then
    if 2 * (n % d) < d then some down else some up
  else if downHit then some down
  else if upHit then some up
  else none

/-- The shortest decimal in the interval, nearest to the value. -/
def Interval.shortest (i : Interval) : Scaled :=
  let e := i.magnitude
  let grids := (List.range 17).map fun (k : Nat) => e - (k : Int)
  (grids.findSome? i.onGrid?).getD ⟨i.value / i.den, 0⟩

/-! ## §3. Text. -/

/-- Drop the zeros at the end, as long as the exponent stays below zero. -/
def Scaled.trim (s : Scaled) : Scaled := go 20 s
where
  go : Nat → Scaled → Scaled
    | 0, s => s
    | fuel + 1, s =>
        if s.exponent < 0 && s.digits % 10 = 0 then go fuel ⟨s.digits / 10, s.exponent + 1⟩ else s

/-- A decimal without an exponent, and without a point when it is whole. -/
def Scaled.positional (s : Scaled) : String :=
  let s := s.trim
  if 0 ≤ s.exponent then
    toString (s.digits * Nat.pow 10 s.exponent.toNat)
  else
    let places := (-s.exponent).toNat
    let cs := Nat.toDigits 10 s.digits
    let cs := List.replicate (places + 1 - cs.length) '0' ++ cs
    String.ofList (cs.take (cs.length - places) ++ '.' :: cs.drop (cs.length - places))

/-- A double in its fewest digits, never with an exponent; `NaN`, `inf` and `-inf` by name. -/
def positional (x : Float) : String :=
  let bits := x.toBits
  let negative := bits.toNat ≥ 0x8000000000000000
  let magnitude := bits.toNat % 0x8000000000000000
  let sign := if negative then "-" else ""
  if magnitude > 0x7FF0000000000000 then "NaN"
  else if magnitude = 0x7FF0000000000000 then sign ++ "inf"
  else if magnitude = 0 then sign ++ "0"
  else sign ++ (Interval.ofBits (UInt64.ofNat magnitude)).shortest.positional

end Redelivery.Decimal
