/-
  Redelivery.Draws
  ────────────────
  **Random draws as an argument.**

  Whatever is drawn at random is a function of a stream of 64-bit words, so
  a statement about every stream is a statement about every outcome.  One
  stream is given for a seed: the words of an additive sequence, each mixed
  by shifts and odd multipliers.
-/

namespace Redelivery

/-- A stream of random words: the word of each draw. -/
abbrev Draws := Nat → UInt64

namespace Draws

/-- Mix the bits of a word; no two words have one image. -/
def mix (z : UInt64) : UInt64 :=
  let z := (z ^^^ (z >>> 30)) * 0xBF58476D1CE4E5B9
  let z := (z ^^^ (z >>> 27)) * 0x94D049BB133111EB
  z ^^^ (z >>> 31)

/-- The stream of a seed. -/
def ofSeed (seed : UInt64) : Draws := fun i =>
  mix (seed + 0x9E3779B97F4A7C15 * (UInt64.ofNat i + 1))

/-- The stream from its `n`-th word on. -/
def skip (d : Draws) (n : Nat) : Draws := fun i => d (n + i)

/-- A whole number between two bounds, for `low ≤ high`. -/
def between (low high word : UInt64) : UInt64 :=
  UInt64.ofNat (low.toNat + word.toNat % (high.toNat - low.toNat + 1))

/-- A real number between 1 and a bound above 1. -/
def factor (bound : Float) (word : UInt64) : Float :=
  let unit := (word >>> 11).toFloat / 9007199254740992.0
  let x := 1.0 + unit * (bound - 1.0)
  if x ≤ bound then x else bound

theorem toNat_between {low high : UInt64} (word : UInt64) (h : low ≤ high) :
    low.toNat ≤ (between low high word).toNat ∧ (between low high word).toNat ≤ high.toNat := by
  have hle : low.toNat ≤ high.toNat := UInt64.le_iff_toNat_le.1 h
  have hhigh := high.toNat_lt
  have hmod : word.toNat % (high.toNat - low.toNat + 1) < high.toNat - low.toNat + 1 :=
    Nat.mod_lt _ (by omega)
  have hlt : low.toNat + word.toNat % (high.toNat - low.toNat + 1) < 2 ^ 64 := by omega
  unfold between
  rw [UInt64.toNat_ofNat_of_lt' hlt]
  omega

end Draws

end Redelivery
