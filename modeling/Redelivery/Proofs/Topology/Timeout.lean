/-
  Redelivery.Proofs.Topology.Timeout
  ──────────────────────────────────
  **When the timeout of a chain ends retrying.**

  The time since the first failure is held within 64 bits, and the timeout is
  read as a signed number.  So a timeout of `T` milliseconds is up

      T < 2 ^ 63 - 1      when  T < now - first
      T = 2 ^ 63 - 1      never, since no time is held that exceeds it
      2 ^ 63 ≤ T          when  T - 2 ^ 64 < now - first, which is too soon

  and until it is up, a record goes where it would go without the timeout.
-/
import Redelivery.Proofs.Topology.Progress

namespace Redelivery

/-! ## §1. Reading the timeout and the clock. -/

/-- The upper half of the unsigned numbers is read as negative numbers. -/
theorem toInt_toInt64 (n : UInt64) :
    n.toInt64.toInt
      = if n.toNat < 9223372036854775808 then (n.toNat : Int)
        else n.toNat - 18446744073709551616 := by
  have hread : n.toInt64.toInt = n.toBitVec.toInt := (Int64.toInt_toBitVec n.toInt64).symm
  have htoNat : n.toBitVec.toNat = n.toNat := rfl
  rw [hread, BitVec.toInt_eq_toNat_cond, htoNat]
  split
  · rw [if_pos (by omega)]
  · rw [if_neg (by omega)]
    rfl

/-- A difference of times is held at the ends of what 64 bits hold. -/
theorem toInt_elapsedSince (first now : Int64) :
    (elapsedSince first now).toInt
      = max (-9223372036854775808) (min 9223372036854775807 (now.toInt - first.toInt)) := by
  have hmin := Int64.toInt_minValue
  have hmax := Int64.toInt_maxValue
  unfold elapsedSince
  by_cases hlow : Int64.minValue.toInt ≤ now.toInt - first.toInt
  · by_cases hhigh : now.toInt - first.toInt ≤ Int64.maxValue.toInt
    · rw [Int64.toInt_ofIntClamp hlow hhigh]
      omega
    · unfold Int64.ofIntClamp
      rw [dif_pos hlow, dif_neg hhigh]
      omega
  · unfold Int64.ofIntClamp
    rw [dif_neg hlow]
    omega

/-- Whether a timeout is up, on the numbers as they are. -/
def Lapsed (timeout : UInt64) (first now : Int64) : Prop :=
  if timeout.toNat < 9223372036854775808 then
    timeout.toNat < 9223372036854775807 ∧ (timeout.toNat : Int) < now.toInt - first.toInt
  else (timeout.toNat : Int) - 18446744073709551616 < now.toInt - first.toInt

instance (timeout : UInt64) (first now : Int64) : Decidable (Lapsed timeout first now) :=
  inferInstanceAs (Decidable (if timeout.toNat < 9223372036854775808 then _ ∧ _ else _ < _))

/-- **The timeout is up exactly when it has lapsed.** -/
theorem timedOut_iff_lapsed (timeout : UInt64) (first now : Int64) :
    timedOut (some timeout) (some first) now = true ↔ Lapsed timeout first now := by
  have hbound : timeout.toNat < 18446744073709551616 := timeout.toNat_lt
  show decide (timeout.toInt64 < elapsedSince first now) = true ↔ _
  rw [decide_eq_true_eq, Int64.lt_iff_toInt_lt, toInt_toInt64, toInt_elapsedSince]
  unfold Lapsed
  split
  · omega
  · omega

/-- **When a timeout lapses as it says.** -/
theorem lapsed_exact_iff (timeout : UInt64) (first now : Int64) :
    (Lapsed timeout first now ↔ (timeout.toNat : Int) < now.toInt - first.toInt)
      ↔ timeout.toNat < 9223372036854775807
        ∨ (timeout.toNat = 9223372036854775807 ∧ now.toInt - first.toInt ≤ timeout.toNat)
        ∨ (9223372036854775807 < timeout.toNat
          ∧ (now.toInt - first.toInt ≤ timeout.toNat - 18446744073709551616
            ∨ (timeout.toNat : Int) < now.toInt - first.toInt)) := by
  unfold Lapsed
  split
  · omega
  · omega

/-- Two rules that choose between the same answers agree if the answers are the same, or the rules
are. -/
theorem ite_eq_ite_iff {α : Type} {P Q : Prop} [Decidable P] [Decidable Q] (a b : α) :
    (if P then a else b) = (if Q then a else b) ↔ b = a ∨ (P ↔ Q) := by
  by_cases hP : P <;> by_cases hQ : Q <;> simp [hP, hQ, eq_comm]

/-! ## §2. The same chain without the timeout. -/

/-- The chain with no end to retrying. -/
def Chain.untimed (c : Chain) : Chain := { c with policy := { c.policy with timeout := none } }

section Timed

variable {registry : Registry} {source current : String} {chain : Chain} {node terminal : Destination}
  {p : Nat} {attempt : UInt32} {f : Failure} {timeout : UInt64} {first now : Int64}

/-- **The timeout comes between the check for fatal failures and the count of attempts.** -/
theorem Chain.next?_timed (htimeout : chain.policy.timeout = some timeout)
    (hretryable : chain.policy.classifier.isFatal f = false) :
    chain.next? p node attempt f (some first) now
      = if timedOut (some timeout) (some first) now then chain.terminal?
        else chain.untimed.next? p node attempt f (some first) now := by
  have huntimed : chain.untimed.policy.classifier.isFatal f = false := hretryable
  have hnever : timedOut chain.untimed.policy.timeout (some first) now = false := rfl
  unfold Chain.next?
  rw [hretryable, huntimed, htimeout, hnever]
  rfl

/-- The chain without the timeout, put in force in its place. -/
theorem Registry.chain?_put_untimed (hchain : registry.chain? source = some chain) :
    (registry.put chain.untimed).chain? source = some chain.untimed := by
  unfold Registry.chain? at hchain
  have hsource := List.find?_some hchain
  rw [chain?_put]
  exact if_pos (beq_iff_eq.1 hsource).symm

/-- **A timeout is kept to the millisecond as long as it is below the largest signed number.**  On a
main or retry node and after a failure that is not fatal, the record goes to the terminal node once
the timeout has lapsed, and where it would go without the timeout before.  This is what the timeout
says, unless the two places differ and the timeout is `2 ^ 63 - 1` and never found to be up, or
longer and found to be up too soon. -/
theorem timeout_exact_below_signed_maximum (hchain : registry.chain? source = some chain)
    (hnode : chain.get? current = some node) (hrole : node.role.isTerminal = false)
    (hterminal : chain.terminal? = some terminal) (htimeout : chain.policy.timeout = some timeout)
    (hretryable : chain.policy.classifier.isFatal f = false) (attempt : UInt32)
    (first now : Int64) :
    ∃ untimed, (registry.put chain.untimed).resolve source current attempt f (some first) now
        = untimed
      ∧ registry.resolve source current attempt f (some first) now
        = (if Lapsed timeout first now then .ok terminal else untimed)
      ∧ (registry.resolve source current attempt f (some first) now
          = (if (timeout.toNat : Int) < now.toInt - first.toInt then .ok terminal else untimed)
        ↔ untimed = .ok terminal ∨ timeout.toNat < 9223372036854775807
          ∨ (timeout.toNat = 9223372036854775807 ∧ now.toInt - first.toInt ≤ timeout.toNat)
          ∨ (9223372036854775807 < timeout.toNat
            ∧ (now.toInt - first.toInt ≤ timeout.toNat - 18446744073709551616
              ∨ (timeout.toNat : Int) < now.toInt - first.toInt))) := by
  obtain ⟨p, hplace, hat⟩ := Option.bind_eq_some_iff.1 hnode
  have huntimed := Registry.resolve_of_place (Registry.chain?_put_untimed hchain) hplace hat hrole
    attempt f (some first) now
  have htimed : registry.resolve source current attempt f (some first) now
      = if Lapsed timeout first now then .ok terminal
        else (registry.put chain.untimed).resolve source current attempt f (some first) now := by
    rw [Registry.resolve_of_place hchain hplace hat hrole, Chain.next?_timed htimeout hretryable,
      huntimed]
    by_cases hlapsed : Lapsed timeout first now
    · rw [if_pos ((timedOut_iff_lapsed timeout first now).2 hlapsed), if_pos hlapsed, hterminal]
    · rw [if_neg (fun h => hlapsed ((timedOut_iff_lapsed timeout first now).1 h)), if_neg hlapsed]
  refine ⟨_, rfl, htimed, ?_⟩
  rw [htimed, ite_eq_ite_iff, lapsed_exact_iff]

end Timed

namespace Orders

/-- A chain whose records are to be retried for as long as a timeout can say. -/
def lasting : Registry :=
  (Planning.run [.process 0 "orders" (Level.forChain [1000] 1 true true) {}
    { timeout := some 18446744073709551615 }, .register 0]).registry

/-- The chain. -/
def lastingChain : Chain := (lasting.chain? "orders").getD default

/-- The main node of the chain. -/
def lastingMain : Destination := (lastingChain.destinations[0]?).getD default

/-- Its terminal node. -/
def lastingEnd : Destination := (lastingChain.destinations[2]?).getD default

/-- A failure that is not fatal. -/
def lastingFailure : Failure := { kind := "IoError", message := "down" }

end Orders

open Orders in
/-- With the longest timeout a record goes to the dead letters at the moment of its first failure,
though there is a retry node to go to. -/
theorem timeout_exact_below_signed_maximum_of_longest :
    lasting.resolve "orders" "orders" 1 lastingFailure (some 0) 0 = .ok lastingEnd
      ∧ (lasting.put lastingChain.untimed).resolve "orders" "orders" 1 lastingFailure (some 0) 0
        ≠ .ok lastingEnd := by
  have hchain : lasting.chain? "orders" = some lastingChain := by decide +kernel
  have hnode : lastingChain.get? "orders" = some lastingMain := by decide +kernel
  have hterminal : lastingChain.terminal? = some lastingEnd := by decide +kernel
  have htimeout : lastingChain.policy.timeout = some 18446744073709551615 := by decide +kernel
  have hretryable : lastingChain.policy.classifier.isFatal lastingFailure = false := by
    decide +kernel
  obtain ⟨_, _, hanswer, _⟩ := timeout_exact_below_signed_maximum hchain hnode
    (by decide +kernel) hterminal htimeout hretryable 1 0 0
  have hlapsed : Lapsed 18446744073709551615 0 0 := by decide
  rw [if_pos hlapsed] at hanswer
  exact ⟨hanswer, by decide +kernel⟩

end Redelivery
