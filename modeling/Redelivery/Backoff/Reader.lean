/-
  Redelivery.Backoff.Reader
  ─────────────────────────
  **Reading a backoff from a document.**

  The field `type` names the kind of backoff; every field of that kind must
  be there, in exactly its form.  Fields of no meaning are passed over.
-/
import Redelivery.Backoff.Basic
import Redelivery.Document.Fields

namespace Redelivery.Backoff

/-- A multiplier may be written as a whole number. -/
def multiplier? : Document → Option Float
  | .float x => some x
  | .int i =>
      let x := (UInt64.ofNat i.natAbs).toFloat
      some (if i < 0 then -x else x)
  | _ => none

/-- The fields of each kind of backoff, in order. -/
def fieldNames : String → List String
  | "fixed" => ["delay_ms"]
  | "uniform_random" => ["min_ms", "max_ms"]
  | "exponential" | "exponential_random" => ["initial_ms", "multiplier", "max_ms"]
  | "explicit" => ["delays_ms"]
  | _ => []

/-- The backoff that a document describes. -/
def ofDocument? (d : Document) : Option Backoff := do
  let (kind, entries) ← match d with
    | .map entries =>
        match entries.lookup "type" with
        | some (.text kind) => some (kind, entries)
        | _ => none
    | .list (.text kind :: values) =>
        if values.length ≤ (fieldNames kind).length then some (kind, (fieldNames kind).zip values)
        else none
    | _ => none
  let number (key : String) := Reading.need entries key Reading.exact.uint64?
  match kind with
  | "fixed" => return .fixed (← number "delay_ms")
  | "uniform_random" => return .uniformRandom (← number "min_ms") (← number "max_ms")
  | "exponential" =>
      return .exponential (← number "initial_ms") (← Reading.need entries "multiplier" multiplier?)
        (← number "max_ms")
  | "exponential_random" =>
      return .exponentialRandom (← number "initial_ms")
        (← Reading.need entries "multiplier" multiplier?) (← number "max_ms")
  | "explicit" =>
      return .explicit (← Reading.need entries "delays_ms" (Reading.list? Reading.exact.uint64?))
  | _ => none

end Redelivery.Backoff
