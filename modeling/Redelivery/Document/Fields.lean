/-
  Redelivery.Document.Fields
  ──────────────────────────
  **Reading domain values out of documents.**

  A `Reading` says what counts as a text, a truth value, a whole number or
  the name of a choice.  The readers of this library are written once, over
  any reading: `exact` takes nothing but the form asked for; a forgiving
  reading is given where settings are loaded.

  A structure is a map of its fields, or the list of their values in order.
  A field that is missing has its default.
-/
import Redelivery.Document.Basic

namespace Redelivery

/-- What counts as a value of each simple kind. -/
structure Reading where
  text? : Document → Option String
  bool? : Document → Option Bool
  /-- A whole number, where a sign is allowed. -/
  int? : Document → Option Int
  /-- A whole number, where no sign is allowed. -/
  nat? : Document → Option Nat
  /-- The name of a choice. -/
  name? : Document → Option String
  /-- Whether two names stand for the same choice. -/
  sameName : String → String → Bool
  /-- Whether a structure written as a list may have more values than fields. -/
  surplus : Bool

namespace Reading

/-- Nothing but the form asked for.  A choice is its name, or a map from its name to null. -/
def exact : Reading where
  text? | .text s => some s
        | _ => none
  bool? | .bool b => some b
        | _ => none
  int? | .int i => some i
       | _ => none
  nat? | .int i => if 0 ≤ i then some i.toNat else none
       | _ => none
  name? | .text s => some s
        | .map [(s, .null)] => some s
        | _ => none
  sameName a b := a == b
  surplus := false

/-! ## §1. Single values. -/

/-- A whole number within bounds. -/
def intWithin? (r : Reading) (low high : Int) (d : Document) : Option Int :=
  (r.int? d).filter fun i => low ≤ i && i ≤ high

/-- A whole number up to a bound. -/
def natUpTo? (r : Reading) (high : Nat) (d : Document) : Option Nat :=
  (r.nat? d).filter fun n => n ≤ high

/-- A whole number of 32 bits. -/
def uint32? (r : Reading) (d : Document) : Option UInt32 :=
  (r.natUpTo? 4294967295 d).map UInt32.ofNat

/-- A whole number of 64 bits. -/
def uint64? (r : Reading) (d : Document) : Option UInt64 :=
  (r.natUpTo? 18446744073709551615 d).map UInt64.ofNat

/-- A signed whole number of 32 bits. -/
def int32? (r : Reading) (d : Document) : Option Int32 :=
  (r.intWithin? (-2147483648) 2147483647 d).map Int32.ofInt

/-- A signed whole number of 16 bits. -/
def int16? (r : Reading) (d : Document) : Option Int16 :=
  (r.intWithin? (-32768) 32767 d).map Int16.ofInt

/-- One of a table of names. -/
def choice? {α : Type} (r : Reading) (table : List (String × α)) (d : Document) : Option α := do
  let name ← r.name? d
  (table.find? fun e => r.sameName e.1 name).map Prod.snd

/-! ## §2. Lists, fields, structures. -/

/-- A list, each item by the same reader. -/
def list? {α : Type} (read : Document → Option α) : Document → Option (List α)
  | .list items => items.mapM read
  | _ => none

/-- A list of texts. -/
def texts? (r : Reading) : Document → Option (List String) := list? r.text?

/-- A value that may be null. -/
def nullable {α : Type} (read : Document → Option α) : Document → Option (Option α)
  | .null => some none
  | d => (read d).map some

/-- A field of a structure; its default if it is missing. -/
def field {α : Type} (entries : List (String × Document)) (key : String) (default : α)
    (read : Document → Option α) : Option α :=
  match entries.lookup key with
  | some d => read d
  | none => some default

/-- A field that must be there. -/
def need {α : Type} (entries : List (String × Document)) (key : String)
    (read : Document → Option α) : Option α :=
  (entries.lookup key).bind read

/-- The entries of a structure with the given field names. -/
def entries? (r : Reading) (names : List String) : Document → Option (List (String × Document))
  | .map entries => some entries
  | .list items =>
      if r.surplus || items.length ≤ names.length then some (names.zip items) else none
  | _ => none

end Reading

end Redelivery
