/-
  Redelivery.Document.Basic
  ─────────────────────────
  **Structured documents.**

  The data of a settings file: nothing, truth values, whole and fractional
  numbers, texts, lists, and maps in the order in which they were written.
  A number keeps the form it was written in, so `2` and `2.0` differ.
-/

namespace Redelivery

/-- A structured document. -/
inductive Document where
  | null
  | bool (b : Bool)
  /-- A number written without a point or an exponent. -/
  | int (i : Int)
  | float (x : Float)
  | text (s : String)
  | list (items : List Document)
  /-- Keys with their values, in order, each key once. -/
  | map (entries : List (String × Document))
  deriving Inhabited

namespace Document

/-- The value of a key of a map. -/
def get? (d : Document) (key : String) : Option Document :=
  match d with
  | .map entries => entries.lookup key
  | _ => none

/-- Set a key of an entry list: in its place if it is there, else at the end. -/
def setEntry (entries : List (String × Document)) (key : String) (value : Document) :
    List (String × Document) :=
  if entries.any (·.1 == key) then
    entries.map fun e => if e.1 == key then (key, value) else e
  else entries ++ [(key, value)]

end Document

end Redelivery
