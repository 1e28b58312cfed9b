/-
  Redelivery.Settings.Coercion
  ────────────────────────────
  **The forgiving reading.**

  Settings are gathered from files and from variables, and a variable is
  always a text.  So a text may stand for a number or a truth value, and a
  number or a truth value for a text, where that is what a field asks for.
  Only null stands for nothing but itself.
-/
import Redelivery.Document.Fields
import Redelivery.Document.Reader
import Redelivery.Decimal.Shortest
import Redelivery.Text.SmallLetters

namespace Redelivery.Coercion

/-! ## §1. What a text stands for. -/

/-- The words for yes and for no. -/
def yesNo? (s : String) : Option Bool :=
  match Text.lower s with
  | "true" | "on" | "yes" => some true
  | "false" | "off" | "no" => some false
  | _ => none

/-- A whole number: decimal digits, perhaps after a sign. -/
def whole? (s : String) : Option Int :=
  let (negative, digits) := Document.sign s.toList
  if digits.isEmpty || !digits.all Char.isDigit then none
  else
    let n : Int := Document.decimal digits
    some (if negative then -n else n)

/-- The double of given digits on both sides of a point, before what may be an exponent. -/
def scaled? (negative : Bool) (before after : List Char) : List Char → Option Float
  | [] => some (Document.double negative (before ++ after) (-after.length))
  | 'e' :: rest | 'E' :: rest =>
      match Document.exponent? rest with
      | some (e, []) => some (Document.double negative (before ++ after) (e - after.length))
      | _ => none
  | _ => none

/-- A number: a sign, digits with a point, an exponent, of which all but one digit may be missing;
or a word for what is not finite. -/
def number? (s : String) : Option Float :=
  let (negative, cs) := Document.sign s.toList
  match Text.lower (String.ofList cs) with
  | "inf" | "infinity" => some (if negative then -1.0 / 0.0 else 1.0 / 0.0)
  | "nan" => some (0.0 / 0.0)
  | _ =>
      let before := cs.takeWhile Char.isDigit
      let (after, rest) := match cs.dropWhile Char.isDigit with
        | '.' :: rest => (rest.takeWhile Char.isDigit, rest.dropWhile Char.isDigit)
        | rest => ([], rest)
      if before.isEmpty && after.isEmpty then none else scaled? negative before after rest

/-- Whether a number fits into 64 bits with a sign. -/
def fits (i : Int) : Bool := -0x8000000000000000 ≤ i && i < 0x8000000000000000

/-- What the text of a variable stands for: a truth value, a whole number, a number, or itself. -/
def ofVariable (s : String) : Document :=
  match Text.lower s with
  | "true" => .bool true
  | "false" => .bool false
  | _ =>
      match (whole? s).filter fits, number? s with
      | some i, _ => .int i
      -- Also a whole number that does not fit.
      | none, some x => .float x
      | none, none => .text s

/-! ## §2. What a value stands for. -/

/-- A text, or the usual form of a number or a truth value. -/
def text? : Document → Option String
  | .text s => some s
  | .bool b => some (if b then "true" else "false")
  | .int i => some (toString i)
  | .float x => some (Decimal.positional x)
  | _ => none

/-- A truth value, a number that is zero or not, or a word or digit for yes or no. -/
def bool? : Document → Option Bool
  | .bool b => some b
  | .int i => some (i != 0)
  | .float x => some (x != 0)
  | .text "1" => some true
  | .text "0" => some false
  | .text s => yesNo? s
  | _ => none

/-- A whole number; a fraction is rounded, a half away from zero, and held within 64 bits. -/
def int? : Document → Option Int
  | .int i => some i
  | .bool b => some (if b then 1 else 0)
  | .float x => some x.round.toInt64.toInt
  | .text s =>
      match yesNo? s with
      | some b => some (if b then 1 else 0)
      | none => whole? s
  | _ => none

/-- A whole number without a sign; a fraction below zero counts as zero. -/
def nat? : Document → Option Nat
  | .int i => if 0 ≤ i then some i.toNat else none
  | .bool b => some (if b then 1 else 0)
  | .float x => some x.round.toUInt64.toNat
  | .text s =>
      match yesNo? s with
      | some b => some (if b then 1 else 0)
      | none => if s.toList.head? = some '-' then none else (whole? s).map Int.toNat
  | _ => none

/-- A text, or the one key of a map. -/
def name? : Document → Option String
  | .text s => some s
  | .map [(s, _)] => some s
  | _ => none

end Redelivery.Coercion

namespace Redelivery

/-- Whatever can be taken for the form asked for; names are the same in any case. -/
def Reading.forgiving : Reading where
  text? := Coercion.text?
  bool? := Coercion.bool?
  int? := Coercion.int?
  nat? := Coercion.nat?
  name? := Coercion.name?
  sameName a b := Text.lower a == Text.lower b
  surplus := true

end Redelivery
