/-
  Redelivery.Document.Reader
  ──────────────────────────
  **Reading a document from text.**

  The notation is the usual one with brackets, braces and quoted keys.  Each
  reading function takes the characters that are left and gives a value with
  what is left after it.  Nesting is bounded by the length of the text, which
  is the fuel.
-/
import Redelivery.Document.Basic
import Redelivery.Bytes

namespace Redelivery.Document

/-! ## §1. Blanks, words and numbers. -/

/-- Drop blanks. -/
def skipBlank : List Char → List Char
  | c :: rest => if c = ' ' ∨ c = '\n' ∨ c = '\t' ∨ c = '\r' then skipBlank rest else c :: rest
  | [] => []

/-- Take a fixed word off the front. -/
def word? (w : String) (cs : List Char) : Option (List Char) :=
  if w.toList.isPrefixOf cs then some (cs.drop w.length) else none

/-- The number that a run of decimal digits spells. -/
def decimal (digits : List Char) : Nat :=
  digits.foldl (fun n c => n * 10 + (c.toNat - '0'.toNat)) 0

/-- Split off a sign; true for a minus. -/
def sign : List Char → Bool × List Char
  | '-' :: rest => (true, rest)
  | '+' :: rest => (false, rest)
  | rest => (false, rest)

/-- A double from its sign, its decimal digits and its exponent, rounded to nearest.  Beyond the
bounds that the exponent is held within, the result is infinite or zero anyway. -/
def double (negative : Bool) (digits : List Char) (exponent : Int) : Float :=
  let m := decimal digits
  let x := if exponent < 0 then Float.ofScientific m true (min (-exponent).toNat (digits.length + 400))
    else Float.ofScientific m false (min exponent.toNat 400)
  if negative then -x else x

/-- Below this a whole number becomes a double. -/
def smallestInt : Int := -0x8000000000000000

/-- Beyond this a whole number becomes a double. -/
def largestInt : Int := 0xFFFFFFFFFFFFFFFF

/-- An exponent part: `e`, a sign, at least one digit. -/
def exponent? (cs : List Char) : Option (Int × List Char) :=
  let (negative, cs) := sign cs
  let digits := cs.takeWhile Char.isDigit
  if digits.isEmpty then none
  else
    let n : Int := decimal digits
    some (if negative then -n else n, cs.dropWhile Char.isDigit)

/-- A number: sign, digits, an optional fraction, an optional exponent. -/
def number? (cs : List Char) : Option (Document × List Char) := do
  let (negative, cs) := match cs with
    | '-' :: rest => (true, rest)
    | rest => (false, rest)
  let whole := cs.takeWhile Char.isDigit
  let cs := cs.dropWhile Char.isDigit
  -- A zero in front of other digits is refused.
  if whole.isEmpty || (whole.length > 1 && whole.head? == some '0') then none
  let (fraction, cs) ← match cs with
    | '.' :: rest =>
        let digits := rest.takeWhile Char.isDigit
        if digits.isEmpty then none else some (some digits, rest.dropWhile Char.isDigit)
    | rest => some (none, rest)
  let (exponent, cs) ← match cs with
    | 'e' :: rest | 'E' :: rest => (exponent? rest).map fun (e, rest) => (some e, rest)
    | rest => some (none, rest)
  match fraction, exponent with
  | none, none =>
      let n : Int := decimal whole
      let n := if negative then -n else n
      -- Minus zero is a double: no whole number keeps its sign.
      if smallestInt ≤ n ∧ n ≤ largestInt ∧ ¬(negative ∧ n = 0) then return (.int n, cs)
      else return (.float (double negative whole 0), cs)
  | _, _ =>
      let digits := whole ++ fraction.getD []
      -- The point is moved behind the last digit, at the cost of the exponent.
      let shift : Int := exponent.getD 0 - (fraction.getD []).length
      return (.float (double negative digits shift), cs)

/-! ## §2. Quoted text. -/

/-- Four hexadecimal digits. -/
def hex4? : List Char → Option (Nat × List Char)
  | a :: b :: c :: d :: rest => do
      let a ← Bytes.hexValue? a
      let b ← Bytes.hexValue? b
      let c ← Bytes.hexValue? c
      let d ← Bytes.hexValue? d
      return (((a * 16 + b) * 16 + c) * 16 + d, rest)
  | _ => none

/-- The character that a short escape stands for. -/
def shortEscape? : Char → Option Char
  | '"' => some '"'
  | '\\' => some '\\'
  | '/' => some '/'
  | 'b' => some '\x08'
  | 'f' => some '\x0c'
  | 'n' => some '\n'
  | 'r' => some '\r'
  | 't' => some '\t'
  | _ => none

/-- One character after `\u`; a high half must be followed by its low half. -/
def unicodeEscape? (cs : List Char) : Option (Char × List Char) := do
  let (hi, rest) ← hex4? cs
  if 0xD800 ≤ hi ∧ hi < 0xDC00 then
    match rest with
    | '\\' :: 'u' :: rest => do
        let (lo, rest) ← hex4? rest
        if 0xDC00 ≤ lo ∧ lo < 0xE000 then
          return (Char.ofNat (0x10000 + (hi - 0xD800) * 0x400 + (lo - 0xDC00)), rest)
        else none
    | _ => none
  else if 0xDC00 ≤ hi ∧ hi < 0xE000 then none
  else return (Char.ofNat hi, rest)

/-- A text after its opening quote, with the characters read so far in reverse. -/
def quoted? : (fuel : Nat) → List Char → List Char → Option (String × List Char)
  | 0, _, _ => none
  | _ + 1, _, [] => none
  | fuel + 1, acc, c :: rest =>
      if c = '"' then some (String.ofList acc.reverse, rest)
      else if c = '\\' then
        match rest with
        | 'u' :: rest => do
            let (c, rest) ← unicodeEscape? rest
            quoted? fuel (c :: acc) rest
        | c :: rest => do
            let c ← shortEscape? c
            quoted? fuel (c :: acc) rest
        | [] => none
      else if c.toNat < 0x20 then none
      else quoted? fuel (c :: acc) rest

/-! ## §3. Values. -/

mutual

/-- One value, with what follows it. -/
def value? : (fuel : Nat) → List Char → Option (Document × List Char)
  | 0, _ => none
  | fuel + 1, cs =>
      match skipBlank cs with
      | '"' :: rest => (quoted? (rest.length + 1) [] rest).map fun (s, rest) => (.text s, rest)
      | '[' :: rest =>
          match skipBlank rest with
          | ']' :: rest => some (.list [], rest)
          | rest => items? fuel [] rest
      | '\x7b' :: rest =>
          match skipBlank rest with
          | '\x7d' :: rest => some (.map [], rest)
          | rest => members? fuel [] rest
      -- The first letter decides; the rest of the word must follow.
      | 'n' :: rest => (word? "ull" rest).map fun rest => (.null, rest)
      | 't' :: rest => (word? "rue" rest).map fun rest => (.bool true, rest)
      | 'f' :: rest => (word? "alse" rest).map fun rest => (.bool false, rest)
      | rest => number? rest

/-- The items of a list up to its closing bracket. -/
def items? : (fuel : Nat) → List Document → List Char → Option (Document × List Char)
  | 0, _, _ => none
  | fuel + 1, acc, cs => do
      let (v, rest) ← value? fuel cs
      match skipBlank rest with
      | ',' :: rest => items? fuel (v :: acc) rest
      | ']' :: rest => some (.list (v :: acc).reverse, rest)
      | _ => none

/-- The entries of a map up to its closing brace; a key given twice keeps its last value. -/
def members? : (fuel : Nat) → List (String × Document) → List Char → Option (Document × List Char)
  | 0, _, _ => none
  | fuel + 1, acc, cs =>
      match skipBlank cs with
      | '"' :: rest => do
          let (key, rest) ← quoted? (rest.length + 1) [] rest
          match skipBlank rest with
          | ':' :: rest => do
              let (v, rest) ← value? fuel rest
              let acc := setEntry acc key v
              match skipBlank rest with
              | ',' :: rest => members? fuel acc rest
              | '\x7d' :: rest => some (.map acc, rest)
              | _ => none
          | _ => none
      | _ => none

end

/-- The document that a text spells, with nothing but blanks around it. -/
def parse? (s : String) : Option Document := do
  let cs := s.toList
  let (d, rest) ← value? (2 * cs.length + 2) cs
  if (skipBlank rest).isEmpty then return d else none

end Redelivery.Document
