/-
  Redelivery.Document.Writer
  ──────────────────────────
  **Writing a document on one line, without blanks.**

  The functions at the end make documents out of single values.
-/
import Redelivery.Document.Basic
import Redelivery.Decimal.Shortest

namespace Redelivery.Document

/-- A character inside a quoted text. -/
def escaped (c : Char) : List Char :=
  if c = '"' then ['\\', '"']
  else if c = '\\' then ['\\', '\\']
  else if c.toNat < 0x20 then
    ['\\', 'u', '0', '0', Nat.digitChar (c.toNat / 16), Nat.digitChar (c.toNat % 16)]
  else [c]

/-- A text in quotes. -/
def quote (s : String) : String :=
  String.ofList ('"' :: s.toList.flatMap escaped ++ ['"'])

/-- A number that is not whole by its form: it is written with a point. -/
def fraction (x : Float) : String :=
  let s := Decimal.positional x
  -- Without a point it would be read back as a whole number.
  if s.all fun c => c.isDigit || c == '-' then s ++ ".0" else s

mutual

/-- A document on one line. -/
def render : Document → String
  | .null => "null"
  | .bool b => if b then "true" else "false"
  | .int i => toString i
  | .float x => fraction x
  | .text s => quote s
  | .list items => "[" ++ ",".intercalate (renderItems items) ++ "]"
  | .map entries => "\x7b" ++ ",".intercalate (renderEntries entries) ++ "\x7d"

/-- Each item of a list on one line. -/
def renderItems : List Document → List String
  | [] => []
  | d :: rest => d.render :: renderItems rest

/-- Each entry of a map on one line. -/
def renderEntries : List (String × Document) → List String
  | [] => []
  | (key, d) :: rest => (quote key ++ ":" ++ d.render) :: renderEntries rest

end

/-! ## Values of the usual kinds. -/

/-- A whole number of 64 bits. -/
def ofUInt64 (n : UInt64) : Document := .int n.toNat

/-- A whole number of 32 bits. -/
def ofUInt32 (n : UInt32) : Document := .int n.toNat

/-- A list of texts. -/
def ofTexts (l : List String) : Document := .list (l.map .text)

/-- A value that may be unset. -/
def ofOption {α : Type} (write : α → Document) : Option α → Document
  | some a => write a
  | none => .null

/-- The name of a choice. -/
def ofChoice {α : Type} [BEq α] (table : List (String × α)) (a : α) : Document :=
  .ofOption .text ((table.find? fun e => e.2 == a).map Prod.fst)

end Redelivery.Document
