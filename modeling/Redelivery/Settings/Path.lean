/-
  Redelivery.Settings.Path
  ────────────────────────
  **Keys that lead into a document.**

  A key at the top of a layer may lead further down: a name, and then names
  after points and positions between brackets, such as
  `retry_topics[0].blocking.attempts`.  A key that is not of this form is
  taken as a name, whatever it is.
-/
import Redelivery.Document.Reader
import Redelivery.Settings.Coercion
import Redelivery.Text.SmallLetters

namespace Redelivery

/-- One step into a document. -/
inductive Step where
  /-- To the value of a key. -/
  | key (name : String)
  /-- To an item of a list, counted from its front, or from its end if negative. -/
  | item (position : Int)
  deriving DecidableEq, Repr

namespace Step

/-! ## §1. Reading the steps of a key. -/

/-- Whether a character can be in the name of a step. -/
def isNameChar (c : Char) : Bool := c.isAlphanum || c = ' ' || c = '_' || c = '-'

/-- Whether a character can stand between a position and its brackets. -/
def isGap (c : Char) : Bool := c = ' ' || c = '\t'

/-- Whether a step begins with a character that follows another one. -/
def begins (c : Char) : Bool := c = '.' || c = '['

/-- A step to a key. -/
def named? (cs : List Char) : Option Step :=
  if !cs.isEmpty && cs.all isNameChar then some (.key (String.ofList cs)) else none

/-- A whole number in 64 bits with its minus, if it has one. -/
def position? (cs : List Char) : Option Int :=
  if cs.head? = some '+' then none else (Coercion.whole? (String.ofList cs)).filter Coercion.fits

/-- A step to an item, after its opening bracket. -/
def item? (cs : List Char) : Option Step :=
  let cs := cs.dropWhile isGap
  let written := cs.takeWhile fun c => !isGap c && c != ']'
  if (cs.drop written.length).dropWhile isGap = [']'] then (position? written).map .item else none

/-- A step that is not the first. -/
def further? : List Char → Option Step
  | '.' :: rest => named? rest
  | '[' :: rest => item? rest
  | _ => none

/-- The steps of a key of the usual form. -/
def steps? (key : String) : Option (List Step) :=
  match key.toList.splitBy fun _ next => !begins next with
  | first :: rest => do return (← named? first) :: (← rest.mapM further?)
  | [] => none

/-- The steps that a key stands for. -/
def ofKey (key : String) : List Step := (steps? key).getD [.key key]

end Step

/-! ## §2. Where an item is. -/

namespace Document

/-- The index of a position in a list of a length; a position before the first item is the first. -/
def index (position : Int) (length : Nat) : Nat :=
  if 0 ≤ position then position.toNat else length - position.natAbs

/-- A list with an item set; the items that are missing before it are null. -/
def setItem (items : List Document) (i : Nat) (value : Document) : List Document :=
  (items ++ List.replicate (i + 1 - items.length) Document.null).set i value

end Document

end Redelivery
