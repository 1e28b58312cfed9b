/-
  Redelivery.Settings.Layers
  ──────────────────────────
  **Laying documents over one another.**

  A layer is a list of keys with values, and each key leads to a place in the
  document below.  Maps are laid over each other key by key; anything else
  takes the place of what was there.  Keys of maps are taken in small letters.
  What is inside a list that is laid over is left as it is.
-/
import Redelivery.Settings.Path

namespace Redelivery.Document

/-- The entries of a map; none for anything else. -/
def entriesOf : Document → List (String × Document)
  | .map entries => entries
  | _ => []

mutual

/-- The entries after a value was laid over the one of its key. -/
def place (entries : List (String × Document)) (key : String) : Document → List (String × Document)
  | .map upper =>
      let key := Text.lower key
      setEntry entries key (lay ((entries.lookup key).getD (.map [])) upper)
  | upper => setEntry entries (Text.lower key) upper

/-- A document after entries were laid over it; without any entry it stays as it is. -/
def lay (under : Document) : List (String × Document) → Document
  | [] => under
  | (key, upper) :: rest => lay (.map (place under.entriesOf key upper)) rest

end

/-- The items of a list; none for anything else. -/
def itemsOf : Document → List Document
  | .list items => items
  | _ => []

/-- A document after a value was laid over the place to which steps lead.  What is missing on the
way is made, and what is no map or list where one is needed gives way.  An item is replaced as a
whole. -/
def layAt : List Step → Document → Document → Document
  | [], value, _ => value
  | [.key name], value, d => .map (place d.entriesOf name value)
  | .key name :: rest, value, d =>
      let name := Text.lower name
      .map (setEntry d.entriesOf name (layAt rest value ((d.entriesOf.lookup name).getD .null)))
  | .item position :: rest, value, d =>
      let i := index position d.itemsOf.length
      .list (setItem d.itemsOf i (layAt rest value (d.itemsOf[i]?.getD .null)))

/-- A document after a layer was laid over it. -/
def layLayer (under : Document) (layer : List (String × Document)) : Document :=
  layer.foldl (fun d (key, value) => layAt (Step.ofKey key) value d) under

mutual

/-- Whole numbers that do not fit into 64 bits with a sign become doubles. -/
def fitted : Document → Document
  | .int i =>
      if Coercion.fits i then .int i
      else
        let x := (UInt64.ofNat i.natAbs).toFloat
        .float (if i < 0 then -x else x)
  | .list items => .list (fittedItems items)
  | .map entries => .map (fittedEntries entries)
  | d => d

/-- The same for each item of a list. -/
def fittedItems : List Document → List Document
  | [] => []
  | d :: rest => d.fitted :: fittedItems rest

/-- The same for each entry of a map. -/
def fittedEntries : List (String × Document) → List (String × Document)
  | [] => []
  | (key, d) :: rest => (key, d.fitted) :: fittedEntries rest

end

end Redelivery.Document
