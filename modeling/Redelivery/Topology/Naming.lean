/-
  Redelivery.Topology.Naming
  ──────────────────────────
  **How the topics of a chain are named.**

  The name of a node is the source topic followed by a suffix, and the
  suffixes depend on the delays and the naming alone.  A single retry node
  has the plain retry suffix; several are told apart by their index or by
  their delay, and nodes of one delay by a count as well.
-/

namespace Redelivery

/-- How several retry topics of a chain are told apart. -/
inductive Suffixing where
  | index
  | delay
  deriving DecidableEq, Repr, Inhabited

/-- Whether neighbouring retry levels of one delay share a topic. -/
inductive TopicReuse where
  | single
  | multiple
  deriving DecidableEq, Repr, Inhabited

/-- The name of each way to tell topics apart. -/
def Suffixing.names : List (String × Suffixing) := [("index", .index), ("delay", .delay)]

/-- The name of each way to share topics. -/
def TopicReuse.names : List (String × TopicReuse) :=
  [("SINGLE_TOPIC", .single), ("MULTIPLE_TOPICS", .multiple)]

/-- How names are derived from the source topic. -/
structure Naming where
  retrySuffix : String := "-retry"
  deadLetterSuffix : String := "-dlt"
  suffixing : Suffixing := .index
  reuse : TopicReuse := .multiple
  deriving DecidableEq, Repr, Inhabited

namespace Naming

/-- What follows the name of a terminal node without a topic. -/
def noOpsSuffix : String := "-noops"

/-- A tag for each delay: the delay, and how often it came before if it comes more than once. -/
def delayTags (delays : List UInt64) : List String := go [] delays
where
  go (before : List UInt64) : List UInt64 → List String
    | [] => []
    | d :: rest =>
        -- `delays` are all of them, `before` those passed: the first of a repeated delay counts 0.
        let tag := if delays.count d > 1 then
            "-" ++ toString d.toNat ++ "-" ++ toString (before.count d)
          else "-" ++ toString d.toNat
        tag :: go (d :: before) rest

/-- A tag for each retry node, given their delays; none for a single node. -/
def tags (n : Naming) (delays : List UInt64) : List String :=
  match delays, n.suffixing with
  | [_], _ => [""]
  | _, .index => (List.range delays.length).map fun i => "-" ++ toString i
  | _, .delay => delayTags delays

/-- The suffix of each retry node, given their delays. -/
def retrySuffixes (n : Naming) (delays : List UInt64) : List String :=
  (n.tags delays).map (n.retrySuffix ++ ·)

end Naming

end Redelivery
