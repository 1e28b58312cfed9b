/-
  Redelivery.Classification.Classifier
  ────────────────────────────────────
  **Which failures are worth another delivery.**

  A classifier keeps three sets of kinds: those fatal from the start, those
  that were declared fatal, and those that were declared retryable.  A kind
  is judged by the nearest member of its lineage that is in one of the sets;
  at one member the retryable set wins.  A kind without a judgement is
  retryable, or fatal once the kinds to retry on have been listed.  With
  causes traversed, the first judged incident of a failure decides.
-/
import Redelivery.Classification.Hierarchy
import Redelivery.Failure

namespace Redelivery

/-- Kinds that are fatal unless declared otherwise. -/
def defaultFatalKinds : List String :=
  ["DeserializationError", "MessageConversionError", "ConversionError",
    "ArgumentResolutionError", "NoSuchHandlerError", "TypeMismatchError"]

/-- The relations between the kinds above. -/
def Hierarchy.default : Hierarchy := Hierarchy.declare {} "MessageConversionError" "ConversionError"

/-- Judges failures by their kinds. -/
structure Classifier where
  hierarchy : Hierarchy := Hierarchy.default
  defaultFatal : List String := defaultFatalKinds
  userFatal : List String := []
  userRetryable : List String := []
  traversingCauses : Bool := false
  /-- Whether a kind without a judgement is retryable. -/
  retryableByDefault : Bool := true
  deriving DecidableEq, Repr, Inhabited

namespace Classifier

/-! ## §1. Amendments. -/

/-- Take a kind out of a set. -/
def without (kind : String) (kinds : List String) : List String := kinds.filter (· != kind)

/-- Put a kind into a set. -/
def withKind (kind : String) (kinds : List String) : List String :=
  if kinds.contains kind then kinds else kinds ++ [kind]

/-- Declare one kind fatal. -/
def declareFatal (c : Classifier) (kind : String) : Classifier :=
  { c with userRetryable := without kind c.userRetryable, userFatal := withKind kind c.userFatal }

/-- Declare one kind retryable. -/
def declareRetryable (c : Classifier) (kind : String) : Classifier :=
  { c with userFatal := without kind c.userFatal, userRetryable := withKind kind c.userRetryable }

/-- Declare the kinds fatal, with their descendants. -/
def addNotRetryable (c : Classifier) (kinds : List String) : Classifier :=
  kinds.foldl declareFatal c

/-- Declare the kinds retryable, with their descendants. -/
def addRetryable (c : Classifier) (kinds : List String) : Classifier :=
  kinds.foldl declareRetryable c

/-- Retry on the kinds listed; whatever has no judgement becomes fatal. -/
def retryOnly (c : Classifier) (kinds : List String) : Classifier :=
  { c with retryableByDefault := false }.addRetryable kinds

/-- Whether the kind itself is in one of the sets. -/
def isClassified (c : Classifier) (kind : String) : Bool :=
  c.defaultFatal.contains kind || c.userFatal.contains kind || c.userRetryable.contains kind

/-- Take the kind out of every set; tells whether it was in one. -/
def removeClassification (c : Classifier) (kind : String) : Bool × Classifier :=
  (c.isClassified kind,
    { c with
      defaultFatal := without kind c.defaultFatal
      userFatal := without kind c.userFatal
      userRetryable := without kind c.userRetryable })

/-! ## §2. Judgements. -/

/-- The judgement about the kind itself: fatal, retryable, or none. -/
def own? (c : Classifier) (kind : String) : Option Bool :=
  -- First the retryable set, so that a kind can be taken back from the built-in fatal ones.
  if c.userRetryable.contains kind then some false
  else if c.userFatal.contains kind || c.defaultFatal.contains kind then some true
  else none

/-- The judgement about a kind: that of the nearest judged member of its lineage. -/
def classify? (c : Classifier) (kind : String) : Option Bool :=
  (c.hierarchy.lineage kind).findSome? c.own?

/-- Whether a kind is fatal, by judgement or by default. -/
def isFatalKind (c : Classifier) (kind : String) : Bool :=
  (c.classify? kind).getD !c.retryableByDefault

/-- Whether a failure is fatal; its causes count only if they are traversed. -/
def isFatal (c : Classifier) (f : Failure) : Bool :=
  -- The default is for the whole failure: an unjudged link leaves the word to the next.
  let judged := if c.traversingCauses then f.chain.findSome? fun i => c.classify? i.kind
    else c.classify? f.kind
  judged.getD !c.retryableByDefault

end Classifier

end Redelivery
