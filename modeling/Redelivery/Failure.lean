/-
  Redelivery.Failure
  ──────────────────
  **What a handler reports when it could not deal with a record.**

  A failure has a kind (a name, such as `IoError`), a message, and the
  failures that caused it.  The causes are kept as a list, nearest first, so
  a failure is a non-empty list of incidents, outermost first (`chain`).
-/

namespace Redelivery

/-- One failed step: the name of its kind, and what it says. -/
structure Incident where
  kind : String
  message : String := ""
  deriving DecidableEq, Repr, Inhabited

/-- An incident with the incidents that caused it, nearest cause first. -/
structure Failure extends Incident where
  causes : List Incident := []
  deriving DecidableEq, Repr, Inhabited

/-- The incident on one line. -/
def Incident.describe (i : Incident) : String := i.kind ++ ": " ++ i.message

namespace Failure

/-- The incidents of a failure, outermost first. -/
def chain (f : Failure) : List Incident := f.toIncident :: f.causes

/-- The failure on one line, without its causes. -/
def describe (f : Failure) : String := f.toIncident.describe

/-- The failure that directly caused this one. -/
def cause? (f : Failure) : Option Failure :=
  match f.causes with
  | [] => none
  | c :: rest => some { c with causes := rest }

/-- One line per incident of the chain; the causes are marked as such. -/
def summary (f : Failure) : String :=
  "\n".intercalate (f.describe :: f.causes.map fun c => "Caused by: " ++ c.describe)

end Failure

end Redelivery
