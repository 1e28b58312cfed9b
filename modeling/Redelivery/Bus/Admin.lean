/-
  Redelivery.Bus.Admin
  ────────────────────
  **Topic administration, with a bounded number of retries.**

  Topics are described and created on a broker.  Calls can be made to fail;
  a failed call is tried again up to five times.
-/
import Redelivery.Bus.Broker

namespace Redelivery

/-- Calls made to the administration, and how many of the next ones fail. -/
structure Admin where
  describeFailures : Nat := 0
  createFailures : Nat := 0
  describeCalls : Nat := 0
  createCalls : Nat := 0
  deriving DecidableEq, Repr, Inhabited

namespace Admin

/-- How often a failed call is tried again. -/
def maxRetries : Nat := 5

/-- Describe a topic. -/
def describe (a : Admin) (b : Broker) (name : String) : Except BusError (Option Layout) × Admin :=
  let a := { a with describeCalls := a.describeCalls + 1 }
  if 0 < a.describeFailures then
    (.error (.admin ("describe " ++ name)), { a with describeFailures := a.describeFailures - 1 })
  else (.ok (b.layout? name), a)

/-- Create the missing ones among some topics. -/
def create (a : Admin) (b : Broker) (requests : List TopicRequest) :
    Except BusError Unit × Admin × Broker :=
  let a := { a with createCalls := a.createCalls + 1 }
  if 0 < a.createFailures then
    (.error (.admin ("create " ++ toString requests.length)),
      { a with createFailures := a.createFailures - 1 }, b)
  else
    let (answer, b) := b.createIfAbsent requests
    (answer, a, b)

/-- Describe a topic, with retries. -/
def describeRetrying (a : Admin) (b : Broker) (name : String) :
    (retries : Nat) → Except BusError (Option Layout) × Admin
  | 0 => a.describe b name
  | retries + 1 =>
      match a.describe b name with
      -- Only the last error is reported, and every call is counted.
      | (.error _, a) => a.describeRetrying b name retries
      | answer => answer

/-- Create missing topics, with retries. -/
def createRetrying (a : Admin) (b : Broker) (requests : List TopicRequest) :
    (retries : Nat) → Except BusError Unit × Admin × Broker
  | 0 => a.create b requests
  | retries + 1 =>
      match a.create b requests with
      | (.error _, a, b) => a.createRetrying b requests retries
      | answer => answer

end Admin

end Redelivery
