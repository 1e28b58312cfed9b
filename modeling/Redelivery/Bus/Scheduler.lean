/-
  Redelivery.Bus.Scheduler
  ────────────────────────
  **Delayed activations.**

  A holder of a delayed record asks for an activation at a due time, in the
  name of an owner.  Requests are commands in a first-in first-out queue;
  the scheduler works them off one at a time, keeps the pending activations
  ordered by due time and number, and resolves each of them once: as fired
  when it is due, or as cancelled together with all others of its owner.
  Shutting down resolves whatever is left as cancelled, and whatever is
  asked for later.

  Times are milliseconds of a clock that starts at zero.
-/

namespace Redelivery

/-- An activation that was asked for. -/
structure Activation where
  due : Nat
  id : Nat
  owner : String
  deriving DecidableEq, Repr, Inhabited

/-- Whether the first activation comes before the second: by due time, then by number. -/
def Activation.before (a b : Activation) : Bool :=
  a.due < b.due || (a.due == b.due && a.id < b.id)

/-- How and when an activation ended. -/
structure Resolution where
  id : Nat
  /-- Fired, as against cancelled. -/
  fired : Bool
  time : Nat
  deriving DecidableEq, Repr, Inhabited

/-- A request that waits for the scheduler. -/
inductive SchedulerCommand where
  | schedule (a : Activation)
  | cancelOwner (owner : String)
  deriving DecidableEq, Repr, Inhabited

/-- The scheduler of delayed activations. -/
structure Scheduler where
  nextId : Nat := 0
  /-- Requests not yet worked off, oldest first. -/
  commands : List SchedulerCommand := []
  /-- Pending activations, first due first. -/
  queue : List Activation := []
  /-- Activations that have ended, oldest first. -/
  resolved : List Resolution := []
  /-- A shutdown was asked for. -/
  stopping : Bool := false
  /-- The scheduler works no more. -/
  halted : Bool := false
  deriving DecidableEq, Repr, Inhabited

namespace Scheduler

/-! ## §1. Requests. -/

/-- The last time, in milliseconds, that the clock can represent. -/
def lastTime : Nat := 9223372036854775807999

/-- Used for a due time that the clock cannot represent: thirty years from now. -/
def farFuture : Nat := 30 * 365 * 86400 * 1000

/-- The longest delay that can be asked for. -/
def longestDelay : Nat := 18446744073709551615999

/-- The due time of an activation that is asked for at time `now`. -/
def dueTime (now delay : Nat) : Nat :=
  if now + delay ≤ lastTime then now + delay else now + farFuture

/-- Ask for an activation after a delay; gives its number. -/
def schedule (s : Scheduler) (now delay : Nat) (owner : String) : Nat × Scheduler :=
  let a : Activation := ⟨dueTime now delay, s.nextId, owner⟩
  let s := { s with nextId := s.nextId + 1 }
  -- Nobody works after the end, so a late request is answered at once.
  if s.halted then (a.id, { s with resolved := s.resolved ++ [⟨a.id, false, now⟩] })
  else (a.id, { s with commands := s.commands ++ [.schedule a] })

/-- The delay from the wall-clock time `wall` to `due`; none if it has passed. -/
def delayUntil (wall due : Int64) : Nat := (Int64.ofIntClamp (due.toInt - wall.toInt)).toInt.toNat

/-- Ask for the cancellation of every activation of an owner. -/
def cancelOwner (s : Scheduler) (owner : String) : Scheduler :=
  if s.halted then s else { s with commands := s.commands ++ [.cancelOwner owner] }

/-- Ask the scheduler to end. -/
def shutdown (s : Scheduler) : Scheduler := { s with stopping := true }

/-! ## §2. Work. -/

/-- Put an activation into its place. -/
def enqueue (a : Activation) : List Activation → List Activation
  | [] => [a]
  | b :: rest => if a.before b then a :: b :: rest else b :: enqueue a rest

/-- The same end for several activations. -/
def endAll (l : List Activation) (fired : Bool) (now : Nat) : List Resolution :=
  l.map fun a => ⟨a.id, fired, now⟩

/-- Work off the oldest request. -/
def work? (s : Scheduler) (now : Nat) : Option Scheduler :=
  if s.halted then none
  else match s.commands with
    | [] => none
    | .schedule a :: rest => some { s with commands := rest, queue := enqueue a s.queue }
    | .cancelOwner owner :: rest =>
        -- Requests behind this command are not reached: they were made after it.
        let (mine, others) := s.queue.partition fun a => a.owner == owner
        some { s with
          commands := rest
          queue := others
          resolved := s.resolved ++ endAll mine false now }

/-- Fire the activations that are due, first due first. -/
def fire? (s : Scheduler) (now : Nat) : Option Scheduler :=
  if s.halted then none
  else
    -- The queue is ordered by due time, so whatever is due stands in front.
    let due := s.queue.takeWhile fun a => a.due ≤ now
    if due.isEmpty then none
    else some { s with
      queue := s.queue.dropWhile fun a => a.due ≤ now
      resolved := s.resolved ++ endAll due true now }

/-- The activations among the requests. -/
def asked (l : List SchedulerCommand) : List Activation :=
  l.filterMap fun
    | .schedule a => some a
    | .cancelOwner _ => none

/-- End, if asked to: everything pending or still asked for is cancelled. -/
def halt? (s : Scheduler) (now : Nat) : Option Scheduler :=
  if s.stopping && !s.halted then
    some { s with
      halted := true
      commands := []
      queue := []
      resolved := s.resolved ++ endAll (s.queue ++ asked s.commands) false now }
  else none

/-! ## §3. Questions. -/

/-- How an activation ended: fired, cancelled, or not yet. -/
def outcome? (s : Scheduler) (id : Nat) : Option Bool :=
  (s.resolved.find? fun r => r.id == id).map Resolution.fired

/-- The number of activations that wait for their time. -/
def pending (s : Scheduler) : Nat := s.queue.length

/-- The next time at which an activation is due. -/
def nextDue? (s : Scheduler) : Option Nat := s.queue.head?.map Activation.due

end Scheduler

end Redelivery
