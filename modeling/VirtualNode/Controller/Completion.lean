import VirtualNode.Fault

/-!
# How a run ends

A run ends once.  The first outcome that is recorded counts: a fault, or none if the run ended as
it was asked to.  Whoever waits is released when the run is finished, and only then the outcome
can be read.
-/

set_option autoImplicit false

namespace VirtualNode.Controller

/-- What is known about the end of a run. -/
structure Completion where
  /-- The outcome, once it has been recorded: a fault, or none. -/
  outcome : Option (Option Fault) := none
  /-- Whether the run is finished. -/
  done : Bool := false
  /-- The number of those who wait. -/
  waiting : Nat := 0
  /-- The number of those who were released. -/
  released : Nat := 0
  deriving DecidableEq, Repr, Inhabited

namespace Completion

/-- Nothing is known yet. -/
def pending : Completion := {}

/-- Records an outcome unless there is one already, and says whether it was recorded. -/
def record (c : Completion) (fault : Option Fault) : Completion × Bool :=
  match c.outcome with
  | some _ => (c, false)
  | none => ({ c with outcome := some fault }, true)

/-- Finishes the run and releases all who wait.  A run without an outcome ended without fault. -/
def finish (c : Completion) : Completion where
  outcome := some (c.outcome.getD none)
  done := true
  waiting := 0
  released := c.released + c.waiting

/-- Someone waits for the end of the run. -/
def wait (c : Completion) : Completion :=
  if c.done then { c with released := c.released + 1 }
  else { c with waiting := c.waiting + 1 }

/-- The fault that has been recorded, whether the run is finished or not. -/
def recorded? (c : Completion) : Option Fault := c.outcome.join

/-- The fault with which a finished run ended. -/
def fault? (c : Completion) : Option Fault :=
  if c.done then c.recorded? else none

/-- The first outcome stays. -/
theorem record_of_recorded {c : Completion} {o : Option Fault} (h : c.outcome = some o)
    (fault : Option Fault) : c.record fault = (c, false) := by
  simp [record, h]

/-- Finishing keeps an outcome that has been recorded. -/
theorem outcome_finish {c : Completion} {o : Option Fault} (h : c.outcome = some o) :
    c.finish.outcome = some o := by
  simp [finish, h]

end Completion

end VirtualNode.Controller
