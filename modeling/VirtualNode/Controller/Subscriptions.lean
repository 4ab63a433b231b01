import VirtualNode.Controller.Desk

/-!
# Subscriptions

The controller listens on two topics of its base.  It tries to subscribe when it starts, before
every pass over the pods as long as it is not subscribed, and after every new connect.

Between the answer to a call to subscribe and what is done about it others may come first, and so
they may before the renewal looks for the first time which connects there were.
-/

set_option autoImplicit false

namespace VirtualNode.Controller

open Activity

/-- The purposes of the topics on which the controller listens. -/
def listened : List Topic.Purpose := [.bizState, .baseHeart]

/-- Subscribes to one topic, and says whether that worked. -/
def subscribe (purpose : Topic.Purpose) : Activity Bool := do
  let outcome ← call (.subscribe purpose)
  call .noting
  change (·.noteTransport outcome)
  match outcome with
  | .ok () => return true
  | .error _ =>
    change (·.measure (·.addTransportFailure "subscribe"))
    return false

/-- Subscribes to topics one after the other, and says whether all of that worked. -/
def subscribeAll : List Topic.Purpose → Activity Bool
  | [] => return true
  | purpose :: rest => do
    let worked ← subscribe purpose
    let restWorked ← subscribeAll rest
    return worked && restWorked

/-- Subscribes to the topics of the base, unless that is done. -/
def ensureSubscribed : Activity Unit := do
  let d ← desk
  if d.subscribed then return ()
  else
    let worked ← subscribeAll listened
    change fun d => { d with subscribed := worked }

/-- The renewal of subscriptions begins: what was connected so far is no new connect. -/
def watchSessions : Activity Unit := do
  call .turn
  change fun d => { d with sessionsSeen := d.sessions }

/-- Subscribes anew after the transport has connected again. -/
def renewSubscriptions : Activity Unit := do
  change fun d => { d with sessionsSeen := d.sessions, subscribed := false }
  ensureSubscribed

end VirtualNode.Controller
