import VirtualNode.Controller.Subscriptions

/-!
# From registration to removal

A run begins with the registration of the node and ends with its removal.  A run whose
registration fails is over at once.
-/

set_option autoImplicit false

namespace VirtualNode.Controller

open Activity

/-- The version of the controller, as it is told in the journal. -/
def version : String := "0.1.0"

/-- The node as it is registered. -/
def Settings.firstNode (s : Settings) : Kube.Node :=
  { Kube.Node.build s.base .empty with name := some s.nodeName }

/-- Ends a run whose registration failed. -/
def abandon (e : Fault) : Activity Unit := do
  change fun d => (d.noteUnhealthy Watch.Health.cluster e.message).recordOutcome (some e)
  call .disconnect
  change fun d => (d.log (.stopped "registration failed")).finish

/-- Registers the node and subscribes.  The answer says whether the node is registered. -/
def enlist : Activity Bool := do
  let d ← desk
  let node := d.settings.firstNode
  change fun d => { d.log (.started version d.settings.broker) with node := node }
  let answer ← call (.register node)
  match bounded (Call.register node).what d.settings.operationTimeout answer with
  | .error e =>
    abandon e
    return false
  | .ok () =>
    change fun d => (d.log (.nodeRegistered d.settings.base.nodeIp)).setRegistered true
    ensureSubscribed
    return true

/-- Gives up subscriptions one after the other, whatever becomes of each. -/
def unsubscribeAll : List Topic.Purpose → Activity Unit
  | [] => return ()
  | purpose :: rest => do
    let _ ← call (.unsubscribe purpose)
    unsubscribeAll rest

/-- Whether a call to the cluster has worked. -/
def succeeded (answer : Option (Except Fault Unit)) : Bool :=
  match answer with
  | some (.ok ()) => true
  | _ => false

/-- Why a controller that has been registered ends. -/
def Desk.reasonToStop (d : Desk) : String :=
  if d.completion.recorded?.isSome then "fatal error" else "cancelled"

/-- Removes the node and finishes the run. -/
def retire : Activity Unit := do
  unsubscribeAll listened
  let answer ← call .deleteNode
  change fun d => ((d.log (.nodeRemoved (succeeded answer))).setRegistered false).measure
    (·.setNodeReady false)
  call .disconnect
  change fun d => (d.log (.stopped d.reasonToStop)).finish

end VirtualNode.Controller
