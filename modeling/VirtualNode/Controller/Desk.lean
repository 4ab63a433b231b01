import VirtualNode.Controller.Call
import VirtualNode.Controller.Completion
import VirtualNode.Controller.Inbox
import VirtualNode.Dialogue
import VirtualNode.Watch.Health

/-!
# The desk of a controller

Everything that a controller knows, and the dialogues in which it works: all its activities share
one desk, and each of them goes on with its work while others wait for an answer.
-/

set_option autoImplicit false

namespace VirtualNode.Controller

/-- What the passes over the pods have brought about. -/
structure Ledger where
  /-- For each pod the modules that are installed on its behalf. -/
  claims : Table String (List Biz.Descriptor)
  /-- The pods of the last listing, without those that are being deleted. -/
  pods : Table String Kube.Pod
  /-- For each pod the status that was written last. -/
  written : Table String Kube.PodStatus
  /-- The number of listings in a row that have failed. -/
  failedListings : Nat

/-- The ledger before the first pass. -/
def Ledger.empty : Ledger := ⟨Table.empty, Table.empty, Table.empty, 0⟩

/-- Everything that a controller knows. -/
structure Desk extends Inbox where
  settings : Settings
  health : Watch.Health
  /-- Whether the last attempt to subscribe worked. -/
  subscribed : Bool
  /-- The number of times that the transport has connected. -/
  sessions : Nat
  /-- The number of connects that the renewal of subscriptions knows of. -/
  sessionsSeen : Nat
  completion : Completion
  /-- Whether the owner has asked the controller to end. -/
  cancelled : Bool
  /-- Whether the controller is about to end. -/
  stopping : Bool
  /-- The node as it was last shown to the cluster. -/
  node : Kube.Node
  /-- The number of probes in a row that have failed. -/
  missedProbes : Nat
  ledger : Ledger

namespace Desk

/-- The desk of a controller that has not been started. -/
def fresh (settings : Settings) (origin : Time.Stamp) : Desk where
  toInbox := .empty origin
  settings := settings
  health := .forController origin
  subscribed := false
  sessions := 1
  sessionsSeen := 0
  completion := .pending
  cancelled := false
  stopping := false
  node := .empty
  missedProbes := 0
  ledger := .empty

/-- Writes an event into the journal. -/
def log (d : Desk) (event : Watch.Event) : Desk :=
  { d with toInbox := d.toInbox.tell event }

/-- Counts or measures something. -/
def measure (d : Desk) (f : Watch.Metrics → Watch.Metrics) : Desk :=
  { d with metrics := f d.metrics }

/-- Notes the outcome of an exchange with the broker. -/
def noteTransport (d : Desk) (outcome : Except DeliveryFault Unit) : Desk :=
  { d with health := d.health.record Watch.Health.transport outcome d.now }

/-- Notes that a part is healthy. -/
def noteHealthy (d : Desk) (part : String) : Desk :=
  { d with health := d.health.healthy part d.now }

/-- Notes that a part is failing. -/
def noteDegraded (d : Desk) (part message : String) : Desk :=
  { d with health := d.health.degraded part message d.now }

/-- Notes that a part has given up. -/
def noteUnhealthy (d : Desk) (part message : String) : Desk :=
  { d with health := d.health.unhealthy part message d.now }

/-- Notes whether the node is registered. -/
def setRegistered (d : Desk) (registered : Bool) : Desk :=
  { d with health := d.health.setRegistered registered }

/-- Changes the ledger. -/
def updateLedger (d : Desk) (f : Ledger → Ledger) : Desk :=
  { d with ledger := f d.ledger }

/-- Records how the run ends, unless that is known already. -/
def recordOutcome (d : Desk) (fault : Option Fault) : Desk :=
  { d with completion := (d.completion.record fault).1 }

/-- Ends the run because of a fault. -/
def fail (d : Desk) (fault : Fault) : Desk :=
  { d.recordOutcome (some fault) with stopping := true }

/-- Finishes the run. -/
def finish (d : Desk) : Desk :=
  { d with completion := d.completion.finish }

end Desk

/-- A piece of work of a controller. -/
abbrev Activity := Dialogue Call Call.Answer Desk

namespace Activity

/-- What the controller knows at present. -/
def desk : Activity Desk := Dialogue.state

/-- Changes what the controller knows. -/
def change (f : Desk → Desk) : Activity Unit := Dialogue.update f

/-- Makes a call and waits for the answer. -/
def call (c : Call) : Activity c.Answer := Dialogue.request c

end Activity

end VirtualNode.Controller
