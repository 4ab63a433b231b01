import VirtualNode.Controller.Desk

/-!
# The heartbeat

On every beat the controller probes its connection to the broker, sets the readiness of the node
and shows the node to the cluster.  The node is ready while probes are acknowledged and the base
has been heard of lately.  Too many failed probes in a row end the run.
-/

set_option autoImplicit false

namespace VirtualNode.Controller

open Activity

/-- Whether the node is ready, and why. -/
def readiness (probed alive : Bool) : Bool × String :=
  if !probed then (false, "health probe failed")
  else if alive then (true, "base is alive")
  else (false, "no heartbeat from base")

namespace Desk

/-- Notes that a probe was acknowledged. -/
def probeSucceeded (d : Desk) : Desk :=
  { d.noteHealthy Watch.Health.heartbeat with missedProbes := 0 }

/-- Notes that a probe failed, which ends the run after too many failures in a row. -/
def probeFailed (d : Desk) (e : DeliveryFault) : Desk :=
  let missed := d.missedProbes + 1
  let d := { d with missedProbes := missed }.measure fun m =>
    m.addHeartbeatFailure.addTransportFailure "heartbeat"
  if d.settings.maxHeartbeatFailures ≤ missed then
    (d.noteUnhealthy Watch.Health.heartbeat e.message).fail (.heartbeatLost missed)
  else d.noteDegraded Watch.Health.heartbeat e.message

/-- Sets the readiness of the node. -/
def setReadiness (d : Desk) (probed : Bool) : Desk :=
  let (ready, reason) := readiness probed (d.isFresh d.settings.baseHeartbeatTimeout)
  let (node, flipped) :=
    if ready then d.node.markReady d.now else d.node.markNotReady reason d.now
  let d := { d with node := node }
  if flipped then (d.log (.readinessChanged ready reason)).measure (·.setNodeReady ready) else d

end Desk

/-- Sets the readiness of the node and shows the node to the cluster. -/
def refreshNode (probed : Bool) : Activity Unit := do
  change (·.setReadiness probed)
  let d ← desk
  let answer ← call (.reportNode d.node)
  match bounded (Call.reportNode d.node).what d.settings.operationTimeout answer with
  | .ok () => change (·.noteHealthy Watch.Health.cluster)
  | .error e => change (·.noteDegraded Watch.Health.cluster e.message)

/-- One beat. -/
def beat : Activity Unit := do
  let d ← desk
  let outcome ← call (.probe (.ofNode d.settings.nodeId d.now))
  change (·.noteTransport outcome)
  match outcome with
  | .ok () =>
    change Desk.probeSucceeded
    refreshNode true
  | .error e =>
    change (·.probeFailed e)
    let d ← desk
    if d.settings.maxHeartbeatFailures ≤ d.missedProbes then return ()
    else refreshNode false

end VirtualNode.Controller
