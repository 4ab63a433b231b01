import VirtualNode.Fault
import VirtualNode.Kube.NodeOfBase
import VirtualNode.Mqtt.Qos
import VirtualNode.Text.Quoted
import VirtualNode.Topic.Names

/-!
# Settings of a controller

What a controller is told before it starts.  `Settings.validate` says whether the settings are
usable, and names the first thing that is wrong with them.
-/

set_option autoImplicit false

namespace VirtualNode.Controller

/-- The settings of a controller.  All times are in milliseconds. -/
structure Settings where
  /-- The base for which the controller works. -/
  base : Kube.BaseInfo
  /-- The host of the message broker. -/
  broker : String := "localhost"
  /-- The time from one pass over the pods to the next. -/
  reconcileInterval : Nat := 5000
  /-- The time from one probe to the next. -/
  heartbeatInterval : Nat := 10000
  /-- How long a single call may take. -/
  operationTimeout : Nat := 3000
  /-- How long the base counts as alive after its last sign of life. -/
  baseHeartbeatTimeout : Nat := 30000
  /-- How long the removal of the node may take. -/
  shutdownTimeout : Nat := 5000
  /-- The number of probes in a row that may fail. -/
  maxHeartbeatFailures : Nat := 3
  /-- The number of listings in a row that may fail. -/
  maxClusterFailures : Nat := 5
  /-- The guarantee for the delivery of commands. -/
  commandQos : Mqtt.Qos := .standard
  deriving DecidableEq, Repr, Inhabited

namespace Settings

/-- The settings for a base, everything else being standard. -/
def standard (base : Kube.BaseInfo) : Settings where
  base := base

/-- The id of the node. -/
def nodeId (s : Settings) : String := s.base.nodeId

/-- The name of the node in the cluster. -/
def nodeName (s : Settings) : String := Kube.virtualNodeName s.nodeId

/-- The topic of the node for a purpose. -/
def topic (s : Settings) (purpose : Topic.Purpose) : String :=
  Topic.name s.nodeId purpose

/-- A character that has a meaning of its own in topics. -/
def isTopicMark (c : Char) : Bool :=
  c = '/' || c = '+' || c = '#'

/-- The name of the first time that must not be zero and is. -/
def firstZero? (s : Settings) : Option String :=
  ([("reconcile_interval", s.reconcileInterval), ("heartbeat_interval", s.heartbeatInterval),
    ("operation_timeout", s.operationTimeout),
    ("base_heartbeat_timeout", s.baseHeartbeatTimeout)].find? fun e => e.2 = 0).map Prod.fst

/-- Says whether the settings are usable. -/
def validate (s : Settings) : Except Fault Unit :=
  if Text.blank s.nodeId then .error (.config "node id must not be empty")
  else if s.nodeId.toList.any isTopicMark then
    .error (.config ("node id " ++ Text.Quoted.encode s.nodeId
      ++ " contains MQTT topic separators or wildcards"))
  else match s.firstZero? with
    | some name => .error (.config (name ++ " must be greater than zero"))
    | none =>
      if s.maxHeartbeatFailures = 0 || s.maxClusterFailures = 0 then
        .error (.config "failure thresholds must be at least 1")
      else .ok ()

end Settings

end VirtualNode.Controller
