import VirtualNode.Json.Lookup
import VirtualNode.Kube.Shapes.Node

/-!
# Nodes

A node of the cluster.  The parts that the controller sets have fields of their own; whatever else
a node may carry is kept as it came, in the settled form of its shape.
-/

set_option autoImplicit false

namespace VirtualNode.Kube

open Json (Members Value)

/-- A mark on a node that keeps pods away which do not tolerate it. -/
structure Taint where
  key : String
  value : Option String
  effect : String
  timeAdded : Option Time.Stamp
  deriving DecidableEq, Repr, Inhabited

/-- The specification of a node. -/
structure NodeSpec where
  taints : Option (List Taint)
  others : Members
  deriving DecidableEq, Repr, Inhabited

/-- An address of a node. -/
structure NodeAddress where
  type : String
  address : String
  deriving DecidableEq, Repr, Inhabited

/-- What a node says about its machine. -/
structure NodeInfo where
  architecture : String
  bootId : String
  containerRuntimeVersion : String
  kernelVersion : String
  kubeProxyVersion : String
  kubeletVersion : String
  machineId : String
  operatingSystem : String
  osImage : String
  systemUuid : String
  deriving DecidableEq, Repr, Inhabited

/-- A condition of a node. -/
structure NodeCondition where
  type : String
  status : String
  reason : Option String
  message : Option String
  lastHeartbeat : Option Time.Stamp
  lastTransition : Option Time.Stamp
  deriving DecidableEq, Repr, Inhabited

/-- The status of a node. -/
structure NodeStatus where
  phase : Option String
  addresses : Option (List NodeAddress)
  capacity : Option (List (String × String))
  allocatable : Option (List (String × String))
  info : Option NodeInfo
  conditions : Option (List NodeCondition)
  others : Members
  deriving DecidableEq, Repr, Inhabited

/-- A node. -/
structure Node where
  name : Option String
  resourceVersion : Option String
  labels : Option (List (String × String))
  /-- Further members of the metadata. -/
  others : Members
  spec : Option NodeSpec
  status : Option NodeStatus
  deriving DecidableEq, Repr, Inhabited

/-- The specification without content. -/
def NodeSpec.empty : NodeSpec := ⟨none, []⟩

/-- The status without content. -/
def NodeStatus.empty : NodeStatus := ⟨none, none, none, none, none, none, []⟩

/-- The node without content. -/
def Node.empty : Node := ⟨none, none, none, [], none, none⟩

/-- The conditions of a node. -/
def Node.conditions (n : Node) : List NodeCondition :=
  (n.status.bind NodeStatus.conditions).getD []

/-- The phase of a node. -/
def Node.phase (n : Node) : Option String :=
  n.status.bind NodeStatus.phase

/-! ## Writing -/

/-- The document of a taint. -/
def Taint.toJson (t : Taint) : Value :=
  .object ([("key", .text t.key), ("effect", .text t.effect)]
    ++ Json.optional "value" .text t.value ++ Json.optional "timeAdded" .ofStamp t.timeAdded)

/-- The document of a node's specification. -/
def NodeSpec.toJson (s : NodeSpec) : Value :=
  .object (Json.optional "taints" (fun ts => .list (ts.map Taint.toJson)) s.taints ++ s.others)

/-- The document of a node's address. -/
def NodeAddress.toJson (a : NodeAddress) : Value :=
  .object [("type", .text a.type), ("address", .text a.address)]

/-- The document of what a node says about its machine. -/
def NodeInfo.toJson (i : NodeInfo) : Value :=
  .object [("architecture", .text i.architecture), ("bootID", .text i.bootId),
    ("containerRuntimeVersion", .text i.containerRuntimeVersion),
    ("kernelVersion", .text i.kernelVersion), ("kubeProxyVersion", .text i.kubeProxyVersion),
    ("kubeletVersion", .text i.kubeletVersion), ("machineID", .text i.machineId),
    ("operatingSystem", .text i.operatingSystem), ("osImage", .text i.osImage),
    ("systemUUID", .text i.systemUuid)]

/-- The document of a node's condition. -/
def NodeCondition.toJson (c : NodeCondition) : Value :=
  .object ([("type", .text c.type), ("status", .text c.status)]
    ++ Json.optional "reason" .text c.reason ++ Json.optional "message" .text c.message
    ++ Json.optional "lastHeartbeatTime" .ofStamp c.lastHeartbeat
    ++ Json.optional "lastTransitionTime" .ofStamp c.lastTransition)

/-- The document of a node's status. -/
def NodeStatus.toJson (s : NodeStatus) : Value :=
  .object (Json.optional "phase" .text s.phase
    ++ Json.optional "addresses" (fun xs => .list (xs.map NodeAddress.toJson)) s.addresses
    ++ Json.optional "capacity" .ofStrings s.capacity
    ++ Json.optional "allocatable" .ofStrings s.allocatable
    ++ Json.optional "nodeInfo" NodeInfo.toJson s.info
    ++ Json.optional "conditions" (fun xs => .list (xs.map NodeCondition.toJson)) s.conditions
    ++ s.others)

/-- The document of a node. -/
def Node.toJson (n : Node) : Value :=
  .object ([("apiVersion", .text "v1"), ("kind", .text "Node"),
      ("metadata", .object (Json.optional "name" .text n.name
        ++ Json.optional "resourceVersion" .text n.resourceVersion
        ++ Json.optional "labels" .ofStrings n.labels ++ n.others))]
    ++ Json.optional "spec" NodeSpec.toJson n.spec
    ++ Json.optional "status" NodeStatus.toJson n.status)

/-! ## Reading -/

/-- The taint that a settled document holds. -/
def Taint.ofSettled? (v : Value) : Option Taint := do
  let ms ← v.members?
  return ⟨← ms.string? "key", ← ms.text? "value", ← ms.string? "effect",
    ← ms.opt? "timeAdded" Value.stamp?⟩

/-- The specification of a node that a settled document holds. -/
def NodeSpec.ofSettled? (v : Value) : Option NodeSpec := do
  let ms ← v.members?
  return ⟨← ms.list? "taints" Taint.ofSettled?, ms.others ["taints"]⟩

/-- The address of a node that a settled document holds. -/
def NodeAddress.ofSettled? (v : Value) : Option NodeAddress := do
  let ms ← v.members?
  return ⟨← ms.string? "type", ← ms.string? "address"⟩

/-- What a node says about its machine, as a settled document holds it. -/
def NodeInfo.ofSettled? (v : Value) : Option NodeInfo := do
  let ms ← v.members?
  return ⟨← ms.string? "architecture", ← ms.string? "bootID",
    ← ms.string? "containerRuntimeVersion", ← ms.string? "kernelVersion",
    ← ms.string? "kubeProxyVersion", ← ms.string? "kubeletVersion", ← ms.string? "machineID",
    ← ms.string? "operatingSystem", ← ms.string? "osImage", ← ms.string? "systemUUID"⟩

/-- The condition of a node that a settled document holds. -/
def NodeCondition.ofSettled? (v : Value) : Option NodeCondition := do
  let ms ← v.members?
  return ⟨← ms.string? "type", ← ms.string? "status", ← ms.text? "reason", ← ms.text? "message",
    ← ms.opt? "lastHeartbeatTime" Value.stamp?, ← ms.opt? "lastTransitionTime" Value.stamp?⟩

/-- The status of a node that a settled document holds. -/
def NodeStatus.ofSettled? (v : Value) : Option NodeStatus := do
  let ms ← v.members?
  return {
    phase := ← ms.text? "phase"
    addresses := ← ms.list? "addresses" NodeAddress.ofSettled?
    capacity := ← ms.opt? "capacity" Value.strings?
    allocatable := ← ms.opt? "allocatable" Value.strings?
    info := ← ms.opt? "nodeInfo" NodeInfo.ofSettled?
    conditions := ← ms.list? "conditions" NodeCondition.ofSettled?
    others := ms.others ["phase", "addresses", "capacity", "allocatable", "nodeInfo",
      "conditions"] }

/-- The node that a settled document holds. -/
def Node.ofSettled? (v : Value) : Option Node := do
  let ms ← v.members?
  let header ← ms.withDefault? "metadata" Value.members? []
  return {
    name := ← header.text? "name"
    resourceVersion := ← header.text? "resourceVersion"
    labels := ← header.opt? "labels" Value.strings?
    others := header.others ["name", "resourceVersion", "labels"]
    spec := ← ms.opt? "spec" NodeSpec.ofSettled?
    status := ← ms.opt? "status" NodeStatus.ofSettled? }

/-- The node that a document holds. -/
def Node.ofJson? (v : Value) : Option Node :=
  (Shapes.node.fit? v).bind Node.ofSettled?

/-- The node that a text holds. -/
def Node.read? (text : String) : Option Node :=
  (Shapes.node.read? text).bind Node.ofSettled?

end VirtualNode.Kube
