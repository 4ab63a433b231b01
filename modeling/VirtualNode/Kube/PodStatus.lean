import VirtualNode.Biz.Report
import VirtualNode.Kube.Pod

/-!
# The status of a pod

The status that the controller reports for a pod is derived from what was last seen of each of
its modules: a module that is running makes its container run, one that was stopped makes it
terminate, and everything else leaves it waiting.  Main definitions: `ContainerStatus.ofReport`,
`PodStatus.phaseOf` and `PodStatus.derive`.
-/

set_option autoImplicit false

namespace VirtualNode.Kube

open Json (Members Value)

/-- Why a container waits. -/
structure Waiting where
  reason : Option String
  message : Option String
  deriving DecidableEq, Repr, Inhabited

/-- Since when a container runs. -/
structure Running where
  startedAt : Option Time.Stamp
  deriving DecidableEq, Repr, Inhabited

/-- How a container ended. -/
structure Terminated where
  exitCode : Int
  reason : Option String
  message : Option String
  finishedAt : Option Time.Stamp
  /-- Further members of the object. -/
  others : Members
  deriving DecidableEq, Repr, Inhabited

/-- The state of a container; of the three, the controller sets exactly one. -/
structure ContainerState where
  waiting : Option Waiting
  running : Option Running
  terminated : Option Terminated
  deriving DecidableEq, Repr, Inhabited

namespace ContainerState

/-- The container waits. -/
def waits (reason message : String) : ContainerState :=
  ⟨some ⟨some reason, some message⟩, none, none⟩

/-- The container runs. -/
def runs (since : Time.Stamp) : ContainerState :=
  ⟨none, some ⟨some since⟩, none⟩

/-- The container has ended without an error. -/
def ended (reason message : String) (stopped : Time.Stamp) : ContainerState :=
  ⟨none, none, some ⟨0, some reason, some message, some stopped, []⟩⟩

end ContainerState

/-- The status of a container. -/
structure ContainerStatus where
  name : String
  image : String
  imageId : String
  containerId : Option String
  ready : Bool
  started : Option Bool
  restartCount : Int
  state : Option ContainerState
  /-- Further members of the object. -/
  others : Members
  deriving DecidableEq, Repr, Inhabited

/-- A condition of a pod. -/
structure PodCondition where
  type : String
  status : String
  /-- Further members of the object. -/
  others : Members
  deriving DecidableEq, Repr, Inhabited

/-- The status of a pod. -/
structure PodStatus where
  phase : Option String
  conditions : Option (List PodCondition)
  containerStatuses : Option (List ContainerStatus)
  hostIp : Option String
  podIp : Option String
  startTime : Option Time.Stamp
  /-- Further members of the object. -/
  others : Members
  deriving DecidableEq, Repr, Inhabited

namespace ContainerStatus

/-- Whether the container runs. -/
def isRunning (s : ContainerStatus) : Bool :=
  (s.state.bind ContainerState.running).isSome

/-- Whether the container has ended. -/
def isTerminated (s : ContainerStatus) : Bool :=
  (s.state.bind ContainerState.terminated).isSome

/-- When the container was started, if it runs. -/
def startedAt (s : ContainerStatus) : Option Time.Stamp :=
  (s.state.bind ContainerState.running).bind Running.startedAt

/-- The state of the container of a module that was last seen in a state since a time. -/
def stateOf (state : Option Biz.State) (since : Time.Stamp) : ContainerState :=
  match state with
  | none => .waits "BizPending" "biz is not installed yet"
  | some .resolved => .waits "BizResolved" "biz is resolved, waiting for activation"
  | some .activated => .runs since
  | some .deactivated => .ended "BizDeactivated" "biz has been deactivated" since
  | some (.other raw) => .waits raw ("unrecognised biz state " ++ raw)

/-- The status of the container of a module, given the last report about the module and the time
since which it holds.  The time is cut to whole seconds, which is what the cluster stores. -/
def ofReport (d : Biz.Descriptor) (report : Option Biz.Report) (since : Time.Stamp) :
    ContainerStatus :=
  let state := report.map Biz.Report.state
  let ready : Bool := state = some .activated
  { name := d.name
    image := d.url
    imageId := d.url
    containerId := some ("biz://" ++ d.identity)
    ready := ready
    started := some ready
    restartCount := 0
    state := some (stateOf state since.truncate)
    others := [] }

end ContainerStatus

namespace PodStatus

/-- A condition that holds or does not hold. -/
def condition (type : String) (holds : Bool) : PodCondition :=
  ⟨type, if holds then "True" else "False", []⟩

/-- The phase of a pod: failed as soon as a container has ended, running when all containers run
and there is one, pending else. -/
def phaseOf (statuses : List ContainerStatus) : String :=
  if statuses.any ContainerStatus.isTerminated then "Failed"
  else if !statuses.isEmpty && statuses.all ContainerStatus.isRunning then "Running"
  else "Pending"

/-- Whether there is a container and all containers are ready. -/
def allReady (statuses : List ContainerStatus) : Bool :=
  !statuses.isEmpty && statuses.all ContainerStatus.ready

/-- The earlier one of two points in time, of which the first may be missing. -/
def earlier (t : Option Time.Stamp) (u : Time.Stamp) : Option Time.Stamp :=
  match t with
  | none => some u
  | some t => some (if u.earlierThan t then u else t)

/-- The earliest time at which one of the running containers was started. -/
def earliestStart (statuses : List ContainerStatus) : Option Time.Stamp :=
  (statuses.filterMap ContainerStatus.startedAt).foldl earlier none

/-- The address of the node, unless it is empty. -/
def address (ip : String) : Option String :=
  if ip = "" then none else some ip

/-- The status of a pod with the given container statuses on a node with the given address.  A
start time that the cluster has stored is kept. -/
def derive (pod : Pod) (statuses : List ContainerStatus) (nodeIp : String) : PodStatus :=
  let ready := allReady statuses
  { phase := some (phaseOf statuses)
    conditions := some [condition "PodScheduled" true, condition "Initialized" true,
      condition "ContainersReady" ready, condition "Ready" ready]
    containerStatuses := some statuses
    hostIp := address nodeIp
    podIp := address nodeIp
    startTime := pod.startTime.or (earliestStart statuses)
    others := [] }

end PodStatus

/-! ## Reading and writing -/

/-- The document of a waiting container's state. -/
def Waiting.toJson (w : Waiting) : Value :=
  .object (Json.optional "reason" .text w.reason ++ Json.optional "message" .text w.message)

/-- The document of a running container's state. -/
def Running.toJson (r : Running) : Value :=
  .object (Json.optional "startedAt" .ofStamp r.startedAt)

/-- The document of an ended container's state. -/
def Terminated.toJson (t : Terminated) : Value :=
  .object (("exitCode", .ofInt t.exitCode) :: Json.optional "reason" .text t.reason
    ++ Json.optional "message" .text t.message
    ++ Json.optional "finishedAt" .ofStamp t.finishedAt ++ t.others)

/-- The document of a container's state. -/
def ContainerState.toJson (s : ContainerState) : Value :=
  .object (Json.optional "waiting" Waiting.toJson s.waiting
    ++ Json.optional "running" Running.toJson s.running
    ++ Json.optional "terminated" Terminated.toJson s.terminated)

/-- The document of a container's status. -/
def ContainerStatus.toJson (s : ContainerStatus) : Value :=
  .object ([("name", .text s.name), ("image", .text s.image), ("imageID", .text s.imageId),
      ("ready", .bool s.ready), ("restartCount", .ofInt s.restartCount)]
    ++ Json.optional "containerID" .text s.containerId
    ++ Json.optional "started" .bool s.started
    ++ Json.optional "state" ContainerState.toJson s.state ++ s.others)

/-- The document of a pod's condition. -/
def PodCondition.toJson (c : PodCondition) : Value :=
  .object ([("type", .text c.type), ("status", .text c.status)] ++ c.others)

/-- The document of a pod's status. -/
def PodStatus.toJson (s : PodStatus) : Value :=
  .object (Json.optional "phase" .text s.phase
    ++ Json.optional "conditions" (fun cs => .list (cs.map PodCondition.toJson)) s.conditions
    ++ Json.optional "containerStatuses" (fun cs => .list (cs.map ContainerStatus.toJson))
      s.containerStatuses
    ++ Json.optional "hostIP" .text s.hostIp
    ++ Json.optional "podIP" .text s.podIp
    ++ Json.optional "startTime" .ofStamp s.startTime ++ s.others)

/-- The state of an ended container that a settled document holds. -/
def Terminated.ofSettled? (v : Value) : Option Terminated := do
  let ms ← v.members?
  return ⟨← ms.withDefault? "exitCode" Value.whole? 0, ← ms.text? "reason", ← ms.text? "message",
    ← ms.opt? "finishedAt" Value.stamp?,
    ms.others ["exitCode", "reason", "message", "finishedAt"]⟩

/-- The state of a container that a settled document holds. -/
def ContainerState.ofSettled? (v : Value) : Option ContainerState := do
  let ms ← v.members?
  let waiting ← ms.opt? "waiting" fun v => do
    let ms ← v.members?
    return Waiting.mk (← ms.text? "reason") (← ms.text? "message")
  let running ← ms.opt? "running" fun v => do
    let ms ← v.members?
    return Running.mk (← ms.opt? "startedAt" Value.stamp?)
  return ⟨waiting, running, ← ms.opt? "terminated" Terminated.ofSettled?⟩

/-- The status of a container that a settled document holds. -/
def ContainerStatus.ofSettled? (v : Value) : Option ContainerStatus := do
  let ms ← v.members?
  return {
    name := ← ms.string? "name"
    image := ← ms.string? "image"
    imageId := ← ms.string? "imageID"
    containerId := ← ms.text? "containerID"
    ready := ← ms.withDefault? "ready" Value.bool? false
    started := ← ms.opt? "started" Value.bool?
    restartCount := ← ms.withDefault? "restartCount" Value.whole? 0
    state := ← ms.opt? "state" ContainerState.ofSettled?
    others := ms.others ["name", "image", "imageID", "containerID", "ready", "started",
      "restartCount", "state"] }

/-- The status of a container that a document holds. -/
def ContainerStatus.ofJson? (v : Value) : Option ContainerStatus :=
  (Shapes.containerStatus.fit? v).bind ContainerStatus.ofSettled?

/-- The condition of a pod that a settled document holds. -/
def PodCondition.ofSettled? (v : Value) : Option PodCondition := do
  let ms ← v.members?
  return ⟨← ms.string? "type", ← ms.string? "status", ms.others ["type", "status"]⟩

/-- The status of a pod that a settled document holds. -/
def PodStatus.ofSettled? (v : Value) : Option PodStatus := do
  let ms ← v.members?
  return {
    phase := ← ms.text? "phase"
    conditions := ← ms.list? "conditions" PodCondition.ofSettled?
    containerStatuses := ← ms.list? "containerStatuses" ContainerStatus.ofSettled?
    hostIp := ← ms.text? "hostIP"
    podIp := ← ms.text? "podIP"
    startTime := ← ms.opt? "startTime" Value.stamp?
    others := ms.others ["phase", "conditions", "containerStatuses", "hostIP", "podIP",
      "startTime"] }

/-- The status of a pod that a document holds. -/
def PodStatus.ofJson? (v : Value) : Option PodStatus :=
  (Shapes.podStatus.fit? v).bind PodStatus.ofSettled?

end VirtualNode.Kube
