import VirtualNode.Kube.Node
import VirtualNode.Text.Blank

/-!
# The virtual node

The node that stands for a base in the cluster.  It carries one taint, so that only pods that
ask for it come to it, and one condition of type Ready, which follows the base: the node is
Running while the base is alive and Pending else.

Main definitions: `virtualNodeName` makes a node name from an id, `Node.build` writes the parts
that belong to the controller, `Node.markReady` and `Node.markNotReady` set the condition and say
whether it flipped.
-/

set_option autoImplicit false

namespace VirtualNode.Kube

/-- What is shown of a base on its node. -/
structure BaseInfo where
  nodeId : String
  nodeIp : String
  bizName : String
  techStack : String
  version : String
  deriving DecidableEq, Repr, Inhabited

/-! ## The name -/

/-- The lower-case form of an ASCII letter; other characters stay. -/
def lower (c : Char) : Char :=
  if 'A' ≤ c ∧ c ≤ 'Z' then Char.ofNat (c.toNat + 32) else c

/-- A character that may stand in a node name. -/
def isNameChar (c : Char) : Bool :=
  ('a' ≤ c && c ≤ 'z') || ('0' ≤ c && c ≤ '9') || c = '-' || c = '.'

/-- The character that stands for `c` in a node name. -/
def nameChar (c : Char) : Char :=
  let c := lower c
  if isNameChar c then c else '-'

/-- A character that may not stand at an end of a node name. -/
def isNameEdge (c : Char) : Bool := c = '-' || c = '.'

/-- The name of the node with a given id. -/
def virtualNodeName (nodeId : String) : String :=
  match Text.trimBy isNameEdge (nodeId.toList.map nameChar) with
  | [] => "vnode"
  | cs => "vnode-" ++ String.ofList cs

/-! ## Building -/

/-- The taint of a virtual node. -/
def virtualTaint : Taint :=
  ⟨"schedule.koupleless.io/virtual-node", some "True", "NoExecute", none⟩

/-- The resources that a virtual node offers: more than its pods will ever use. -/
def plenty : List (String × String) :=
  [("cpu", "1000"), ("memory", "1000Gi"), ("pods", "65535")]

/-- Sets the value of a label. -/
def setLabel (labels : List (String × String)) (name value : String) : List (String × String) :=
  labels.filter (fun l => l.1 ≠ name) ++ [(name, value)]

/-- The labels of a virtual node. -/
def virtualLabels (info : BaseInfo) : List (String × String) :=
  [("type", "virtual-kubelet"), ("kubernetes.io/role", "agent"),
   ("base.koupleless.io/name", info.bizName), ("base.koupleless.io/stack", info.techStack),
   ("base.koupleless.io/version", info.version)]

/-- The type of the condition that follows the base. -/
def readyType : String := "Ready"

/-- The condition of a node whose base has not been heard of. -/
def unheardCondition : NodeCondition :=
  ⟨readyType, "False", some "BaseNotReady", some "waiting for base heartbeat", none, none⟩

/-- What the node of a base says about its machine. -/
def virtualInfo (info : BaseInfo) : NodeInfo :=
  ⟨"amd64", "", "", "", "", info.version, "", "linux", "", ""⟩

namespace Node

/-- Writes the parts of a node that belong to the controller.  A name, foreign labels and all
parts that belong to others stay. -/
def build (info : BaseInfo) (n : Node) : Node :=
  { n with
    name := some (n.name.getD (virtualNodeName info.nodeId))
    labels := some ((virtualLabels info).foldl (fun ls l => setLabel ls l.1 l.2)
      (n.labels.getD []))
    spec := some { n.spec.getD .empty with taints := some [virtualTaint] }
    status := some { n.status.getD .empty with
      phase := some "Pending"
      addresses := if info.nodeIp = "" then none else some [⟨"InternalIP", info.nodeIp⟩]
      capacity := some plenty
      allocatable := some plenty
      info := some (virtualInfo info)
      conditions := some [unheardCondition] } }

/-! ## Readiness -/

/-- The first condition that follows the base. -/
def readyCondition? (n : Node) : Option NodeCondition :=
  n.conditions.find? fun c => c.type = readyType

/-- Whether the node is ready. -/
def isReady (n : Node) : Bool :=
  match n.readyCondition? with
  | some c => c.status = "True"
  | none => false

/-- A condition after a mark, `flipped` saying whether readiness changed. -/
def marked (c : NodeCondition) (ready flipped : Bool) (message : String) (now : Time.Stamp) :
    NodeCondition :=
  { c with
    status := if ready then "True" else "False"
    reason := some (if ready then "BaseReady" else "BaseNotReady")
    message := some message
    lastHeartbeat := some now
    lastTransition := if flipped || c.lastTransition.isNone then some now else c.lastTransition }

/-- Changes the first condition that follows the base, which is put last if there is none. -/
def updateReady (f : NodeCondition → NodeCondition) : List NodeCondition → List NodeCondition
  | [] => [f ⟨readyType, "", none, none, none, none⟩]
  | c :: cs => if c.type = readyType then f c :: cs else c :: updateReady f cs

/-- Sets readiness.  The answer says whether it flipped. -/
def mark (ready : Bool) (message : String) (now : Time.Stamp) (n : Node) : Node × Bool :=
  let flipped := n.isReady != ready
  let status := n.status.getD .empty
  ({ n with status := some { status with
      phase := some (if ready then "Running" else "Pending")
      conditions := some
        (updateReady (fun c => marked c ready flipped message now) (status.conditions.getD [])) } },
    flipped)

/-- Marks the node as running.  The answer says whether readiness flipped. -/
def markReady (now : Time.Stamp) (n : Node) : Node × Bool :=
  n.mark true "base is alive" now

/-- Marks the node as pending.  The answer says whether readiness flipped. -/
def markNotReady (message : String) (now : Time.Stamp) (n : Node) : Node × Bool :=
  n.mark false message now

end Node

end VirtualNode.Kube
