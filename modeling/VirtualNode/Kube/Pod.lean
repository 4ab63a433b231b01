import VirtualNode.Biz.Descriptor
import VirtualNode.Json.Lookup
import VirtualNode.Kube.Shapes.Pod

/-!
# Pods

What the controller needs to know of a pod that the cluster has bound to the node: its name, its
containers, whether it is being deleted and when it was started.  Every container stands for a
module: its name is the name of the module, its image says where the artifact lies, and the
variable BIZ_VERSION of its environment holds the version.
-/

set_option autoImplicit false

namespace VirtualNode.Kube

/-- A variable in the environment of a container. -/
structure Variable where
  name : String
  value : Option String
  deriving DecidableEq, Repr, Inhabited

/-- A container of a pod. -/
structure Container where
  name : String
  image : Option String
  environment : List Variable
  deriving DecidableEq, Repr, Inhabited

/-- A pod. -/
structure Pod where
  spaceName : Option String
  name : Option String
  /-- Set when the pod is being deleted. -/
  deletionTime : Option Time.Stamp
  containers : List Container
  /-- The time at which the pod was started, as the cluster has stored it. -/
  startTime : Option Time.Stamp
  deriving DecidableEq, Repr, Inhabited

/-- The variable that holds the version of a module. -/
def versionVariable : String := "BIZ_VERSION"

/-- The version of the module for which a container stands: the value of the first variable of
that name. -/
def Container.version (c : Container) : String :=
  ((c.environment.find? fun v => v.name = versionVariable).bind Variable.value).getD ""

/-- The module for which a container stands. -/
def Container.descriptor (c : Container) : Biz.Descriptor :=
  ⟨c.name, c.version, c.image.getD ""⟩

namespace Pod

/-- The key of a pod: its namespace and its name, joined by a slash. -/
def key (p : Pod) : String :=
  p.spaceName.getD "" ++ "/" ++ p.name.getD ""

/-- The modules that a pod wants, in the order of its containers. -/
def descriptors (p : Pod) : List Biz.Descriptor :=
  p.containers.map Container.descriptor

/-- Whether the pod is being deleted. -/
def isTerminating (p : Pod) : Bool := p.deletionTime.isSome

/-- The namespace under which the pod is addressed. -/
def addressSpace (p : Pod) : String := p.spaceName.getD "default"

/-- The name under which the pod is addressed. -/
def addressName (p : Pod) : String := p.name.getD ""

end Pod

/-! ## Reading -/

open Json (Members Value)

/-- The variable that a settled document holds. -/
def Variable.ofSettled? (v : Value) : Option Variable := do
  let ms ← v.members?
  return ⟨← ms.string? "name", ← ms.text? "value"⟩

/-- The container that a settled document holds. -/
def Container.ofSettled? (v : Value) : Option Container := do
  let ms ← v.members?
  let environment ← ms.list? "env" Variable.ofSettled?
  return ⟨← ms.string? "name", ← ms.text? "image", environment.getD []⟩

/-- The container that a document holds. -/
def Container.ofJson? (v : Value) : Option Container :=
  (Shapes.container.fit? v).bind Container.ofSettled?

/-- The pod that a settled document holds. -/
def Pod.ofSettled? (v : Value) : Option Pod := do
  let ms ← v.members?
  let header ← ms.withDefault? "metadata" Value.members? []
  let spec ← ms.withDefault? "spec" Value.members? []
  let status ← ms.withDefault? "status" Value.members? []
  let containers ← spec.list? "containers" Container.ofSettled?
  return {
    spaceName := ← header.text? "namespace"
    name := ← header.text? "name"
    deletionTime := ← header.opt? "deletionTimestamp" Value.stamp?
    containers := containers.getD []
    startTime := ← status.opt? "startTime" Value.stamp? }

/-- The pod that a document holds. -/
def Pod.ofJson? (v : Value) : Option Pod :=
  (Shapes.pod.fit? v).bind Pod.ofSettled?

/-- The pod that a text holds. -/
def Pod.read? (text : String) : Option Pod :=
  (Shapes.pod.read? text).bind Pod.ofSettled?

/-- The pods that a text lists. -/
def Pod.readList? (text : String) : Option (List Pod) := do
  let ms ← (← Shapes.podList.read? text).members?
  let pods ← ms.list? "items" Pod.ofSettled?
  return pods.getD []

end VirtualNode.Kube
