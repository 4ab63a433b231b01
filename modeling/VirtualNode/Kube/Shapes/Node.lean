import VirtualNode.Kube.Shapes.Common

/-!
# The shape of nodes

All members that a node may have.
-/

set_option autoImplicit false

namespace VirtualNode.Kube.Shapes

open Json (Need Shape)

/-- A mark on a node. -/
def taint : Shape :=
  record (standingTexts ["effect", "key"] ++ [optional "timeAdded" .stamp, optional "value" .text])

/-- Where a node finds its settings. -/
def configSource : Shape :=
  record [optional "configMap" (record (standingTexts ["kubeletConfigKey", "name", "namespace"]
    ++ optionals .text ["resourceVersion", "uid"]))]

/-- The specification of a node. -/
def nodeSpec : Shape :=
  record (optionals .text ["externalID", "podCIDR", "providerID"]
    ++ [optional "configSource" configSource, optional "podCIDRs" texts,
      optional "taints" (.list taint), optional "unschedulable" .truth])

/-- A condition of a node. -/
def nodeCondition : Shape :=
  record (standingTexts ["status", "type"] ++ optionals .text ["message", "reason"]
    ++ optionals .stamp ["lastHeartbeatTime", "lastTransitionTime"])

/-- The settings with which a node works. -/
def nodeConfig : Shape :=
  record (optionals configSource ["active", "assigned", "lastKnownGood"]
    ++ [optional "error" .text])

/-- The ports at which a node listens. -/
def daemonEndpoints : Shape :=
  record [optional "kubeletEndpoint" (record [standingNumber "Port" int32])]

/-- An image that a node has. -/
def nodeImage : Shape := record [optional "names" texts, optional "sizeBytes" int64]

/-- What a node says about its machine. -/
def nodeInfo : Shape :=
  record (standingTexts ["architecture", "bootID", "containerRuntimeVersion", "kernelVersion",
    "kubeProxyVersion", "kubeletVersion", "machineID", "operatingSystem", "osImage",
    "systemUUID"])

/-- A way in which a node runs containers. -/
def runtimeHandler : Shape :=
  record [optional "features" (record [optional "recursiveReadOnlyMounts" .truth]),
    optional "name" .text]

/-- The status of a node. -/
def nodeStatus : Shape :=
  record ([optional "addresses" (.list (record (standingTexts ["address", "type"]))),
      optional "conditions" (.list nodeCondition), optional "config" nodeConfig,
      optional "daemonEndpoints" daemonEndpoints, optional "images" (.list nodeImage),
      optional "nodeInfo" nodeInfo, optional "phase" .text,
      optional "runtimeHandlers" (.list runtimeHandler),
      optional "volumesAttached" (.list (record (standingTexts ["devicePath", "name"]))),
      optional "volumesInUse" texts]
    ++ optionals textTable ["allocatable", "capacity"])

/-- A node. -/
def node : Shape :=
  record (typeFields "Node" ++ [optional "metadata" objectMeta, optional "spec" nodeSpec,
    optional "status" nodeStatus])

end VirtualNode.Kube.Shapes
