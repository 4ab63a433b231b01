import VirtualNode.Kube.Shapes.Container

/-!
# The shape of pods

All members that a pod may have.  The specification of a pod is read but never written, so that
members for which something would stand are left out where they are absent; the status of a pod is
written as well.
-/

set_option autoImplicit false

namespace VirtualNode.Kube.Shapes

open Json (Need Shape ShapeField)

/-! ## Where a pod runs -/

/-- A selection of nodes. -/
def nodeSelectorTerm : Shape :=
  record (optionals requirements ["matchExpressions", "matchFields"])

/-- Two members that say what is preferred and what is required. -/
def preferences (preferred required : Shape) : Shape :=
  record [optional "preferredDuringSchedulingIgnoredDuringExecution" (.list preferred),
    optional "requiredDuringSchedulingIgnoredDuringExecution" required]

/-- The nodes on which a pod should run. -/
def nodeAffinity : Shape :=
  preferences (record [optional "preference" nodeSelectorTerm, optional "weight" int32])
    (record [optional "nodeSelectorTerms" (.list nodeSelectorTerm)])

/-- Pods near to which a pod should run. -/
def podAffinityTerm : Shape :=
  record (optionals labelSelector ["labelSelector", "namespaceSelector"]
    ++ optionals texts ["matchLabelKeys", "mismatchLabelKeys", "namespaces"]
    ++ [optional "topologyKey" .text])

/-- The pods near to which, or away from which, a pod should run. -/
def podAffinity : Shape :=
  preferences (record [optional "podAffinityTerm" podAffinityTerm, optional "weight" int32])
    (.list podAffinityTerm)

/-- Where a pod should run. -/
def affinity : Shape :=
  record (optional "nodeAffinity" nodeAffinity
    :: optionals podAffinity ["podAffinity", "podAntiAffinity"])

/-- A mark on a node that a pod tolerates. -/
def toleration : Shape :=
  record (optional "tolerationSeconds" int64
    :: optionals .text ["effect", "key", "operator", "value"])

/-- How pods are spread over parts of the cluster. -/
def spreadConstraint : Shape :=
  record ([optional "labelSelector" labelSelector, optional "matchLabelKeys" texts]
    ++ optionals int32 ["maxSkew", "minDomains"]
    ++ optionals .text ["nodeAffinityPolicy", "nodeTaintsPolicy", "topologyKey",
      "whenUnsatisfiable"])

/-! ## The specification -/

/-- The security settings of a pod. -/
def podSecurityContext : Shape :=
  record (securityFields ++ [optional "fsGroup" int64, optional "fsGroupChangePolicy" .text,
    optional "supplementalGroups" (.list int64), optional "sysctls" namedTexts])

/-- How a pod looks up names. -/
def nameService : Shape :=
  record (optional "options" namedTexts :: optionals texts ["nameservers", "searches"])

/-- A resource that a pod claims. -/
def resourceClaim : Shape :=
  record [optional "name" .text,
    optional "source" (record (optionals .text ["resourceClaimName", "resourceClaimTemplateName"]))]

/-- The specification of a pod. -/
def podSpec : Shape :=
  record (optionals .text ["dnsPolicy", "hostname", "nodeName", "preemptionPolicy",
      "priorityClassName", "restartPolicy", "runtimeClassName", "schedulerName", "serviceAccount",
      "serviceAccountName", "subdomain"]
    ++ optionals .truth ["automountServiceAccountToken", "enableServiceLinks", "hostIPC",
      "hostNetwork", "hostPID", "hostUsers", "setHostnameAsFQDN", "shareProcessNamespace"]
    ++ optionals int64 ["activeDeadlineSeconds", "terminationGracePeriodSeconds"]
    ++ optionals textTable ["nodeSelector", "overhead"]
    ++ optionals (.list container) ["containers", "initContainers"]
    ++ [optional "affinity" affinity, optional "dnsConfig" nameService,
      optional "ephemeralContainers" (.list ephemeralContainer),
      optional "hostAliases" (.list (record [optional "hostnames" texts, optional "ip" .text])),
      optional "imagePullSecrets" (.list nameReference), optional "os" nameReference,
      optional "priority" int32,
      optional "readinessGates" (.list (record [optional "conditionType" .text])),
      optional "resourceClaims" (.list resourceClaim),
      optional "schedulingGates" (.list nameReference),
      optional "securityContext" podSecurityContext, optional "tolerations" (.list toleration),
      optional "topologySpreadConstraints" (.list spreadConstraint),
      optional "volumes" (.list volume)])

/-! ## The status -/

/-- A condition of a pod. -/
def podCondition : Shape :=
  record (standingTexts ["status", "type"] ++ optionals .text ["message", "reason"]
    ++ optionals .stamp ["lastProbeTime", "lastTransitionTime"])

/-- An address. -/
def addresses : Shape := .list (record (standingTexts ["ip"]))

/-- What became of a claimed resource. -/
def resourceClaimStatus : Shape :=
  record (optional "resourceClaimName" .text :: standingTexts ["name"])

/-- The status of a pod. -/
def podStatus : Shape :=
  record (optionals .text ["hostIP", "message", "nominatedNodeName", "phase", "podIP", "qosClass",
      "reason", "resize"]
    ++ optionals (.list containerStatus) ["containerStatuses", "ephemeralContainerStatuses",
      "initContainerStatuses"]
    ++ optionals addresses ["hostIPs", "podIPs"]
    ++ [optional "conditions" (.list podCondition),
      optional "resourceClaimStatuses" (.list resourceClaimStatus),
      optional "startTime" .instant])

/-! ## Pods -/

/-- A pod. -/
def pod : Shape :=
  record (typeFields "Pod" ++ [optional "metadata" objectMeta, optional "spec" podSpec,
    optional "status" podStatus])

/-- A list of pods.  Its type does not matter. -/
def podList : Shape :=
  .object .strict [("metadata", Need.skippable, listMeta),
    ("items", ⟨.refuse, .stand (.list [])⟩, .list pod)]

end VirtualNode.Kube.Shapes
