import VirtualNode.Kube.Shapes.Volume

/-!
# The shape of containers

All members that a container of a pod may have, and those of its status.  Containers are read but
never written, so that members for which something would stand are left out where they are absent;
their status is written as well.
-/

set_option autoImplicit false

namespace VirtualNode.Kube.Shapes

open Json (Shape ShapeField)

/-! ## Containers -/

/-- An entry of a map or of a secret. -/
def entryReference : Shape :=
  record (optional "optional" .truth :: optionals .text ["key", "name"])

/-- Where the value of a variable comes from. -/
def variableSource : Shape :=
  record [optional "configMapKeyRef" entryReference, optional "fieldRef" fieldReference,
    optional "resourceFieldRef" resourceReference, optional "secretKeyRef" entryReference]

/-- A variable in the environment of a container. -/
def environmentVariable : Shape :=
  record (optional "valueFrom" variableSource :: optionals .text ["name", "value"])

/-- A map or a secret that may be missing. -/
def optionalReference : Shape := record [optional "name" .text, optional "optional" .truth]

/-- A source of many variables. -/
def variablesSource : Shape :=
  record [optional "configMapRef" optionalReference, optional "prefix" .text,
    optional "secretRef" optionalReference]

/-- A name with a value. -/
def namedTexts : Shape := .list (record (optionals .text ["name", "value"]))

/-- A command that is run in a container. -/
def execAction : Shape := record [optional "command" texts]

/-- A request that is made to a container. -/
def requestAction : Shape :=
  record ([optional "httpHeaders" namedTexts, optional "port" port]
    ++ optionals .text ["host", "path", "scheme"])

/-- A connection that is made to a container. -/
def connectAction : Shape := record [optional "host" .text, optional "port" port]

/-- What is done at a turn in the life of a container. -/
def lifecycleHandler : Shape :=
  record [optional "exec" execAction, optional "httpGet" requestAction,
    optional "sleep" (record [optional "seconds" int64]), optional "tcpSocket" connectAction]

/-- How the health of a container is found out. -/
def probe : Shape :=
  record ([optional "exec" execAction,
      optional "grpc" (record [optional "port" int32, optional "service" .text]),
      optional "httpGet" requestAction, optional "tcpSocket" connectAction,
      optional "terminationGracePeriodSeconds" int64]
    ++ optionals int32 ["failureThreshold", "initialDelaySeconds", "periodSeconds",
      "successThreshold", "timeoutSeconds"])

/-- A profile that restricts a container. -/
def profile : Shape := record (optionals .text ["localhostProfile", "type"])

/-- The settings of a security module of the kernel. -/
def kernelLabels : Shape := record (optionals .text ["level", "role", "type", "user"])

/-- Security settings for another operating system. -/
def windowsOptions : Shape :=
  record (optional "hostProcess" .truth
    :: optionals .text ["gmsaCredentialSpec", "gmsaCredentialSpecName", "runAsUserName"])

/-- Security settings that containers and pods share. -/
def securityFields : List ShapeField :=
  [optional "appArmorProfile" profile, optional "runAsNonRoot" .truth,
    optional "seLinuxOptions" kernelLabels, optional "seccompProfile" profile,
    optional "windowsOptions" windowsOptions] ++ optionals int64 ["runAsGroup", "runAsUser"]

/-- The security settings of a container. -/
def securityContext : Shape :=
  record (securityFields
    ++ optionals .truth ["allowPrivilegeEscalation", "privileged", "readOnlyRootFilesystem"]
    ++ [optional "capabilities" (record (optionals texts ["add", "drop"])),
      optional "procMount" .text])

/-- A port at which a container listens. -/
def containerPort : Shape :=
  record (optionals int32 ["containerPort", "hostPort"]
    ++ optionals .text ["hostIP", "name", "protocol"])

/-- Where a volume is seen in a container. -/
def volumeMount : Shape :=
  record (optional "readOnly" .truth :: optionals .text ["mountPath", "mountPropagation", "name",
    "recursiveReadOnly", "subPath", "subPathExpr"])

/-- The members of all kinds of containers. -/
def containerFields : List ShapeField :=
  optionals .text ["image", "imagePullPolicy", "name", "restartPolicy", "terminationMessagePath",
      "terminationMessagePolicy", "workingDir"]
    ++ optionals texts ["args", "command"] ++ optionals .truth ["stdin", "stdinOnce", "tty"]
    ++ optionals probe ["livenessProbe", "readinessProbe", "startupProbe"]
    ++ [optional "env" (.list environmentVariable), optional "envFrom" (.list variablesSource),
      optional "lifecycle" (record (optionals lifecycleHandler ["postStart", "preStop"])),
      optional "ports" (.list containerPort),
      optional "resizePolicy" (.list (record (optionals .text ["resourceName", "restartPolicy"]))),
      optional "resources" resources, optional "securityContext" securityContext,
      optional "volumeDevices" (.list (record (optionals .text ["devicePath", "name"]))),
      optional "volumeMounts" (.list volumeMount)]

/-- A container. -/
def container : Shape := record containerFields

/-- A container that is added to a pod to look into another one. -/
def ephemeralContainer : Shape :=
  record (optional "targetContainerName" .text :: containerFields)

/-! ## The status of containers -/

/-- How a container ended. -/
def terminated : Shape :=
  record ([standingNumber "exitCode" int32, optional "signal" int32]
    ++ optionals .text ["containerID", "message", "reason"]
    ++ optionals .stamp ["finishedAt", "startedAt"])

/-- The state of a container. -/
def containerState : Shape :=
  record [optional "running" (record [optional "startedAt" .stamp]),
    optional "terminated" terminated,
    optional "waiting" (record (optionals .text ["message", "reason"]))]

/-- How a volume is seen in a container. -/
def mountStatus : Shape :=
  record (standingTexts ["mountPath", "name"]
    ++ [optional "readOnly" .truth, optional "recursiveReadOnly" .text])

/-- The status of a container. -/
def containerStatus : Shape :=
  record (standingTexts ["image", "imageID", "name"]
    ++ [standingTruth "ready", standingNumber "restartCount" int32,
      optional "allocatedResources" textTable, optional "containerID" .text,
      optional "resources" resources, optional "started" .truth,
      optional "volumeMounts" (.list mountStatus)]
    ++ optionals containerState ["lastState", "state"])

end VirtualNode.Kube.Shapes
