import VirtualNode.Kube.Shapes.Common

/-!
# The shape of volumes

All kinds of volumes that a pod may have.  Volumes are read but never written, so that members for
which something would stand are left out where they are absent.
-/

set_option autoImplicit false

namespace VirtualNode.Kube.Shapes

open Json (Shape ShapeField)

/-- A reference by name. -/
def nameReference : Shape := record (optionals .text ["name"])

/-- Conditions on the values of labels. -/
def requirements : Shape :=
  .list (record (optional "values" texts :: optionals .text ["key", "operator"]))

/-- A selection by labels. -/
def labelSelector : Shape :=
  record [optional "matchExpressions" requirements, optional "matchLabels" textTable]

/-- Files made of the entries of a map. -/
def entryFiles : Shape :=
  .list (record (optional "mode" int32 :: optionals .text ["key", "path"]))

/-- A member of the pod itself. -/
def fieldReference : Shape := record (optionals .text ["apiVersion", "fieldPath"])

/-- A resource of a container. -/
def resourceReference : Shape :=
  record (optionals .text ["containerName", "divisor", "resource"])

/-- Files made of what is known of the pod. -/
def podFiles : Shape :=
  .list (record [optional "fieldRef" fieldReference, optional "mode" int32, optional "path" .text,
    optional "resourceFieldRef" resourceReference])

/-- A source of files that may be missing. -/
def filesFrom (nameField : String) (more : List ShapeField) : Shape :=
  record ([optional "items" entryFiles, optional nameField .text, optional "optional" .truth]
    ++ more)

/-- A volume that is described by texts, and that may be for reading only. -/
def plainVolume (names : List String) (more : List ShapeField) : Shape :=
  record (optional "readOnly" .truth :: optionals .text names ++ more)

/-- The secret with which a volume is opened. -/
def secretField : ShapeField := optional "secretRef" nameReference

/-- What a claim on storage asks for. -/
def claimSpec : Shape :=
  record (optionals .text ["storageClassName", "volumeAttributesClassName", "volumeMode",
      "volumeName"]
    ++ [optional "accessModes" texts,
      optional "dataSource" (record (optionals .text ["apiGroup", "kind", "name"])),
      optional "dataSourceRef" (record (optionals .text ["apiGroup", "kind", "name", "namespace"])),
      optional "resources" (record (optionals textTable ["limits", "requests"])),
      optional "selector" labelSelector])

/-- A claim that is made together with the pod. -/
def claimTemplate : Shape := record [optional "metadata" objectMeta, optional "spec" claimSpec]

/-- A token by which a pod shows who it is. -/
def tokenSource : Shape :=
  record (optional "expirationSeconds" int64 :: optionals .text ["audience", "path"])

/-- A bundle of certificates. -/
def trustBundle : Shape :=
  record ([optional "labelSelector" labelSelector, optional "optional" .truth]
    ++ optionals .text ["name", "path", "signerName"])

/-- One of several sources of a volume. -/
def projection : Shape :=
  record [optional "clusterTrustBundle" trustBundle, optional "configMap" (filesFrom "name" []),
    optional "downwardAPI" (record [optional "items" podFiles]),
    optional "secret" (filesFrom "name" []), optional "serviceAccountToken" tokenSource]

/-- How files get their permissions if nothing else is said. -/
def defaultMode : ShapeField := optional "defaultMode" int32

/-- The volumes of storage networks. -/
def networkVolumes : List ShapeField :=
  [optional "cephfs" (plainVolume ["path", "secretFile", "user"]
      [optional "monitors" texts, secretField]),
    optional "cinder" (plainVolume ["fsType", "volumeID"] [secretField]),
    optional "fc" (plainVolume ["fsType"]
      (optional "lun" int32 :: optionals texts ["targetWWNs", "wwids"])),
    optional "flocker" (record (optionals .text ["datasetName", "datasetUUID"])),
    optional "glusterfs" (plainVolume ["endpoints", "path"] []),
    optional "iscsi" (plainVolume ["fsType", "initiatorName", "iqn", "iscsiInterface",
      "targetPortal"] ([optional "lun" int32, optional "portals" texts, secretField]
        ++ optionals .truth ["chapAuthDiscovery", "chapAuthSession"])),
    optional "nfs" (plainVolume ["path", "server"] []),
    optional "portworxVolume" (plainVolume ["fsType", "volumeID"] []),
    optional "quobyte" (plainVolume ["group", "registry", "tenant", "user", "volume"] []),
    optional "rbd" (plainVolume ["fsType", "image", "keyring", "pool", "user"]
      [optional "monitors" texts, secretField]),
    optional "scaleIO" (plainVolume ["fsType", "gateway", "protectionDomain", "storageMode",
      "storagePool", "system", "volumeName"] [optional "sslEnabled" .truth, secretField]),
    optional "storageos" (plainVolume ["fsType", "volumeName", "volumeNamespace"] [secretField])]

/-- The volumes of machines and of those who rent them out. -/
def machineVolumes : List ShapeField :=
  [optional "awsElasticBlockStore" (plainVolume ["fsType", "volumeID"]
      [optional "partition" int32]),
    optional "azureDisk" (plainVolume ["cachingMode", "diskName", "diskURI", "fsType", "kind"] []),
    optional "azureFile" (plainVolume ["secretName", "shareName"] []),
    optional "gcePersistentDisk" (plainVolume ["fsType", "pdName"] [optional "partition" int32]),
    optional "hostPath" (record (optionals .text ["path", "type"])),
    optional "photonPersistentDisk" (record (optionals .text ["fsType", "pdID"])),
    optional "vsphereVolume" (record (optionals .text ["fsType", "storagePolicyID",
      "storagePolicyName", "volumePath"]))]

/-- The volumes that the cluster makes. -/
def clusterVolumes : List ShapeField :=
  [optional "configMap" (filesFrom "name" [defaultMode]),
    optional "csi" (plainVolume ["driver", "fsType"]
      [optional "nodePublishSecretRef" nameReference, optional "volumeAttributes" textTable]),
    optional "downwardAPI" (record [defaultMode, optional "items" podFiles]),
    optional "emptyDir" (record (optionals .text ["medium", "sizeLimit"])),
    optional "ephemeral" (record [optional "volumeClaimTemplate" claimTemplate]),
    optional "flexVolume" (plainVolume ["driver", "fsType"]
      [optional "options" textTable, secretField]),
    optional "gitRepo" (record (optionals .text ["directory", "repository", "revision"])),
    optional "persistentVolumeClaim" (plainVolume ["claimName"] []),
    optional "projected" (record [defaultMode, optional "sources" (.list projection)]),
    optional "secret" (filesFrom "secretName" [defaultMode])]

/-- A volume. -/
def volume : Shape :=
  record (optional "name" .text :: networkVolumes ++ machineVolumes ++ clusterVolumes)

end VirtualNode.Kube.Shapes
