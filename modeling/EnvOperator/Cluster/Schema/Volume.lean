import EnvOperator.Cluster.Schema.Basic

/-! # Shapes of volumes -/
namespace EnvOperator
namespace Schema

open Shape

def keyToPath : Shape := recordOf [req "key" text, opt "mode" int32, req "path" text]

def fieldSelector : Shape := recordOf [opt "apiVersion" text, req "fieldPath" text]

def resourceFieldSelector : Shape :=
  recordOf [opt "containerName" text, opt "divisor" text, req "resource" text]

def downwardFile : Shape :=
  recordOf [opt "fieldRef" fieldSelector, opt "mode" int32, req "path" text,
    opt "resourceFieldRef" resourceFieldSelector]

def claimSpec : Shape :=
  recordOf [opt "accessModes" texts, opt "dataSource" typedReference,
    opt "dataSourceRef"
      (recordOf [opt "apiGroup" text, req "kind" text, req "name" text, opt "namespace" text]),
    opt "resources" (recordOf [opt "limits" quantities, opt "requests" quantities]),
    opt "selector" labelSelector, opt "storageClassName" text, opt "volumeAttributesClassName" text,
    opt "volumeMode" text, opt "volumeName" text]

def projection : Shape :=
  recordOf [
    opt "clusterTrustBundle"
      (recordOf [opt "labelSelector" labelSelector, opt "name" text, opt "optional" flag,
      req "path" text, opt "signerName" text]),
    opt "configMap" (recordOf [opt "items" (list keyToPath), req "name" text, opt "optional" flag]),
    opt "downwardAPI" (recordOf [opt "items" (list downwardFile)]),
    opt "secret" (recordOf [opt "items" (list keyToPath), req "name" text, opt "optional" flag]),
    opt "serviceAccountToken"
      (recordOf [opt "audience" text, opt "expirationSeconds" int64, req "path" text])]

/-- Volumes of one provider of block or file storage each. -/
def providerVolumes : List (String × Presence × Shape) :=
  [opt "awsElasticBlockStore"
      (recordOf [opt "fsType" text, opt "partition" int32, opt "readOnly" flag,
        req "volumeID" text]),
    opt "azureDisk"
      (recordOf [opt "cachingMode" text, req "diskName" text, req "diskURI" text, opt "fsType" text,
      opt "kind" text, opt "readOnly" flag]),
    opt "azureFile" (recordOf [opt "readOnly" flag, req "secretName" text, req "shareName" text]),
    opt "cephfs"
      (recordOf [req "monitors" texts, opt "path" text, opt "readOnly" flag, opt "secretFile" text,
      opt "secretRef" localReference, opt "user" text]),
    opt "cinder"
      (recordOf [opt "fsType" text, opt "readOnly" flag, opt "secretRef" localReference,
        req "volumeID" text]),
    opt "fc"
      (recordOf [opt "fsType" text, opt "lun" int32, opt "readOnly" flag, opt "targetWWNs" texts,
      opt "wwids" texts]),
    opt "flexVolume" (recordOf [req "driver" text, opt "fsType" text, opt "options" (map text),
      opt "readOnly" flag, opt "secretRef" localReference]),
    opt "flocker" (recordOf [opt "datasetName" text, opt "datasetUUID" text]),
    opt "gcePersistentDisk"
      (recordOf [opt "fsType" text, opt "partition" int32, req "pdName" text, opt "readOnly" flag]),
    opt "gitRepo" (recordOf [opt "directory" text, req "repository" text, opt "revision" text]),
    opt "glusterfs" (recordOf [req "endpoints" text, req "path" text, opt "readOnly" flag]),
    opt "iscsi"
      (recordOf [opt "chapAuthDiscovery" flag, opt "chapAuthSession" flag, opt "fsType" text,
      opt "initiatorName" text, req "iqn" text, opt "iscsiInterface" text, req "lun" int32,
      opt "portals" texts, opt "readOnly" flag, opt "secretRef" localReference,
      req "targetPortal" text]),
    opt "nfs" (recordOf [req "path" text, opt "readOnly" flag, req "server" text]),
    opt "photonPersistentDisk" (recordOf [opt "fsType" text, req "pdID" text]),
    opt "portworxVolume" (recordOf [opt "fsType" text, opt "readOnly" flag, req "volumeID" text]),
    opt "quobyte"
      (recordOf [opt "group" text, opt "readOnly" flag, req "registry" text, opt "tenant" text,
      opt "user" text, req "volume" text]),
    opt "rbd"
      (recordOf [opt "fsType" text, req "image" text, opt "keyring" text, req "monitors" texts,
      opt "pool" text, opt "readOnly" flag, opt "secretRef" localReference, opt "user" text]),
    opt "scaleIO" (recordOf [opt "fsType" text, req "gateway" text, opt "protectionDomain" text,
      opt "readOnly" flag, req "secretRef" localReference, opt "sslEnabled" flag,
      opt "storageMode" text, opt "storagePool" text, req "system" text, opt "volumeName" text]),
    opt "storageos"
      (recordOf [opt "fsType" text, opt "readOnly" flag, opt "secretRef" localReference,
      opt "volumeName" text, opt "volumeNamespace" text]),
    opt "vsphereVolume"
      (recordOf [opt "fsType" text, opt "storagePolicyID" text, opt "storagePolicyName" text,
      req "volumePath" text])]

def volume : Shape :=
  recordOf ([
    opt "configMap"
      (recordOf [opt "defaultMode" int32, opt "items" (list keyToPath), req "name" text,
      opt "optional" flag]),
    opt "csi"
      (recordOf [req "driver" text, opt "fsType" text, opt "nodePublishSecretRef" localReference,
      opt "readOnly" flag, opt "volumeAttributes" (map text)]),
    opt "downwardAPI" (recordOf [opt "defaultMode" int32, opt "items" (list downwardFile)]),
    opt "emptyDir" (recordOf [opt "medium" text, opt "sizeLimit" text]),
    opt "ephemeral"
      (recordOf
        [opt "volumeClaimTemplate" (recordOf [opt "metadata" objectMeta, req "spec" claimSpec])]),
    opt "hostPath" (recordOf [req "path" text, opt "type" text]),
    opt "image" (recordOf [opt "pullPolicy" text, opt "reference" text]),
    req "name" text,
    opt "persistentVolumeClaim" (recordOf [req "claimName" text, opt "readOnly" flag]),
    opt "projected" (recordOf [opt "defaultMode" int32, opt "sources" (list projection)]),
    opt "secret"
      (recordOf [opt "defaultMode" int32, opt "items" (list keyToPath), opt "optional" flag,
      opt "secretName" text])] ++ providerVolumes)

end Schema
end EnvOperator
