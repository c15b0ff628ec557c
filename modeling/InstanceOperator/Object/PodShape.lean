import InstanceOperator.Object.Shape

/-!
# Shapes of pod fields

The fields of a pod's specification and of its containers that this program carries along, as the
cluster's core API defines them in version 1.30. The fields that the program looks at are typed and
do not occur here.
-/

namespace InstanceOperator.Shape

/-! ## Common parts -/

def quantity : Shape := .string

def strings : Shape := .list .string

def stringMap : Shape := .map .string

/-- A reference to an object in the same namespace. -/
def localReference : Shape := .object [req "name" .string]

def labelSelector : Shape := .object
  [opt "matchExpressions" (.list (.object
     [req "key" .string, req "operator" .string, opt "values" strings])),
   opt "matchLabels" stringMap]

/-- A key of a config map or a secret. -/
def keySelector : Shape := .object
  [req "key" .string, req "name" .string, opt "optional" .bool]

/-- A field of the pod. -/
def fieldSelector : Shape := .object [opt "apiVersion" .string, req "fieldPath" .string]

/-- A resource of a container. -/
def resourceSelector : Shape := .object
  [opt "containerName" .string, opt "divisor" quantity, req "resource" .string]

/-- One action on a container: a command, a request or a connection. -/
def handlerFields : List (String × Bool × Shape) :=
  [opt "exec" (.object [opt "command" strings]),
   opt "httpGet" (.object
     [opt "host" .string,
      opt "httpHeaders" (.list (.object [req "name" .string, req "value" .string])),
      opt "path" .string, req "port" .intOrString, opt "scheme" .string])]

def tcpSocket : Shape := .object [opt "host" .string, req "port" .intOrString]

/-- A periodic check of a container. -/
def probe : Shape := .object (handlerFields ++
  [opt "failureThreshold" .int32,
   opt "grpc" (.object [req "port" .int32, opt "service" .string]),
   opt "initialDelaySeconds" .int32, opt "periodSeconds" .int32, opt "successThreshold" .int32,
   opt "tcpSocket" tcpSocket, opt "terminationGracePeriodSeconds" .int64,
   opt "timeoutSeconds" .int32])

/-- An action at the beginning or the end of a container's life. -/
def lifecycleHandler : Shape := .object (handlerFields ++
  [opt "sleep" (.object [req "seconds" .int64]), opt "tcpSocket" tcpSocket])

/-- A profile that confines a process. -/
def confinement : Shape := .object [opt "localhostProfile" .string, req "type" .string]

def securityLabels : Shape := .object
  [opt "level" .string, opt "role" .string, opt "type" .string, opt "user" .string]

/-- Security options of processes on Windows. -/
def windowsOptions : Shape := .object
  [opt "gmsaCredentialSpec" .string, opt "gmsaCredentialSpecName" .string,
   opt "hostProcess" .bool, opt "runAsUserName" .string]

/-! ## Containers -/

/-- The fields of a container beside its name, image and ports. -/
def containerFields : List (String × Bool × Shape) :=
  [opt "args" strings,
   opt "command" strings,
   opt "env" (.list (.object
     [req "name" .string, opt "value" .string,
      opt "valueFrom" (.object
        [opt "configMapKeyRef" keySelector, opt "fieldRef" fieldSelector,
         opt "resourceFieldRef" resourceSelector, opt "secretKeyRef" keySelector])])),
   opt "envFrom" (.list (.object
     [opt "configMapRef" (.object [req "name" .string, opt "optional" .bool]),
      opt "prefix" .string,
      opt "secretRef" (.object [req "name" .string, opt "optional" .bool])])),
   opt "imagePullPolicy" .string,
   opt "lifecycle" (.object [opt "postStart" lifecycleHandler, opt "preStop" lifecycleHandler]),
   opt "livenessProbe" probe,
   opt "readinessProbe" probe,
   opt "resizePolicy" (.list (.object
     [req "resourceName" .string, req "restartPolicy" .string])),
   opt "resources" (.object
     [opt "claims" (.list (.object [req "name" .string])), opt "limits" (.map quantity),
      opt "requests" (.map quantity)]),
   opt "restartPolicy" .string,
   opt "securityContext" (.object
     [opt "allowPrivilegeEscalation" .bool,
      opt "appArmorProfile" confinement,
      opt "capabilities" (.object [opt "add" strings, opt "drop" strings]),
      opt "privileged" .bool, opt "procMount" .string, opt "readOnlyRootFilesystem" .bool,
      opt "runAsGroup" .int64, opt "runAsNonRoot" .bool, opt "runAsUser" .int64,
      opt "seLinuxOptions" securityLabels, opt "seccompProfile" confinement,
      opt "windowsOptions" windowsOptions]),
   opt "startupProbe" probe,
   opt "stdin" .bool,
   opt "stdinOnce" .bool,
   opt "terminationMessagePath" .string,
   opt "terminationMessagePolicy" .string,
   opt "tty" .bool,
   opt "volumeDevices" (.list (.object [req "devicePath" .string, req "name" .string])),
   opt "volumeMounts" (.list (.object
     [req "mountPath" .string, opt "mountPropagation" .string, req "name" .string,
      opt "readOnly" .bool, opt "recursiveReadOnly" .string, opt "subPath" .string,
      opt "subPathExpr" .string])),
   opt "workingDir" .string]

/-- The fields of a container port beside its number. -/
def containerPortFields : List (String × Bool × Shape) :=
  [opt "hostIP" .string, opt "hostPort" .int32, opt "name" .string, opt "protocol" .string]

/-- A container of whose fields none is looked at. -/
def container (extra : List (String × Bool × Shape)) : Shape := .object (containerFields ++ extra ++
  [opt "image" .string, req "name" .string,
   opt "ports" (.list (.object (req "containerPort" .int32 :: containerPortFields)))])

/-! ## Metadata -/

/-- A record of who manages which fields of an object. -/
def managedFields : Shape := .object
  [opt "apiVersion" .string, opt "fieldsType" .string, opt "fieldsV1" .any, opt "manager" .string,
   opt "operation" .string, opt "subresource" .string, opt "time" .timestamp]

def ownerReference : Shape := .object
  [req "apiVersion" .string, opt "blockOwnerDeletion" .bool, opt "controller" .bool,
   req "kind" .string, req "name" .string, req "uid" .string]

/-- Metadata of which no field is looked at. -/
def metadata : Shape := .object
  [opt "annotations" stringMap, opt "creationTimestamp" .timestamp,
   opt "deletionGracePeriodSeconds" .int64, opt "deletionTimestamp" .timestamp,
   opt "finalizers" strings, opt "generateName" .string, opt "generation" .int64,
   opt "labels" stringMap, opt "managedFields" (.list managedFields), opt "name" .string,
   opt "namespace" .string, opt "ownerReferences" (.list ownerReference),
   opt "resourceVersion" .string, opt "selfLink" .string, opt "uid" .string]

/-! ## Scheduling -/

/-- A requirement on a node. -/
def nodeRequirement : Shape := .object
  [req "key" .string, req "operator" .string, opt "values" strings]

/-- A set of requirements on a node. -/
def nodeTerm : Shape := .object
  [opt "matchExpressions" (.list nodeRequirement), opt "matchFields" (.list nodeRequirement)]

/-- Pods to be near to or far from. -/
def podTerm : Shape := .object
  [opt "labelSelector" labelSelector, opt "matchLabelKeys" strings,
   opt "mismatchLabelKeys" strings, opt "namespaceSelector" labelSelector,
   opt "namespaces" strings, req "topologyKey" .string]

/-- Preferences and demands on where other pods are. -/
def podPlacement : Shape := .object
  [opt "preferredDuringSchedulingIgnoredDuringExecution" (.list (.object
     [req "podAffinityTerm" podTerm, req "weight" .int32])),
   opt "requiredDuringSchedulingIgnoredDuringExecution" (.list podTerm)]

/-- Where a pod may and should run. -/
def affinity : Shape := .object
  [opt "nodeAffinity" (.object
     [opt "preferredDuringSchedulingIgnoredDuringExecution" (.list (.object
        [req "preference" nodeTerm, req "weight" .int32])),
      opt "requiredDuringSchedulingIgnoredDuringExecution" (.object
        [req "nodeSelectorTerms" (.list nodeTerm)])]),
   opt "podAffinity" podPlacement,
   opt "podAntiAffinity" podPlacement]

/-! ## Volumes -/

/-- The files of a config map or a secret in a volume. -/
def keyItems : Shape := .list (.object [req "key" .string, opt "mode" .int32, req "path" .string])

/-- The files of the downward API. -/
def downwardItems : Shape := .list (.object
  [opt "fieldRef" fieldSelector, opt "mode" .int32, req "path" .string,
   opt "resourceFieldRef" resourceSelector])

/-- A typed reference to an object in the same namespace. -/
def typedReference : Shape := .object
  [opt "apiGroup" .string, req "kind" .string, req "name" .string]

/-- A claim that is made for a pod. -/
def claimTemplate : Shape := .object
  [opt "metadata" metadata,
   req "spec" (.object
     [opt "accessModes" strings, opt "dataSource" typedReference,
      opt "dataSourceRef" (.object
        [opt "apiGroup" .string, req "kind" .string, req "name" .string,
         opt "namespace" .string]),
      opt "resources" (.object [opt "limits" (.map quantity), opt "requests" (.map quantity)]),
      opt "selector" labelSelector, opt "storageClassName" .string,
      opt "volumeAttributesClassName" .string, opt "volumeMode" .string,
      opt "volumeName" .string])]

def volume : Shape := .object
  [opt "awsElasticBlockStore" (.object
     [opt "fsType" .string, opt "partition" .int32, opt "readOnly" .bool, req "volumeID" .string]),
   opt "azureDisk" (.object
     [opt "cachingMode" .string, req "diskName" .string, req "diskURI" .string,
      opt "fsType" .string, opt "kind" .string, opt "readOnly" .bool]),
   opt "azureFile" (.object
     [opt "readOnly" .bool, req "secretName" .string, req "shareName" .string]),
   opt "cephfs" (.object
     [req "monitors" strings, opt "path" .string, opt "readOnly" .bool, opt "secretFile" .string,
      opt "secretRef" localReference, opt "user" .string]),
   opt "cinder" (.object
     [opt "fsType" .string, opt "readOnly" .bool, opt "secretRef" localReference,
      req "volumeID" .string]),
   opt "configMap" (.object
     [opt "defaultMode" .int32, opt "items" keyItems, req "name" .string, opt "optional" .bool]),
   opt "csi" (.object
     [req "driver" .string, opt "fsType" .string, opt "nodePublishSecretRef" localReference,
      opt "readOnly" .bool, opt "volumeAttributes" stringMap]),
   opt "downwardAPI" (.object [opt "defaultMode" .int32, opt "items" downwardItems]),
   opt "emptyDir" (.object [opt "medium" .string, opt "sizeLimit" quantity]),
   opt "ephemeral" (.object [opt "volumeClaimTemplate" claimTemplate]),
   opt "fc" (.object
     [opt "fsType" .string, opt "lun" .int32, opt "readOnly" .bool, opt "targetWWNs" strings,
      opt "wwids" strings]),
   opt "flexVolume" (.object
     [req "driver" .string, opt "fsType" .string, opt "options" stringMap, opt "readOnly" .bool,
      opt "secretRef" localReference]),
   opt "flocker" (.object [opt "datasetName" .string, opt "datasetUUID" .string]),
   opt "gcePersistentDisk" (.object
     [opt "fsType" .string, opt "partition" .int32, req "pdName" .string, opt "readOnly" .bool]),
   opt "gitRepo" (.object
     [opt "directory" .string, req "repository" .string, opt "revision" .string]),
   opt "glusterfs" (.object
     [req "endpoints" .string, req "path" .string, opt "readOnly" .bool]),
   opt "hostPath" (.object [req "path" .string, opt "type" .string]),
   opt "iscsi" (.object
     [opt "chapAuthDiscovery" .bool, opt "chapAuthSession" .bool, opt "fsType" .string,
      opt "initiatorName" .string, req "iqn" .string, opt "iscsiInterface" .string,
      req "lun" .int32, opt "portals" strings, opt "readOnly" .bool,
      opt "secretRef" localReference, req "targetPortal" .string]),
   req "name" .string,
   opt "nfs" (.object [req "path" .string, opt "readOnly" .bool, req "server" .string]),
   opt "persistentVolumeClaim" (.object [req "claimName" .string, opt "readOnly" .bool]),
   opt "photonPersistentDisk" (.object [opt "fsType" .string, req "pdID" .string]),
   opt "portworxVolume" (.object
     [opt "fsType" .string, opt "readOnly" .bool, req "volumeID" .string]),
   opt "projected" (.object
     [opt "defaultMode" .int32,
      opt "sources" (.list (.object
        [opt "clusterTrustBundle" (.object
           [opt "labelSelector" labelSelector, opt "name" .string, opt "optional" .bool,
            req "path" .string, opt "signerName" .string]),
         opt "configMap" (.object
           [opt "items" keyItems, req "name" .string, opt "optional" .bool]),
         opt "downwardAPI" (.object [opt "items" downwardItems]),
         opt "secret" (.object [opt "items" keyItems, req "name" .string, opt "optional" .bool]),
         opt "serviceAccountToken" (.object
           [opt "audience" .string, opt "expirationSeconds" .int64, req "path" .string])]))]),
   opt "quobyte" (.object
     [opt "group" .string, opt "readOnly" .bool, req "registry" .string, opt "tenant" .string,
      opt "user" .string, req "volume" .string]),
   opt "rbd" (.object
     [opt "fsType" .string, req "image" .string, opt "keyring" .string, req "monitors" strings,
      opt "pool" .string, opt "readOnly" .bool, opt "secretRef" localReference,
      opt "user" .string]),
   opt "scaleIO" (.object
     [opt "fsType" .string, req "gateway" .string, opt "protectionDomain" .string,
      opt "readOnly" .bool, req "secretRef" localReference, opt "sslEnabled" .bool,
      opt "storageMode" .string, opt "storagePool" .string, req "system" .string,
      opt "volumeName" .string]),
   opt "secret" (.object
     [opt "defaultMode" .int32, opt "items" keyItems, opt "optional" .bool,
      opt "secretName" .string]),
   opt "storageos" (.object
     [opt "fsType" .string, opt "readOnly" .bool, opt "secretRef" localReference,
      opt "volumeName" .string, opt "volumeNamespace" .string]),
   opt "vsphereVolume" (.object
     [opt "fsType" .string, opt "storagePolicyID" .string, opt "storagePolicyName" .string,
      req "volumePath" .string])]

/-! ## Pods -/

/-- The fields of a pod's specification beside its containers. -/
def podFields : List (String × Bool × Shape) :=
  [opt "activeDeadlineSeconds" .int64,
   opt "affinity" affinity,
   opt "automountServiceAccountToken" .bool,
   opt "dnsConfig" (.object
     [opt "nameservers" strings,
      opt "options" (.list (.object [opt "name" .string, opt "value" .string])),
      opt "searches" strings]),
   opt "dnsPolicy" .string,
   opt "enableServiceLinks" .bool,
   opt "ephemeralContainers" (.list (container [opt "targetContainerName" .string])),
   opt "hostAliases" (.list (.object [opt "hostnames" strings, req "ip" .string])),
   opt "hostIPC" .bool,
   opt "hostNetwork" .bool,
   opt "hostPID" .bool,
   opt "hostUsers" .bool,
   opt "hostname" .string,
   opt "imagePullSecrets" (.list localReference),
   opt "initContainers" (.list (container [])),
   opt "nodeName" .string,
   opt "nodeSelector" stringMap,
   opt "os" (.object [req "name" .string]),
   opt "overhead" (.map quantity),
   opt "preemptionPolicy" .string,
   opt "priority" .int32,
   opt "priorityClassName" .string,
   opt "readinessGates" (.list (.object [req "conditionType" .string])),
   opt "resourceClaims" (.list (.object
     [req "name" .string,
      opt "source" (.object
        [opt "resourceClaimName" .string, opt "resourceClaimTemplateName" .string])])),
   opt "restartPolicy" .string,
   opt "runtimeClassName" .string,
   opt "schedulerName" .string,
   opt "schedulingGates" (.list (.object [req "name" .string])),
   opt "securityContext" (.object
     [opt "appArmorProfile" confinement, opt "fsGroup" .int64, opt "fsGroupChangePolicy" .string,
      opt "runAsGroup" .int64, opt "runAsNonRoot" .bool, opt "runAsUser" .int64,
      opt "seLinuxOptions" securityLabels, opt "seccompProfile" confinement,
      opt "supplementalGroups" (.list .int64),
      opt "sysctls" (.list (.object [req "name" .string, req "value" .string])),
      opt "windowsOptions" windowsOptions]),
   opt "serviceAccount" .string,
   opt "serviceAccountName" .string,
   opt "setHostnameAsFQDN" .bool,
   opt "shareProcessNamespace" .bool,
   opt "subdomain" .string,
   opt "terminationGracePeriodSeconds" .int64,
   opt "tolerations" (.list (.object
     [opt "effect" .string, opt "key" .string, opt "operator" .string,
      opt "tolerationSeconds" .int64, opt "value" .string])),
   opt "topologySpreadConstraints" (.list (.object
     [opt "labelSelector" labelSelector, opt "matchLabelKeys" strings, req "maxSkew" .int32,
      opt "minDomains" .int32, opt "nodeAffinityPolicy" .string, opt "nodeTaintsPolicy" .string,
      req "topologyKey" .string, req "whenUnsatisfiable" .string])),
   opt "volumes" (.list volume)]

end InstanceOperator.Shape
