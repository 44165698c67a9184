import EnvOperator.Cluster.Schema.Volume

/-! # Shapes of containers and pods

The members that the operator looks at have types of their own; the lists named
`rest` hold the others.
-/
namespace EnvOperator
namespace Schema

open Shape

def httpGet : Shape :=
  recordOf
    [opt "host" text, opt "httpHeaders" (list (recordOf [req "name" text, req "value" text])),
    opt "path" text, req "port" intOrString, opt "scheme" text]

def tcpSocket : Shape := recordOf [opt "host" text, req "port" intOrString]

def execAction : Shape := recordOf [opt "command" texts]

def probe : Shape :=
  recordOf [opt "exec" execAction, opt "failureThreshold" int32,
    opt "grpc" (recordOf [req "port" int32, opt "service" text]), opt "httpGet" httpGet,
    opt "initialDelaySeconds" int32, opt "periodSeconds" int32, opt "successThreshold" int32,
    opt "tcpSocket" tcpSocket, opt "terminationGracePeriodSeconds" int64,
    opt "timeoutSeconds" int32]

def lifecycleHandler : Shape :=
  recordOf [opt "exec" execAction, opt "httpGet" httpGet,
    opt "sleep" (recordOf [req "seconds" int64]), opt "tcpSocket" tcpSocket]

def lifecycle : Shape := recordOf [opt "postStart" lifecycleHandler, opt "preStop" lifecycleHandler]

def resources : Shape :=
  recordOf [opt "claims" (list (recordOf [req "name" text, opt "request" text])),
    opt "limits" quantities, opt "requests" quantities]

def profile : Shape := recordOf [opt "localhostProfile" text, req "type" text]

def seLinuxOptions : Shape :=
  recordOf [opt "level" text, opt "role" text, opt "type" text, opt "user" text]

def windowsOptions : Shape :=
  recordOf [opt "gmsaCredentialSpec" text, opt "gmsaCredentialSpecName" text,
    opt "hostProcess" flag, opt "runAsUserName" text]

def securityContext : Shape :=
  recordOf [opt "allowPrivilegeEscalation" flag, opt "appArmorProfile" profile,
    opt "capabilities" (recordOf [opt "add" texts, opt "drop" texts]), opt "privileged" flag,
    opt "procMount" text, opt "readOnlyRootFilesystem" flag, opt "runAsGroup" int64,
    opt "runAsNonRoot" flag, opt "runAsUser" int64, opt "seLinuxOptions" seLinuxOptions,
    opt "seccompProfile" profile, opt "windowsOptions" windowsOptions]

def envSource : Shape :=
  let keyOf := recordOf [req "key" text, req "name" text, opt "optional" flag]
  recordOf [opt "configMapKeyRef" keyOf, opt "fieldRef" fieldSelector,
    opt "resourceFieldRef" resourceFieldSelector, opt "secretKeyRef" keyOf]

def envFromReference : Shape := recordOf [req "name" text, opt "optional" flag]

def containerRest : List (String × Presence × Shape) :=
  [opt "imagePullPolicy" text,
    opt "resizePolicy" (list (recordOf [req "resourceName" text, req "restartPolicy" text])),
    opt "restartPolicy" text, opt "securityContext" securityContext, opt "stdin" flag,
    opt "stdinOnce" flag, opt "terminationMessagePath" text, opt "terminationMessagePolicy" text,
    opt "tty" flag, opt "volumeDevices" (list (recordOf [req "devicePath" text, req "name" text])),
    opt "volumeMounts"
      (list (recordOf [req "mountPath" text, opt "mountPropagation" text, req "name" text,
      opt "readOnly" flag, opt "recursiveReadOnly" text, opt "subPath" text,
      opt "subPathExpr" text]))]

def containerFields : List (String × Presence × Shape) :=
  [opt "args" texts, opt "command" texts,
    opt "env" (list (recordOf [req "name" text, opt "value" text, opt "valueFrom" envSource])),
    opt "envFrom" (list (recordOf [opt "configMapRef" envFromReference, opt "prefix" text,
      opt "secretRef" envFromReference])),
    opt "image" text, opt "lifecycle" lifecycle, opt "livenessProbe" probe, req "name" text,
    opt "ports" (list (recordOf [req "containerPort" int32, opt "hostIP" text, opt "hostPort" int32,
      opt "name" text, opt "protocol" text])),
    opt "readinessProbe" probe, opt "resources" resources, opt "startupProbe" probe,
      opt "workingDir" text]
  ++ containerRest

def nodeSelectorTerm : Shape :=
  let requirements := list (recordOf [req "key" text, req "operator" text, opt "values" texts])
  recordOf [opt "matchExpressions" requirements, opt "matchFields" requirements]

def podAffinityTerm : Shape :=
  recordOf [opt "labelSelector" labelSelector, opt "matchLabelKeys" texts,
    opt "mismatchLabelKeys" texts, opt "namespaceSelector" labelSelector, opt "namespaces" texts,
    req "topologyKey" text]

def podAffinity : Shape :=
  recordOf [
    opt "preferredDuringSchedulingIgnoredDuringExecution"
      (list (recordOf [req "podAffinityTerm" podAffinityTerm, req "weight" int32])),
    opt "requiredDuringSchedulingIgnoredDuringExecution" (list podAffinityTerm)]

def affinity : Shape :=
  recordOf [
    opt "nodeAffinity" (recordOf [
      opt "preferredDuringSchedulingIgnoredDuringExecution"
        (list (recordOf [req "preference" nodeSelectorTerm, req "weight" int32])),
      opt "requiredDuringSchedulingIgnoredDuringExecution"
        (recordOf [req "nodeSelectorTerms" (list nodeSelectorTerm)])]),
    opt "podAffinity" podAffinity, opt "podAntiAffinity" podAffinity]

def podSecurityContext : Shape :=
  recordOf [opt "appArmorProfile" profile, opt "fsGroup" int64, opt "fsGroupChangePolicy" text,
    opt "runAsGroup" int64, opt "runAsNonRoot" flag, opt "runAsUser" int64,
    opt "seLinuxChangePolicy" text, opt "seLinuxOptions" seLinuxOptions,
    opt "seccompProfile" profile, opt "supplementalGroups" (list int64),
    opt "supplementalGroupsPolicy" text,
    opt "sysctls" (list (recordOf [req "name" text, req "value" text])),
    opt "windowsOptions" windowsOptions]

def podRest : List (String × Presence × Shape) :=
  [opt "activeDeadlineSeconds" int64, opt "affinity" affinity,
    opt "automountServiceAccountToken" flag, opt "dnsConfig" (recordOf [opt "nameservers" texts,
      opt "options" (list (recordOf [opt "name" text, opt "value" text])), opt "searches" texts]),
    opt "dnsPolicy" text, opt "enableServiceLinks" flag,
    opt "ephemeralContainers" (list (recordOf (opt "targetContainerName" text :: containerFields))),
    opt "hostAliases" (list (recordOf [opt "hostnames" texts, req "ip" text])), opt "hostIPC" flag,
    opt "hostNetwork" flag, opt "hostPID" flag, opt "hostUsers" flag, opt "hostname" text,
    opt "imagePullSecrets" (list localReference),
    opt "initContainers" (list (recordOf containerFields)), opt "nodeName" text,
    opt "nodeSelector" (map text), opt "os" localReference, opt "overhead" quantities,
    opt "preemptionPolicy" text, opt "priority" int32, opt "priorityClassName" text,
    opt "readinessGates" (list (recordOf [req "conditionType" text])),
    opt "resourceClaims" (list (recordOf [req "name" text, opt "resourceClaimName" text,
      opt "resourceClaimTemplateName" text])),
    opt "resources" resources, opt "runtimeClassName" text, opt "schedulerName" text,
    opt "schedulingGates" (list localReference), opt "securityContext" podSecurityContext,
    opt "serviceAccount" text, opt "serviceAccountName" text, opt "setHostnameAsFQDN" flag,
    opt "shareProcessNamespace" flag, opt "subdomain" text,
    opt "terminationGracePeriodSeconds" int64,
    opt "tolerations" (list (recordOf [opt "effect" text, opt "key" text, opt "operator" text,
      opt "tolerationSeconds" int64, opt "value" text])),
    opt "topologySpreadConstraints" (list (recordOf [opt "labelSelector" labelSelector,
      opt "matchLabelKeys" texts, req "maxSkew" int32, opt "minDomains" int32,
      opt "nodeAffinityPolicy" text, opt "nodeTaintsPolicy" text, req "topologyKey" text,
      req "whenUnsatisfiable" text])),
    opt "volumes" (list volume)]

end Schema
end EnvOperator
