import EnvOperator.Cluster.Schema.Pod

/-! # Shapes of jobs, deployments, services and ingresses

Only the members that the operator never looks at.
-/
namespace EnvOperator
namespace Schema

open Shape

def jobSpecRest : List (String × Presence × Shape) :=
  [opt "backoffLimitPerIndex" int32, opt "completionMode" text, opt "completions" int32,
    opt "managedBy" text, opt "manualSelector" flag, opt "maxFailedIndexes" int32,
    opt "parallelism" int32, opt "podReplacementPolicy" text, opt "selector" labelSelector,
    opt "successPolicy" (recordOf [req "rules" (list (recordOf [opt "succeededCount" int32,
      opt "succeededIndexes" text]))]),
    opt "suspend" flag, opt "ttlSecondsAfterFinished" int32]

def exitCodesRequirement : Shape :=
  recordOf [opt "containerName" text, req "operator" text, req "values" (list int32)]

def jobConditionRest : List (String × Presence × Shape) :=
  [opt "lastProbeTime" time, opt "lastTransitionTime" time]

def jobStatusRest : List (String × Presence × Shape) :=
  [opt "completedIndexes" text, opt "failedIndexes" text, opt "ready" int32, opt "startTime" time,
    opt "succeeded" int32, opt "terminating" int32,
    opt "uncountedTerminatedPods" (recordOf [opt "failed" texts, opt "succeeded" texts])]

def deploymentSpecRest : List (String × Presence × Shape) :=
  [opt "minReadySeconds" int32, opt "paused" flag, opt "progressDeadlineSeconds" int32,
    opt "revisionHistoryLimit" int32,
    opt "strategy" (recordOf [
      opt "rollingUpdate" (recordOf [opt "maxSurge" intOrString, opt "maxUnavailable" intOrString]),
      opt "type" text])]

def deploymentStatusRest : List (String × Presence × Shape) :=
  [opt "collisionCount" int32,
    opt "conditions" (list (recordOf [opt "lastTransitionTime" time, opt "lastUpdateTime" time,
      opt "message" text, opt "reason" text, req "status" text, req "type" text])),
    opt "readyReplicas" int32, opt "replicas" int32, opt "unavailableReplicas" int32]

def serviceSpecRest : List (String × Presence × Shape) :=
  [opt "allocateLoadBalancerNodePorts" flag, opt "externalIPs" texts, opt "externalName" text,
    opt "externalTrafficPolicy" text, opt "healthCheckNodePort" int32,
    opt "internalTrafficPolicy" text, opt "ipFamilies" texts, opt "ipFamilyPolicy" text,
    opt "loadBalancerClass" text, opt "loadBalancerIP" text, opt "loadBalancerSourceRanges" texts,
    opt "publishNotReadyAddresses" flag, opt "sessionAffinity" text,
    opt "sessionAffinityConfig" (recordOf [opt "clientIP" (recordOf [opt "timeoutSeconds" int32])]),
    opt "trafficDistribution" text]

def portStatuses : Shape :=
  list (recordOf [opt "error" text, req "port" int32, req "protocol" text])

def serviceStatus : Shape :=
  recordOf [opt "conditions" (list condition),
    opt "loadBalancer" (recordOf [opt "ingress" (list (recordOf [opt "hostname" text, opt "ip" text,
      opt "ipMode" text, opt "ports" portStatuses]))])]

def ingressStatus : Shape :=
  recordOf
    [opt "loadBalancer"
    (recordOf [opt "ingress" (list (recordOf [opt "hostname" text, opt "ip" text,
    opt "ports" portStatuses]))])]

end Schema
end EnvOperator
