import EnvOperator.Json.Shape

/-! # Shapes shared by cluster objects

Names of the members follow the published schema of the API, in its order.
-/
namespace EnvOperator
namespace Schema

open Shape

/-- Quantities of resources are kept as they are written. -/
def quantities : Shape := map text

def texts : Shape := list text

def labelSelectorRequirement : Shape :=
  recordOf [req "key" text, req "operator" text, opt "values" texts]

def labelSelectorFields : List (String × Presence × Shape) :=
  [opt "matchExpressions" (list labelSelectorRequirement), opt "matchLabels" (map text)]

def labelSelector : Shape := recordOf labelSelectorFields

def localReference : Shape := recordOf [req "name" text]

def typedReference : Shape := recordOf [opt "apiGroup" text, req "kind" text, req "name" text]

def condition : Shape :=
  recordOf [must "lastTransitionTime" time, req "message" text, opt "observedGeneration" int64,
    req "reason" text, req "status" text, req "type" text]

def ownerReference : Shape :=
  recordOf [req "apiVersion" text, opt "blockOwnerDeletion" flag, opt "controller" flag,
    req "kind" text, req "name" text, req "uid" text]

def managedFields : Shape :=
  recordOf [opt "apiVersion" text, opt "fieldsType" text, opt "fieldsV1" anything,
    opt "manager" text, opt "operation" text, opt "subresource" text, opt "time" time]

/-- The members of an object's metadata that the operator never looks at. -/
def objectMetaRest : List (String × Presence × Shape) :=
  [opt "creationTimestamp" time, opt "deletionGracePeriodSeconds" int64,
    opt "deletionTimestamp" time, opt "finalizers" texts, opt "generateName" text,
    opt "managedFields" (list managedFields), opt "selfLink" text]

def objectMeta : Shape :=
  recordOf ([opt "annotations" (map text), opt "generation" int64, opt "labels" (map text),
    opt "name" text, opt "namespace" text, opt "ownerReferences" (list ownerReference),
    opt "resourceVersion" text, opt "uid" text] ++ objectMetaRest)

end Schema
end EnvOperator
