import EnvOperator.Cluster.Pod
import EnvOperator.Cluster.Schema.Workload

/-! # Jobs

A job runs a pod to its end, and again after a failure as often as its backoff
limit says. Its status counts the pods and says when and how the job ended.
-/
namespace EnvOperator

structure PodCondition where
  status : String
  type : String
deriving DecidableEq

namespace PodCondition

def record : RecordCodec PodCondition :=
  RecordCodec.imap
    (.cons "status" (.required .string "") <| .cons "type" (.required .string "") .nil)
    (fun (status, type, _) => ⟨status, type⟩) (fun c => (c.status, c.type, ()))

def codec : Codec PodCondition := record.object

end PodCondition

/-- What becomes of a failed pod that meets the conditions. -/
structure PodFailureRule where
  action : String
  onExitCodes : Option Schema.exitCodesRequirement.Val := none
  onPodConditions : Option (List PodCondition) := none
deriving DecidableEq

namespace PodFailureRule

def record : RecordCodec PodFailureRule :=
  RecordCodec.imap
    (.cons "action" (.required .string "") <|
      .cons "onExitCodes" (.optional Schema.exitCodesRequirement.codec) <|
      .cons "onPodConditions" (.optional (.list PodCondition.codec)) .nil)
    (fun (action, codes, conditions, _) => ⟨action, codes, conditions⟩)
    (fun r => (r.action, r.onExitCodes, r.onPodConditions, ()))

def codec : Codec PodFailureRule := record.object

end PodFailureRule

structure PodFailurePolicy where
  rules : List PodFailureRule
deriving DecidableEq

namespace PodFailurePolicy

def record : RecordCodec PodFailurePolicy :=
  RecordCodec.imap (.cons "rules" (.required (.list PodFailureRule.codec) []) .nil)
    (fun (rules, _) => ⟨rules⟩) (fun p => (p.rules, ()))

def codec : Codec PodFailurePolicy := record.object

end PodFailurePolicy

abbrev JobSpec.Rest : Fields := .of Schema.jobSpecRest

structure JobSpec where
  template : PodTemplate
  backoffLimit : Option Int32 := none
  activeDeadlineSeconds : Option Int64 := none
  podFailurePolicy : Option PodFailurePolicy := none
  rest : JobSpec.Rest.Val := JobSpec.Rest.empty
deriving DecidableEq

namespace JobSpec

def record : RecordCodec JobSpec :=
  RecordCodec.imap
    (.cons "template" (.required PodTemplate.codec {}) <| .cons "backoffLimit" (.optional .int32) <|
      .cons "activeDeadlineSeconds" (.optional .int64) <|
      .cons "podFailurePolicy" (.optional PodFailurePolicy.codec) Rest.codec)
    (fun (template, backoff, deadline, policy, rest) => ⟨template, backoff, deadline, policy, rest⟩)
    (fun s => (s.template, s.backoffLimit, s.activeDeadlineSeconds, s.podFailurePolicy, s.rest))

def codec : Codec JobSpec := record.object

end JobSpec

abbrev JobCondition.Rest : Fields := .of Schema.jobConditionRest

structure JobCondition where
  type : String
  status : String
  reason : Option String := none
  message : Option String := none
  rest : JobCondition.Rest.Val := JobCondition.Rest.empty
deriving DecidableEq

namespace JobCondition

def record : RecordCodec JobCondition :=
  RecordCodec.imap
    (.cons "type" (.required .string "") <| .cons "status" (.required .string "") <|
      .cons "reason" (.optional .string) <| .cons "message" (.optional .string) Rest.codec)
    (fun (type, status, reason, message, rest) => ⟨type, status, reason, message, rest⟩)
    (fun c => (c.type, c.status, c.reason, c.message, c.rest))

def codec : Codec JobCondition := record.object

end JobCondition

abbrev JobStatus.Rest : Fields := .of Schema.jobStatusRest

structure JobStatus where
  active : Option Int32 := none
  failed : Option Int32 := none
  completionTime : Option Timestamp := none
  conditions : Option (List JobCondition) := none
  rest : JobStatus.Rest.Val := JobStatus.Rest.empty
deriving DecidableEq

namespace JobStatus

def record : RecordCodec JobStatus :=
  RecordCodec.imap
    (.cons "active" (.optional .int32) <| .cons "failed" (.optional .int32) <|
      .cons "completionTime" (.optional .timestamp) <|
      .cons "conditions" (.optional (.list JobCondition.codec)) Rest.codec)
    (fun (active, failed, completion, conditions, rest) =>
      ⟨active, failed, completion, conditions, rest⟩)
    (fun s => (s.active, s.failed, s.completionTime, s.conditions, s.rest))

def codec : Codec JobStatus := record.object

end JobStatus

structure Job where
  metadata : ObjectMeta
  spec : Option JobSpec := none
  status : Option JobStatus := none
deriving DecidableEq

namespace Job

def record : RecordCodec Job :=
  RecordCodec.imap
    (.cons "metadata" (.required ObjectMeta.codec {}) <| .cons "spec" (.optional JobSpec.codec) <|
      .cons "status" (.optional JobStatus.codec) .nil)
    (fun (metadata, spec, status, _) => ⟨metadata, spec, status⟩)
    (fun j => (j.metadata, j.spec, j.status, ()))

def codec : Codec Job := record.ofKind "batch/v1" "Job"

end Job
end EnvOperator
