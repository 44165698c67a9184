import EnvOperator.Cluster.Pod
import EnvOperator.Cluster.Schema.Workload

/-! # Deployments

A deployment keeps a number of replicas of a pod running. Its status says how many
of them follow the current template and are available, and which generation of
the specification these counts belong to.
-/
namespace EnvOperator

abbrev DeploymentSpec.Rest : Fields := .of Schema.deploymentSpecRest

structure DeploymentSpec where
  replicas : Option Int32 := none
  selector : LabelSelector
  template : PodTemplate
  rest : DeploymentSpec.Rest.Val := DeploymentSpec.Rest.empty
deriving DecidableEq

namespace DeploymentSpec

def record : RecordCodec DeploymentSpec :=
  RecordCodec.imap
    (.cons "replicas" (.optional .int32) <| .cons "selector" (.required LabelSelector.codec {}) <|
      .cons "template" (.required PodTemplate.codec {}) Rest.codec)
    (fun (replicas, selector, template, rest) => ⟨replicas, selector, template, rest⟩)
    (fun s => (s.replicas, s.selector, s.template, s.rest))

def codec : Codec DeploymentSpec := record.object

end DeploymentSpec

abbrev DeploymentStatus.Rest : Fields := .of Schema.deploymentStatusRest

structure DeploymentStatus where
  availableReplicas : Option Int32 := none
  updatedReplicas : Option Int32 := none
  observedGeneration : Option Int64 := none
  rest : DeploymentStatus.Rest.Val := DeploymentStatus.Rest.empty
deriving DecidableEq

namespace DeploymentStatus

def record : RecordCodec DeploymentStatus :=
  RecordCodec.imap
    (.cons "availableReplicas" (.optional .int32) <| .cons "updatedReplicas" (.optional .int32) <|
      .cons "observedGeneration" (.optional .int64) Rest.codec)
    (fun (available, updated, generation, rest) => ⟨available, updated, generation, rest⟩)
    (fun s => (s.availableReplicas, s.updatedReplicas, s.observedGeneration, s.rest))

def codec : Codec DeploymentStatus := record.object

end DeploymentStatus

structure Deployment where
  metadata : ObjectMeta
  spec : Option DeploymentSpec := none
  status : Option DeploymentStatus := none
deriving DecidableEq

namespace Deployment

def record : RecordCodec Deployment :=
  RecordCodec.imap
    (.cons "metadata" (.required ObjectMeta.codec {}) <|
      .cons "spec" (.optional DeploymentSpec.codec) <|
      .cons "status" (.optional DeploymentStatus.codec) .nil)
    (fun (metadata, spec, status, _) => ⟨metadata, spec, status⟩)
    (fun d => (d.metadata, d.spec, d.status, ()))

def codec : Codec Deployment := record.ofKind "apps/v1" "Deployment"

end Deployment
end EnvOperator
