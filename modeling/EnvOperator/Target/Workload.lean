import EnvOperator.Target.Metadata

/-! # The deployment

The workload runs the image of the revision. Nodes reach the registry at a port
of their own, so that the image's name begins with the local host.
-/
namespace EnvOperator
namespace Snapshot

def workloadImage (s : Snapshot) : String :=
  "localhost:" ++ toString (s.config.spec.registry.nodePort.getD 0) ++ "/" ++ s.key.name ++ ":" ++
    s.revisionText

def workload (s : Snapshot) : Container :=
  let spec := s.environment.spec
  { name := s.key.name
    image := some s.workloadImage
    command := spec.command
    args := spec.args
    workingDir := spec.workingDir
    ports := spec.ports
    env := spec.env
    resources := spec.resources
    livenessProbe := spec.livenessProbe
    readinessProbe := spec.readinessProbe
    startupProbe := spec.startupProbe
    lifecycle := spec.lifecycle }

def targetDeployment (s : Snapshot) : Deployment where
  metadata := (s.ownedMeta s.key.name "workload").mergeExisting (s.deployment.map (·.metadata))
  spec := some {
    replicas := some s.environment.spec.replicaCount
    selector := { matchLabels := some (Naming.selectorLabels s.key.name) }
    template := {
      metadata := some {
        labels := some (Naming.environmentLabels s.key.name)
        annotations := some s.revisionAnnotations }
      spec := some { containers := [s.workload] } } }

end Snapshot
end EnvOperator
