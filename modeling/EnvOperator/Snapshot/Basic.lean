import EnvOperator.Store.Kind

/-! # Snapshots

What a pass finds in the cluster about one environment. The environment and its
configuration have their defaults filled in; a job, a workload object or
credentials that are not there are part of what is found.
-/
namespace EnvOperator

structure Snapshot where
  key : ObjectKey
  environment : Environment
  config : EnvironmentConfig
  storageCredentials : Secret
  job : Option Job
  deployment : Option Deployment
  service : Option Service
  ingress : Option Ingress
  credentials : Option Secret
deriving DecidableEq

namespace Snapshot

/-- The revision that is asked for. -/
def revision (s : Snapshot) : Option String := s.environment.spec.revision

def revisionText (s : Snapshot) : String := s.revision.getD ""

/-- What stands for the storage credentials when access is anonymous; it is never stored. -/
def anonymousCredentials (configNamespace : String) : Secret where
  metadata := {
    name := some "anonymous"
    ns := some configNamespace
    annotations := some (.ofList [(Naming.anonymousCredentialsAnnotation, "true")]) }

end Snapshot
end EnvOperator
