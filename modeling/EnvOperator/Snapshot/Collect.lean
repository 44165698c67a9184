import EnvOperator.Pipeline.Dialogue
import EnvOperator.Target.BuildJob
import EnvOperator.Target.Network
import EnvOperator.Target.Workload

/-! # Collecting

A pass reads the environment, its configuration and the storage credentials, then the objects that
belong to the environment. It goes no further without the configuration or without credentials that
the configuration names. What the objects should look like depends on what has been read alone.
-/
namespace EnvOperator

structure Target where
  job : Job
  deployment : Deployment
  /-- Nothing when no service is wanted. -/
  service : Option Service
  /-- Nothing unless both the service and the ingress are wanted. -/
  ingress : Option Ingress
deriving DecidableEq

def Snapshot.target (s : Snapshot) : Target :=
  ⟨s.buildJob, s.targetDeployment, s.targetService, s.targetIngress⟩

/-- A snapshot together with the target it gives. -/
structure Collection where
  snapshot : Snapshot
  target : Target

/-- Reading that can fail as a pass does. -/
abbrev Reading := ExceptT PassError Dialogue

namespace Reading

def get (k : Kind) (key : ObjectKey) : Reading (Option k.Object) :=
  ExceptT.mk do return (← Dialogue.request (.get k key)).mapError .store

end Reading

namespace Snapshot

def storageCredentials? (configNamespace : String) (config : EnvironmentConfig) : Reading Secret :=
  match config.spec.storage.credentialsSecret with
  | none => return anonymousCredentials configNamespace
  | some name => do
    let key : ObjectKey := ⟨configNamespace, name⟩
    match ← Reading.get .secret key with
    | some secret => return secret
    | none => throw (.missingCredentials key)

/-- Nothing if the environment is no longer there. -/
def collect (configNamespace : String) (defaults : Defaults) (key : ObjectKey) :
    Reading (Option Snapshot) := do
  match ← Reading.get .environment key with
  | none => return none
  | some environment =>
    let environment := environment.applyDefaults defaults
    let configKey : ObjectKey := ⟨configNamespace, environment.configName⟩
    match ← Reading.get .environmentConfig configKey with
    | none => throw (.missingConfig configKey)
    | some config =>
      let config := config.applyDefaults defaults
      let storageCredentials ← storageCredentials? configNamespace config
      let job ← Reading.get .job (key.sibling (Naming.buildJobName key.name))
      let deployment ← Reading.get .deployment key
      let service ← Reading.get .service key
      let ingress ← Reading.get .ingress key
      let credentials ← Reading.get .secret (key.sibling (Naming.credentialsSecretName key.name))
      return some { key, environment, config, storageCredentials, job, deployment, service, ingress,
                    credentials }

end Snapshot

def Collection.collect (configNamespace : String) (defaults : Defaults) (key : ObjectKey) :
    Reading (Option Collection) := do
  return (← Snapshot.collect configNamespace defaults key).map fun s => ⟨s, s.target⟩

end EnvOperator
