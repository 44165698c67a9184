import EnvOperator.Environment.Naming
import EnvOperator.Environment.Spec
import EnvOperator.Environment.Stage

/-! # Environments

An environment is one workload under development: what is asked for, and how far
the pipeline has come. One without a status is about to begin.
-/
namespace EnvOperator

structure EnvironmentStatus where
  stage : Stage := .initial
  /-- The revision the pipeline was last started for. -/
  expectedRevision : Option String := none
  /-- The revision that was last seen running with all its replicas. -/
  deployedRevision : Option String := none
  lastUpdated : Option Instant := none
deriving DecidableEq

namespace EnvironmentStatus

def record : RecordCodec EnvironmentStatus :=
  RecordCodec.imap
    (.cons "stage" (.defaulted Stage.codec .initial) <|
      .cons "expectedRevision" (.optional .string) <|
      .cons "deployedRevision" (.optional .string) <| .cons "lastUpdated" (.optional .instant) .nil)
    (fun (stage, expected, deployed, updated, _) => ⟨stage, expected, deployed, updated⟩)
    (fun s => (s.stage, s.expectedRevision, s.deployedRevision, s.lastUpdated, ()))

def codec : Codec EnvironmentStatus := record.strict

end EnvironmentStatus

structure Environment where
  metadata : ObjectMeta
  spec : EnvironmentSpec
  status : Option EnvironmentStatus := none
deriving DecidableEq

namespace Environment

def record : RecordCodec Environment :=
  RecordCodec.imap
    (.cons "metadata" (.mandatory ObjectMeta.codec) <|
      .cons "spec" (.mandatory EnvironmentSpec.codec) <|
      .cons "status" (.optional EnvironmentStatus.codec) .nil)
    (fun (metadata, spec, status, _) => ⟨metadata, spec, status⟩)
    (fun e => (e.metadata, e.spec, e.status, ()))

def codec : Codec Environment := record.asKind Naming.apiVersion "Environment"

def applyDefaults (e : Environment) (d : Defaults) : Environment :=
  { e with spec := e.spec.applyDefaults d }

def statusOrInitial (e : Environment) : EnvironmentStatus := e.status.getD {}

/-- The name of the configuration to use: the environment's own name unless another is given. -/
def configName (e : Environment) : String := (e.spec.config.or e.metadata.name).getD ""

/-- How objects of the environment refer back to it; the server has to know it first. -/
def ownerReference (e : Environment) : Option OwnerReference := do
  let name ← e.metadata.name
  let uid ← e.metadata.uid
  return { apiVersion := Naming.apiVersion, kind := "Environment", name, uid,
           controller := some true }

end Environment
end EnvOperator
