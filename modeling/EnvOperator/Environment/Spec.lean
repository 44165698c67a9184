import EnvOperator.Cluster.Container
import EnvOperator.Cluster.Service

/-! # What an environment asks for

A specification names a source revision, says how its image is built and how the workload runs, and
whether the workload is reachable through a service and an ingress. Most settings may be left open,
and are filled with defaults then.
-/
namespace EnvOperator

structure Defaults where
  replicas : Int32 := 1
  buildImage : String := "gcr.io/kaniko-project/executor:v1.23.2"
  dockerfile : String := "Dockerfile"
  platform : String := "linux/amd64"
  verbosity : String := "info"
  backoffLimit : Int32 := 3
  activeDeadlineSeconds : Int64 := 1800
  storageBucket : String := "kiln-sources"
  storageRegion : String := "us-east-1"
  storageEndpoint : Option String := none
  storageFolder : String := "sources"
  registryUrl : String := "http://registry.kiln-system.svc.cluster.local:5000"
  registryNodePort : Int32 := 30500
  serviceType : String := "ClusterIP"
  ingressPath : String := "/"
deriving DecidableEq

/-- Keep a setting, or take the default where there is none. -/
def filled {α : Type} (setting : Option α) (default : α) : Option α := some (setting.getD default)

structure BuildSpec where
  image : Option String := none
  dockerfile : Option String := none
  platform : Option String := none
  included : List String := []
  excluded : List String := []
  args : Option (List String) := none
  env : Option (List EnvVar) := none
  verbosity : Option String := none
  backoffLimit : Option Int32 := none
  activeDeadlineSeconds : Option Int64 := none
deriving DecidableEq

namespace BuildSpec

def record : RecordCodec BuildSpec :=
  RecordCodec.imap
    (.cons "image" (.optional .string) <| .cons "dockerfile" (.optional .string) <|
      .cons "platform" (.optional .string) <| .cons "include" (.defaulted (.list .string) []) <|
      .cons "exclude" (.defaulted (.list .string) []) <| .cons "args" (.optional (.list .string)) <|
      .cons "env" (.optional (.list EnvVar.codec)) <| .cons "verbosity" (.optional .string) <|
      .cons "backoffLimit" (.optional .int32) <|
        .cons "activeDeadlineSeconds" (.optional .int64) .nil)
    (fun (image, dockerfile, platform, included, excluded, args, env, verbosity, backoff,
        deadline, _) =>
      ⟨image, dockerfile, platform, included, excluded, args, env, verbosity, backoff, deadline⟩)
    (fun b => (b.image, b.dockerfile, b.platform, b.included, b.excluded, b.args, b.env,
      b.verbosity, b.backoffLimit, b.activeDeadlineSeconds, ()))

def codec : Codec BuildSpec := record.strict

def applyDefaults (b : BuildSpec) (d : Defaults) : BuildSpec :=
  { b with
    image := filled b.image d.buildImage
    dockerfile := filled b.dockerfile d.dockerfile
    platform := filled b.platform d.platform
    verbosity := filled b.verbosity d.verbosity
    backoffLimit := filled b.backoffLimit d.backoffLimit
    activeDeadlineSeconds := filled b.activeDeadlineSeconds d.activeDeadlineSeconds }

end BuildSpec

structure ServiceSettings where
  enabled : Bool := false
  type : Option String := none
  ports : Option (List ServicePort) := none
deriving DecidableEq

namespace ServiceSettings

def record : RecordCodec ServiceSettings :=
  RecordCodec.imap
    (.cons "enabled" (.defaulted .bool false) <| .cons "type" (.optional .string) <|
      .cons "ports" (.optional (.list ServicePort.codec)) .nil)
    (fun (enabled, type, ports, _) => ⟨enabled, type, ports⟩)
      (fun s => (s.enabled, s.type, s.ports, ()))

def codec : Codec ServiceSettings := record.strict

def applyDefaults (s : ServiceSettings) (d : Defaults) : ServiceSettings :=
  { s with type := filled s.type d.serviceType }

end ServiceSettings

/-- An ingress is wanted only together with the service. -/
structure IngressSettings where
  enabled : Bool := false
  host : Option String := none
  path : Option String := none
  className : Option String := none
  tlsSecretName : Option String := none
deriving DecidableEq

namespace IngressSettings

def record : RecordCodec IngressSettings :=
  RecordCodec.imap
    (.cons "enabled" (.defaulted .bool false) <| .cons "host" (.optional .string) <|
      .cons "path" (.optional .string) <| .cons "className" (.optional .string) <|
      .cons "tlsSecretName" (.optional .string) .nil)
    (fun (enabled, host, path, className, secret, _) => ⟨enabled, host, path, className, secret⟩)
    (fun i => (i.enabled, i.host, i.path, i.className, i.tlsSecretName, ()))

def codec : Codec IngressSettings := record.strict

def applyDefaults (i : IngressSettings) (d : Defaults) : IngressSettings :=
  { i with path := filled i.path d.ingressPath }

end IngressSettings

structure EnvironmentSpec where
  revision : Option String := none
  config : Option String := none
  replicas : Option Int32 := none
  command : Option (List String) := none
  args : Option (List String) := none
  workingDir : Option String := none
  ports : Option (List ContainerPort) := none
  env : Option (List EnvVar) := none
  resources : Option Schema.resources.Val := none
  livenessProbe : Option Schema.probe.Val := none
  readinessProbe : Option Schema.probe.Val := none
  startupProbe : Option Schema.probe.Val := none
  lifecycle : Option Schema.lifecycle.Val := none
  build : BuildSpec := {}
  service : Option ServiceSettings := none
  ingress : Option IngressSettings := none
deriving DecidableEq

namespace EnvironmentSpec

def record : RecordCodec EnvironmentSpec :=
  RecordCodec.imap
    (.cons "revision" (.optional .string) <| .cons "config" (.optional .string) <|
      .cons "replicas" (.optional .int32) <| .cons "command" (.optional (.list .string)) <|
      .cons "args" (.optional (.list .string)) <| .cons "workingDir" (.optional .string) <|
      .cons "ports" (.optional (.list ContainerPort.codec)) <|
      .cons "env" (.optional (.list EnvVar.codec)) <|
      .cons "resources" (.optional Schema.resources.codec) <|
      .cons "livenessProbe" (.optional Schema.probe.codec) <|
      .cons "readinessProbe" (.optional Schema.probe.codec) <|
      .cons "startupProbe" (.optional Schema.probe.codec) <|
      .cons "lifecycle" (.optional Schema.lifecycle.codec) <|
      .cons "build" (.defaulted BuildSpec.codec {}) <|
      .cons "service" (.optional ServiceSettings.codec) <|
      .cons "ingress" (.optional IngressSettings.codec) .nil)
    (fun (revision, config, replicas, command, args, dir, ports, env, resources, live, ready, start,
        cycle, build, service, ingress, _) =>
      ⟨revision, config, replicas, command, args, dir, ports, env, resources, live, ready, start,
        cycle, build, service, ingress⟩)
    (fun s => (s.revision, s.config, s.replicas, s.command, s.args, s.workingDir, s.ports, s.env,
      s.resources, s.livenessProbe, s.readinessProbe, s.startupProbe, s.lifecycle, s.build,
      s.service, s.ingress, ()))

def codec : Codec EnvironmentSpec := record.strict

def applyDefaults (s : EnvironmentSpec) (d : Defaults) : EnvironmentSpec :=
  { s with
    replicas := filled s.replicas d.replicas
    build := s.build.applyDefaults d
    service := s.service.map (·.applyDefaults d)
    ingress := s.ingress.map (·.applyDefaults d) }

def replicaCount (s : EnvironmentSpec) : Int32 := s.replicas.getD 1

def serviceEnabled (s : EnvironmentSpec) : Bool := s.service.any (·.enabled)

def ingressEnabled (s : EnvironmentSpec) : Bool := s.serviceEnabled && s.ingress.any (·.enabled)

end EnvironmentSpec
end EnvOperator
