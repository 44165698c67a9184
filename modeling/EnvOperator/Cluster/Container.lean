import EnvOperator.Cluster.Meta
import EnvOperator.Cluster.Schema.Pod

/-! # Containers

A container runs an image with arguments and environment variables and offers
ports.
-/
namespace EnvOperator

structure EnvVar where
  name : String
  value : Option String := none
  valueFrom : Option Schema.envSource.Val := none
deriving DecidableEq

namespace EnvVar

def record : RecordCodec EnvVar :=
  RecordCodec.imap
    (.cons "name" (.required .string "") <| .cons "value" (.optional .string) <|
      .cons "valueFrom" (.optional Schema.envSource.codec) .nil)
    (fun (name, value, source, _) => ⟨name, value, source⟩)
    (fun v => (v.name, v.value, v.valueFrom, ()))

def codec : Codec EnvVar := record.object

end EnvVar

/-- A named object all of whose entries become variables. -/
structure EnvReference where
  name : String
  optional : Option Bool := none
deriving DecidableEq

namespace EnvReference

def record : RecordCodec EnvReference :=
  RecordCodec.imap (.cons "name" (.required .string "") <| .cons "optional" (.optional .bool) .nil)
    (fun (name, optional, _) => ⟨name, optional⟩) (fun r => (r.name, r.optional, ()))

def codec : Codec EnvReference := record.object

end EnvReference

structure EnvFromSource where
  configMapRef : Option EnvReference := none
  namePrefix : Option String := none
  secretRef : Option EnvReference := none
deriving DecidableEq

namespace EnvFromSource

def record : RecordCodec EnvFromSource :=
  RecordCodec.imap
    (.cons "configMapRef" (.optional EnvReference.codec) <| .cons "prefix" (.optional .string) <|
      .cons "secretRef" (.optional EnvReference.codec) .nil)
    (fun (config, front, secret, _) => ⟨config, front, secret⟩)
    (fun s => (s.configMapRef, s.namePrefix, s.secretRef, ()))

def codec : Codec EnvFromSource := record.object

end EnvFromSource

structure ContainerPort where
  containerPort : Int32
  hostIP : Option String := none
  hostPort : Option Int32 := none
  name : Option String := none
  protocol : Option String := none
deriving DecidableEq

namespace ContainerPort

def record : RecordCodec ContainerPort :=
  RecordCodec.imap
    (.cons "containerPort" (.required .int32 0) <| .cons "hostIP" (.optional .string) <|
      .cons "hostPort" (.optional .int32) <| .cons "name" (.optional .string) <|
      .cons "protocol" (.optional .string) .nil)
    (fun (port, hostIP, hostPort, name, protocol, _) => ⟨port, hostIP, hostPort, name, protocol⟩)
    (fun p => (p.containerPort, p.hostIP, p.hostPort, p.name, p.protocol, ()))

def codec : Codec ContainerPort := record.object

end ContainerPort

abbrev Container.Rest : Fields := .of Schema.containerRest

structure Container where
  name : String
  image : Option String := none
  command : Option (List String) := none
  args : Option (List String) := none
  workingDir : Option String := none
  ports : Option (List ContainerPort) := none
  env : Option (List EnvVar) := none
  envFrom : Option (List EnvFromSource) := none
  resources : Option Schema.resources.Val := none
  livenessProbe : Option Schema.probe.Val := none
  readinessProbe : Option Schema.probe.Val := none
  startupProbe : Option Schema.probe.Val := none
  lifecycle : Option Schema.lifecycle.Val := none
  rest : Container.Rest.Val := Container.Rest.empty
deriving DecidableEq

namespace Container

def record : RecordCodec Container :=
  RecordCodec.imap
    (.cons "name" (.required .string "") <| .cons "image" (.optional .string) <|
      .cons "command" (.optional (.list .string)) <| .cons "args" (.optional (.list .string)) <|
      .cons "workingDir" (.optional .string) <|
        .cons "ports" (.optional (.list ContainerPort.codec)) <|
      .cons "env" (.optional (.list EnvVar.codec)) <|
      .cons "envFrom" (.optional (.list EnvFromSource.codec)) <|
      .cons "resources" (.optional Schema.resources.codec) <|
      .cons "livenessProbe" (.optional Schema.probe.codec) <|
      .cons "readinessProbe" (.optional Schema.probe.codec) <|
      .cons "startupProbe" (.optional Schema.probe.codec) <|
      .cons "lifecycle" (.optional Schema.lifecycle.codec) Rest.codec)
    (fun (name, image, command, args, dir, ports, env, envFrom, resources, live, ready, start,
        cycle, rest) =>
      ⟨name, image, command, args, dir, ports, env, envFrom, resources, live, ready, start,
        cycle, rest⟩)
    (fun c => (c.name, c.image, c.command, c.args, c.workingDir, c.ports, c.env, c.envFrom,
      c.resources, c.livenessProbe, c.readinessProbe, c.startupProbe, c.lifecycle, c.rest))

def codec : Codec Container := record.object

end Container
end EnvOperator
