import EnvOperator.Cluster.Meta
import EnvOperator.Cluster.Schema.Workload

/-! # Ingresses

An ingress leads requests for a host and a path to a service.
-/
namespace EnvOperator

/-- A port of a service, by name or by number. -/
structure BackendPort where
  name : Option String := none
  number : Option Int32 := none
deriving DecidableEq

namespace BackendPort

def record : RecordCodec BackendPort :=
  RecordCodec.imap (.cons "name" (.optional .string) <| .cons "number" (.optional .int32) .nil)
    (fun (name, number, _) => ⟨name, number⟩) (fun p => (p.name, p.number, ()))

def codec : Codec BackendPort := record.object

end BackendPort

structure ServiceBackend where
  name : String
  port : Option BackendPort := none
deriving DecidableEq

namespace ServiceBackend

def record : RecordCodec ServiceBackend :=
  RecordCodec.imap
    (.cons "name" (.required .string "") <| .cons "port" (.optional BackendPort.codec) .nil)
    (fun (name, port, _) => ⟨name, port⟩) (fun b => (b.name, b.port, ()))

def codec : Codec ServiceBackend := record.object

end ServiceBackend

structure IngressBackend where
  service : Option ServiceBackend := none
  resource : Option Schema.typedReference.Val := none
deriving DecidableEq

namespace IngressBackend

def record : RecordCodec IngressBackend :=
  RecordCodec.imap
    (.cons "service" (.optional ServiceBackend.codec) <|
      .cons "resource" (.optional Schema.typedReference.codec) .nil)
    (fun (service, resource, _) => ⟨service, resource⟩) (fun b => (b.service, b.resource, ()))

def codec : Codec IngressBackend := record.object

end IngressBackend

structure IngressPath where
  path : Option String := none
  pathType : String
  backend : IngressBackend
deriving DecidableEq

namespace IngressPath

def record : RecordCodec IngressPath :=
  RecordCodec.imap
    (.cons "path" (.optional .string) <| .cons "pathType" (.required .string "") <|
      .cons "backend" (.required IngressBackend.codec {}) .nil)
    (fun (path, pathType, backend, _) => ⟨path, pathType, backend⟩)
    (fun p => (p.path, p.pathType, p.backend, ()))

def codec : Codec IngressPath := record.object

end IngressPath

structure HttpRule where
  paths : List IngressPath
deriving DecidableEq

namespace HttpRule

def record : RecordCodec HttpRule :=
  RecordCodec.imap (.cons "paths" (.required (.list IngressPath.codec) []) .nil)
    (fun (paths, _) => ⟨paths⟩) (fun r => (r.paths, ()))

def codec : Codec HttpRule := record.object

end HttpRule

structure IngressRule where
  host : Option String := none
  http : Option HttpRule := none
deriving DecidableEq

namespace IngressRule

def record : RecordCodec IngressRule :=
  RecordCodec.imap
    (.cons "host" (.optional .string) <| .cons "http" (.optional HttpRule.codec) .nil)
    (fun (host, http, _) => ⟨host, http⟩) (fun r => (r.host, r.http, ()))

def codec : Codec IngressRule := record.object

end IngressRule

structure IngressTls where
  hosts : Option (List String) := none
  secretName : Option String := none
deriving DecidableEq

namespace IngressTls

def record : RecordCodec IngressTls :=
  RecordCodec.imap
    (.cons "hosts" (.optional (.list .string)) <| .cons "secretName" (.optional .string) .nil)
    (fun (hosts, secret, _) => ⟨hosts, secret⟩) (fun t => (t.hosts, t.secretName, ()))

def codec : Codec IngressTls := record.object

end IngressTls

structure IngressSpec where
  ingressClassName : Option String := none
  rules : Option (List IngressRule) := none
  tls : Option (List IngressTls) := none
  defaultBackend : Option IngressBackend := none
deriving DecidableEq

namespace IngressSpec

def record : RecordCodec IngressSpec :=
  RecordCodec.imap
    (.cons "ingressClassName" (.optional .string) <|
      .cons "rules" (.optional (.list IngressRule.codec)) <|
      .cons "tls" (.optional (.list IngressTls.codec)) <|
      .cons "defaultBackend" (.optional IngressBackend.codec) .nil)
    (fun (className, rules, tls, fallback, _) => ⟨className, rules, tls, fallback⟩)
    (fun s => (s.ingressClassName, s.rules, s.tls, s.defaultBackend, ()))

def codec : Codec IngressSpec := record.object

end IngressSpec

structure Ingress where
  metadata : ObjectMeta
  spec : Option IngressSpec := none
  status : Option Schema.ingressStatus.Val := none
deriving DecidableEq

namespace Ingress

def record : RecordCodec Ingress :=
  RecordCodec.imap
    (.cons "metadata" (.required ObjectMeta.codec {}) <|
      .cons "spec" (.optional IngressSpec.codec) <|
      .cons "status" (.optional Schema.ingressStatus.codec) .nil)
    (fun (metadata, spec, status, _) => ⟨metadata, spec, status⟩)
    (fun i => (i.metadata, i.spec, i.status, ()))

def codec : Codec Ingress := record.ofKind "networking.k8s.io/v1" "Ingress"

end Ingress
end EnvOperator
