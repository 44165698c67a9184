import EnvOperator.Cluster.Meta
import EnvOperator.Cluster.Schema.Workload

/-! # Services

A service gives pods one address in the cluster. The server assigns the address,
and refuses a change that drops it.
-/
namespace EnvOperator

structure ServicePort where
  port : Int32
  appProtocol : Option String := none
  name : Option String := none
  nodePort : Option Int32 := none
  protocol : Option String := none
  targetPort : Option IntOrString := none
deriving DecidableEq

namespace ServicePort

def record : RecordCodec ServicePort :=
  RecordCodec.imap
    (.cons "port" (.required .int32 0) <| .cons "appProtocol" (.optional .string) <|
      .cons "name" (.optional .string) <| .cons "nodePort" (.optional .int32) <|
      .cons "protocol" (.optional .string) <| .cons "targetPort" (.optional .intOrString) .nil)
    (fun (port, app, name, node, protocol, target, _) => ⟨port, app, name, node, protocol, target⟩)
    (fun p => (p.port, p.appProtocol, p.name, p.nodePort, p.protocol, p.targetPort, ()))

def codec : Codec ServicePort := record.object

end ServicePort

abbrev ServiceSpec.Rest : Fields := .of Schema.serviceSpecRest

structure ServiceSpec where
  type : Option String := none
  selector : Option StringMap := none
  ports : Option (List ServicePort) := none
  clusterIP : Option String := none
  clusterIPs : Option (List String) := none
  rest : ServiceSpec.Rest.Val := ServiceSpec.Rest.empty
deriving DecidableEq

namespace ServiceSpec

def record : RecordCodec ServiceSpec :=
  RecordCodec.imap
    (.cons "type" (.optional .string) <| .cons "selector" (.optional (.map .string)) <|
      .cons "ports" (.optional (.list ServicePort.codec)) <|
        .cons "clusterIP" (.optional .string) <|
      .cons "clusterIPs" (.optional (.list .string)) Rest.codec)
    (fun (type, selector, ports, ip, ips, rest) => ⟨type, selector, ports, ip, ips, rest⟩)
    (fun s => (s.type, s.selector, s.ports, s.clusterIP, s.clusterIPs, s.rest))

def codec : Codec ServiceSpec := record.object

end ServiceSpec

structure Service where
  metadata : ObjectMeta
  spec : Option ServiceSpec := none
  status : Option Schema.serviceStatus.Val := none
deriving DecidableEq

namespace Service

def record : RecordCodec Service :=
  RecordCodec.imap
    (.cons "metadata" (.required ObjectMeta.codec {}) <|
      .cons "spec" (.optional ServiceSpec.codec) <|
      .cons "status" (.optional Schema.serviceStatus.codec) .nil)
    (fun (metadata, spec, status, _) => ⟨metadata, spec, status⟩)
    (fun s => (s.metadata, s.spec, s.status, ()))

def codec : Codec Service := record.ofKind "v1" "Service"

end Service
end EnvOperator
