import EnvOperator.Target.Metadata

/-! # The service and the ingress

The service offers the ports that are asked for, or else those of the container.
The ingress leads to the first of them.
-/
namespace EnvOperator

/-- A service port that leads to a port of the container. -/
def ServicePort.ofContainerPort (p : ContainerPort) : ServicePort :=
  { name := p.name, port := p.containerPort, targetPort := some (.int p.containerPort),
    protocol := p.protocol }

namespace Snapshot

def servicePorts (s : Snapshot) : List ServicePort :=
  (s.environment.spec.service.bind (·.ports)).getD
    ((s.environment.spec.ports.getD []).map ServicePort.ofContainerPort)

def targetService (s : Snapshot) : Option Service := do
  guard s.environment.spec.serviceEnabled
  let settings ← s.environment.spec.service
  let existing := s.service.bind (·.spec)
  return {
    metadata := (s.ownedMeta s.key.name "network").mergeExisting (s.service.map (·.metadata))
    spec := some {
      type := settings.type
      selector := some (Naming.selectorLabels s.key.name)
      ports := some s.servicePorts
      clusterIP := existing.bind (·.clusterIP)
      clusterIPs := existing.bind (·.clusterIPs) } }

def ingressRule (s : Snapshot) (settings : IngressSettings) : IngressRule where
  host := settings.host
  http := some ⟨[{
    path := settings.path
    pathType := "Prefix"
    backend := {
      service := some {
        name := s.key.name
        port := s.servicePorts.head?.map fun p => { number := some p.port } } } }]⟩

def targetIngress (s : Snapshot) : Option Ingress := do
  guard s.environment.spec.ingressEnabled
  let settings ← s.environment.spec.ingress
  return {
    metadata := (s.ownedMeta s.key.name "network").mergeExisting (s.ingress.map (·.metadata))
    spec := some {
      ingressClassName := settings.className
      rules := some [s.ingressRule settings]
      tls := settings.tlsSecretName.map fun secret =>
        [{ hosts := settings.host.map fun host => [host], secretName := some secret }] } }

end Snapshot
end EnvOperator
