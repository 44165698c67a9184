import EnvOperator.Net.Http
import EnvOperator.Store.Kind

/-! # Addresses of objects

The objects of a kind in a namespace form a collection, and an object's address
is that of its collection with its name. A text is an address only if its bytes
are those a URI may have.
-/
namespace EnvOperator

namespace Kind

/-- The group and version of the kind, as addresses begin. -/
def root : Kind → String
  | environment | environmentConfig => "/apis/kiln.dev/v1alpha1"
  | secret | service => "/api/v1"
  | job => "/apis/batch/v1"
  | deployment => "/apis/apps/v1"
  | ingress => "/apis/networking.k8s.io/v1"

def plural : Kind → String
  | environment => "environments"
  | environmentConfig => "environmentconfigs"
  | secret => "secrets"
  | job => "jobs"
  | deployment => "deployments"
  | service => "services"
  | ingress => "ingresses"

def collectionPath (k : Kind) (ns : String) : String :=
  k.root ++ "/namespaces/" ++ ns ++ "/" ++ k.plural

end Kind

namespace Address

/-- The path of an address, or why it is none. -/
def path? (address : String) : Except StoreError String :=
  let fault (what : String) : Except StoreError String :=
    .error (.api ("Failed to build request: failed to build request: " ++ what))
  if Uri.isTooLong address then fault "uri too long"
  else
    match Uri.pathOf? address.toList with
    | some path => .ok path
    | none => fault "invalid uri character"

end Address
end EnvOperator
