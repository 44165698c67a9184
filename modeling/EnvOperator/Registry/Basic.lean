import EnvOperator.Data.SortedMap
import EnvOperator.Text.Trim

/-! # Registries

A registry lists the tags of a repository at an address made of its own URL and
the repository's name. A URL without a scheme is taken as plain HTTP.
A registry in memory holds the tags pushed to it, in order, and can be made unavailable.
-/
namespace EnvOperator

inductive RegistryError
  /-- No usable answer: a bad address, no connection, or a body that is no list of tags. -/
  | unreachable
  | unexpectedStatus (status : Nat) (url : String)
deriving DecidableEq

def RegistryError.message : RegistryError → String
  | unreachable => "HTTP error"
  | unexpectedStatus status url => "registry returned " ++ toString status ++ " for " ++ url

namespace Registry

def baseUrl (url : String) : String :=
  let url := Text.trimEnd '/' url
  if Text.startsWith "http://" url || Text.startsWith "https://" url then url else "http://" ++ url

def tagsUrl (url repository : String) : String :=
  baseUrl url ++ "/v2/" ++ repository ++ "/tags/list"

end Registry

structure RegistryDouble where
  tags : SortedMap String (SortedMap String Unit) := ∅
  unavailable : Bool := false

namespace RegistryDouble

def tagsOf (r : RegistryDouble) (repository : String) : SortedMap String Unit :=
  (r.tags.get? repository).getD ∅

def push (r : RegistryDouble) (repository tag : String) : RegistryDouble :=
  { r with tags := r.tags.insert repository ((r.tagsOf repository).insert tag ()) }

def listTags (r : RegistryDouble) (url repository : String) : Except RegistryError (List String) :=
  if r.unavailable then .error (.unexpectedStatus 503 (Registry.tagsUrl url repository))
  else .ok (r.tagsOf repository).keys

end RegistryDouble
end EnvOperator
