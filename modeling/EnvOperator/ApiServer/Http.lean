import EnvOperator.ApiServer.Address
import EnvOperator.Store.Request

/-! # Requests over HTTP

Every request to the store is one HTTP request to the API server. Objects are
created in their collection and otherwise addressed by name; deletion takes the
dependent objects along in the background; a status is sent as a merge patch of
the status alone.
-/
namespace EnvOperator

structure HttpRequest where
  method : String
  path : String
  contentType : Option String := none
  body : Option Json := none

namespace HttpRequest

def json : String := "application/json"

def mergePatch : String := "application/merge-patch+json"

def deletion : Json := .object [("propagationPolicy", .string "Background")]

def statusPatch (status : EnvironmentStatus) : Json :=
  .object [("status", EnvironmentStatus.codec.encode status)]

/-- The path of a named object, with what may follow its name. -/
def objectPath (k : Kind) (key : ObjectKey) (after : String) : Except StoreError String :=
  if key.name = "" then
    .error
      (.api "Failed to build request: failed to validate request: A non-empty name is required")
  else Address.path? (k.collectionPath key.ns ++ "/" ++ key.name ++ after ++ "?")

def ofRequest : Request → Except StoreError HttpRequest
  | .get k key => return { method := "GET", path := ← objectPath k key "" }
  | .create k object => do
    let key ← k.keyOf object
    return { method := "POST", path := ← Address.path? (k.collectionPath key.ns ++ "?"),
             contentType := some json, body := some (k.codec.encode object) }
  | .replace k object => do
    let key ← k.keyOf object
    return { method := "PUT", path := ← objectPath k key "",
             contentType := some json, body := some (k.codec.encode object) }
  | .delete k key =>
    return { method := "DELETE", path := ← objectPath k key "",
             contentType := some json, body := some deletion }
  | .updateStatus key status =>
    return { method := "PATCH", path := ← objectPath .environment key "/status",
             contentType := some mergePatch, body := some (statusPatch status) }

end HttpRequest
end EnvOperator
