import EnvOperator.Json.Printer
import EnvOperator.Net.Http
import EnvOperator.Status.Report
import EnvOperator.Text.Bytes

/-! # The status router

Two addresses are served, the operator's health and the status of a tracked
environment. The namespace and the name in an address are percent-encoded and may
be empty.
-/
namespace EnvOperator

inductive Route
  | health
  | status (ns name : String)
deriving DecidableEq

namespace Route

/-- The parts between the slashes of a path that begins with one. -/
def segments (path : String) : List String := (path.splitOn "/").drop 1

def ofPath? (path : String) : Option Route :=
  match segments path with
  | ["healthz"] => some health
  | ["v1", "environments", ns, name, "status"] => some (status ns name)
  | _ => none

end Route

namespace HttpReply

def ofJson (status : Nat) (j : Json) : HttpReply := ⟨status, j.compact⟩

end HttpReply

namespace Tracker

def invalidText (parameter : String) : HttpReply :=
  ⟨400, "Invalid URL: Invalid UTF-8 in `" ++ parameter ++ "`"⟩

def statusReply (t : Tracker) (ns name : String) : HttpReply :=
  match Text.percentDecode ns with
  | none => invalidText "namespace"
  | some ns =>
    match Text.percentDecode name with
    | none => invalidText "name"
    | some name =>
      match t.get? ⟨ns, name⟩ with
      | some tracked => .ofJson 200 (tracked.report ⟨ns, name⟩)
      | none => .ofJson 404 (notTracked ⟨ns, name⟩)

def get (t : Tracker) (now : Instant) : Route → HttpReply
  | .health => .ofJson 200 (EnvOperator.health now)
  | .status ns name => t.statusReply ns name

/-- Only reading is served; a request for the head gets no body. -/
def serve (t : Tracker) (now : Instant) (method path : String) : HttpReply :=
  match Route.ofPath? path with
  | none => ⟨404, ""⟩
  | some route =>
    if method = "GET" then t.get now route
    else if method = "HEAD" then { t.get now route with body := "" }
    else ⟨405, ""⟩

/-- The reply to a request, unless its method or its URI is malformed. -/
def serve? (t : Tracker) (now : Instant) (method uri : String) : Option HttpReply :=
  if isMethodName method then (Uri.path? uri).map (t.serve now method) else none

end Tracker
end EnvOperator
