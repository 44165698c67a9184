import EnvOperator.Json.Basic
import EnvOperator.Progress.Tracker

/-! # Status reports

What those who watch an environment are told, and how a problem is described.
-/
namespace EnvOperator

namespace Tracked

/-- The answers to the questions that a watcher asks first. -/
def flags (t : Tracked) : Json.Members :=
  [("changed", .bool t.hasChanged), ("deployed", .bool t.isDeployed),
    ("converging", .bool t.isConverging), ("failed", .bool t.isFailed)]

def members (t : Tracked) : Json.Members :=
  [("status", .string t.status), ("stage", Stage.codec.encode t.stage),
    ("lastStage", Stage.codec.encode t.lastStage),
    ("updatedAt", .string (Rfc3339.write t.updatedAt))]

def report (t : Tracked) (key : ObjectKey) : Json :=
  .object ([("namespace", .string key.ns), ("name", .string key.name)] ++ t.members ++ t.flags)

end Tracked

/-- The description of a problem with one environment. -/
def notTracked (key : ObjectKey) : Json :=
  .object [("type", .string "https://kiln.dev/problems/environment_not_tracked"),
    ("title", .string "Not Found"), ("status", .integer 404),
    ("detail", .string ("environment " ++ key.text ++ " is not tracked")),
    ("code", .string "environment_not_tracked")]

def health (now : Instant) : Json :=
  .object [("status", .string "ok"), ("service", .string "kiln-operator"),
    ("version", .string "0.1.0"), ("timestamp", .string (Rfc3339.writeOffset now))]

end EnvOperator
