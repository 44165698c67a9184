import EnvOperator.Json.Basic

/-! # Resource definitions

The two types of resources as a cluster has to be told of them. Neither says
anything about the contents of its objects.
-/
namespace EnvOperator

structure ResourceDefinition where
  kind : String
  singular : String
  plural : String
  shortNames : List String
  hasStatus : Bool

namespace ResourceDefinition

def group : String := "kiln.dev"

def environment : ResourceDefinition :=
  ⟨"Environment", "environment", "environments", ["env"], true⟩

def environmentConfig : ResourceDefinition :=
  ⟨"EnvironmentConfig", "environmentconfig", "environmentconfigs", [], false⟩

def names (d : ResourceDefinition) : Json :=
  .object [("categories", .array []), ("kind", .string d.kind), ("plural", .string d.plural),
    ("shortNames", .array (d.shortNames.map .string)), ("singular", .string d.singular)]

def version (d : ResourceDefinition) : Json :=
  .object [("additionalPrinterColumns", .array []), ("name", .string "v1alpha1"),
    ("schema", .object []), ("served", .bool true), ("storage", .bool true),
    ("subresources", .object (if d.hasStatus then [("status", .object [])] else []))]

def json (d : ResourceDefinition) : Json :=
  .object [("apiVersion", .string "apiextensions.k8s.io/v1"),
    ("kind", .string "CustomResourceDefinition"),
    ("metadata", .object [("name", .string (d.plural ++ "." ++ group))]),
    ("spec", .object [("group", .string group), ("names", d.names), ("scope", .string "Namespaced"),
      ("versions", .array [d.version])])]

def all : List ResourceDefinition := [environment, environmentConfig]

end ResourceDefinition
end EnvOperator
