import EnvOperator.Cluster.Meta
import EnvOperator.Text.Trim

/-! # Names, labels and annotations

What the objects of an environment are called and how they are told apart from
other objects.
-/
namespace EnvOperator
namespace Naming

def apiVersion : String := "kiln.dev/v1alpha1"

/-- The annotation that says which revision an object is for. -/
def revisionAnnotation : String := "kiln.dev/revision"

def anonymousCredentialsAnnotation : String := "kiln.dev/anonymous-credentials"

/-- The label that all objects of one environment share. -/
def environmentLabel : String := "kiln.dev/environment"

def managedByLabel : String := "app.kubernetes.io/managed-by"

def componentLabel : String := "kiln.dev/component"

def manager : String := "kiln-operator"

def buildJobName (environment : String) : String := environment ++ "-build"

def credentialsSecretName (environment : String) : String := environment ++ "-credentials"

/-- The key of a revision's source archive in object storage. -/
def sourceArchiveKey (folder ns environment revision : String) : String :=
  let path := ns ++ "/" ++ environment ++ "/" ++ revision ++ ".tar.gz"
  let folder := Text.trim '/' folder
  if folder = "" then path else folder ++ "/" ++ path

def environmentLabels (environment : String) : StringMap :=
  .ofList [(environmentLabel, environment), (managedByLabel, manager)]

/-- The labels by which the pods of an environment are selected. -/
def selectorLabels (environment : String) : StringMap := .ofList [(environmentLabel, environment)]

end Naming
end EnvOperator
