import EnvOperator.Target.Metadata

/-! # The build job

The job runs the builder on the source archive of the revision and has it push
the image to the registry under the revision as its tag. A job is never changed:
one of another shape is deleted and made anew.
-/
namespace EnvOperator

def builderContainer : String := "builder"

namespace EnvVar

/-- Variables of different names, and where the variable of each name stands. -/
structure Table where
  vars : List EnvVar := []
  places : SortedMap String Nat := ∅
  placed (name : String) (i : Nat) :
    places.get? name = some i ↔ (vars.map EnvVar.name)[i]? = some name := by simp

namespace Table

/-- A variable that takes the place of another one of its name leaves all names where they are. -/
theorem map_name_set {vars : List EnvVar} {v : EnvVar} {i : Nat}
    (h : (vars.map EnvVar.name)[i]? = some v.name) :
    (vars.set i v).map EnvVar.name = vars.map EnvVar.name := by
  obtain ⟨hi, hname⟩ := List.getElem?_eq_some_iff.mp h
  rw [List.map_set, ← hname, List.set_getElem_self]

/-- A variable of a new name stands behind all others. -/
theorem placed_append {t : Table} {v : EnvVar} (h : t.places.get? v.name = none) (name : String)
    (i : Nat) : (t.places.insert v.name t.vars.length).get? name = some i ↔
      ((t.vars ++ [v]).map EnvVar.name)[i]? = some name := by
  have hfresh : (t.vars.map EnvVar.name)[i]? ≠ some v.name := by
    intro hi
    rw [(t.placed _ _).mpr hi] at h
    cases h
  rw [SortedMap.get?_insert, List.map_append, List.map_singleton, List.getElem?_append,
    List.length_map]
  split
  · grind
  · rw [t.placed]
    grind

/-- Put a variable in the place of the one of its name, or at the end. -/
def add (t : Table) (v : EnvVar) : Table :=
  match h : t.places.get? v.name with
  | some i => ⟨t.vars.set i v, t.places, by rw [map_name_set ((t.placed _ _).mp h)]; exact t.placed⟩
  | none => ⟨t.vars ++ [v], t.places.insert v.name t.vars.length, placed_append h⟩

def ofList (vs : List EnvVar) : Table := vs.foldl add {}

end Table

/-- Of several variables of one name the last one counts, in the place of the first. -/
def merge (base overrides : List EnvVar) : List EnvVar := (Table.ofList (base ++ overrides)).vars

end EnvVar

namespace PodFailurePolicy

/-- A pod that is driven out by the cluster does not count as a failed build. -/
def ignoreDisruptions : PodFailurePolicy where
  rules := [{ action := "Ignore", onPodConditions := some [⟨"True", "DisruptionTarget"⟩] }]

end PodFailurePolicy

namespace Snapshot

/-- The arguments for the builder when the environment gives none. -/
def builderArgs (s : Snapshot) : List String :=
  let build := s.environment.spec.build
  let storage := s.config.spec.storage
  let name := s.key.name
  let registry := s.config.spec.registry.host
  let archive := Naming.sourceArchiveKey (storage.folder.getD "") s.key.ns name s.revisionText
  ["--dockerfile=" ++ build.dockerfile.getD "",
    "--context=s3://" ++ storage.bucket.getD "" ++ "/" ++ archive,
    "--destination=" ++ registry ++ "/" ++ name ++ ":" ++ s.revisionText,
    "--cache=true",
    "--cache-repo=" ++ registry ++ "/" ++ name ++ "/cache",
    "--custom-platform=" ++ build.platform.getD "",
    "--verbosity=" ++ build.verbosity.getD ""]
  ++ if s.config.spec.registry.url.any (Text.startsWith "http://") then ["--insecure"] else []

/-- How the builder reaches the storage; the credentials may override the region and the
endpoint. -/
def storageEnv (s : Snapshot) : List EnvVar :=
  let storage := s.config.spec.storage
  let region := (s.storageCredentials.text? "region").or storage.region
  let endpoint := (s.storageCredentials.text? "endpoint").or storage.endpoint
  [{ name := "AWS_REGION", value := some (region.getD "") }]
  ++ (endpoint.map fun e => { name := "S3_ENDPOINT", value := some e }).toList
  ++
    [{ name := "S3_FORCE_PATH_STYLE", value := some (if endpoint.isSome then "true" else "false") }]

def builder (s : Snapshot) : Container :=
  let build := s.environment.spec.build
  { name := builderContainer
    image := build.image
    args := some (build.args.getD s.builderArgs)
    env := some (EnvVar.merge s.storageEnv (build.env.getD []))
    envFrom := s.credentials.map fun secret =>
      [{ secretRef := some { name := secret.metadata.name.getD "" } }] }

def buildJob (s : Snapshot) : Job where
  metadata := s.ownedMeta (Naming.buildJobName s.key.name) "build"
  spec := some {
    backoffLimit := s.environment.spec.build.backoffLimit
    activeDeadlineSeconds := s.environment.spec.build.activeDeadlineSeconds
    podFailurePolicy := some PodFailurePolicy.ignoreDisruptions
    template := {
      metadata := some {
        labels := some (Naming.environmentLabels s.key.name)
        annotations := some s.revisionAnnotations }
      spec := some { restartPolicy := some "Never", containers := [s.builder] } } }

end Snapshot

/-- What the operator decides about a build job; the rest is the server's. -/
structure JobShape where
  revision : Option String
  image : Option String
  command : Option (List String)
  args : Option (List String)
  env : Option (List EnvVar)
  envFrom : Option (List EnvFromSource)
  backoffLimit : Option Int32
  activeDeadlineSeconds : Option Int64
  podFailurePolicy : Option PodFailurePolicy
deriving DecidableEq

namespace Job

/-- The first container that bears the builder's name. -/
def builder? (j : Job) : Option Container := do
  (← (← j.spec).template.spec).containers.find? fun c => c.name == builderContainer

def shape (j : Job) : JobShape where
  revision := j.metadata.annotations.bind (·.get? Naming.revisionAnnotation)
  image := j.builder?.bind (·.image)
  command := j.builder?.bind (·.command)
  args := j.builder?.bind (·.args)
  env := j.builder?.bind (·.env)
  envFrom := j.builder?.bind (·.envFrom)
  backoffLimit := j.spec.bind (·.backoffLimit)
  activeDeadlineSeconds := j.spec.bind (·.activeDeadlineSeconds)
  podFailurePolicy := j.spec.bind (·.podFailurePolicy)

def sameShape (a b : Job) : Bool := a.shape == b.shape

end Job
end EnvOperator
