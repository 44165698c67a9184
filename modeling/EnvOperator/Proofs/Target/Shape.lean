import EnvOperator.Proofs.Pass.Interrupted

/-! # What the shape of a build job depends on

The build job of an environment is judged by its shape. The shape is decided by the revision, the
settings of the build, the configuration and two secrets; as long as these stay the same, every pass
wants a job of the same shape.
-/
namespace EnvOperator

/-- What the shape of an environment's build job is made from, as it is stored. -/
structure BuildInputs where
  revision : Option String
  build : BuildSpec
  config : EnvironmentConfigSpec
  storageCredentials : Secret
  credentials : Option Secret

namespace Snapshot

/-- Nothing else that has been found has a part in the shape. -/
theorem shape_buildJob_congr {x y : Snapshot} (hkey : x.key = y.key)
    (hrevision : x.revision = y.revision)
    (hbuild : x.environment.spec.build = y.environment.spec.build)
    (hconfig : x.config.spec = y.config.spec)
    (hstorage : x.storageCredentials = y.storageCredentials)
    (hcredentials : x.credentials = y.credentials) : x.buildJob.shape = y.buildJob.shape := by
  have htext : x.revisionText = y.revisionText := congrArg (·.getD "") hrevision
  have hargs : x.builderArgs = y.builderArgs := by
    simp only [builderArgs, hkey, htext, hbuild, hconfig]
  have henv : x.storageEnv = y.storageEnv := by
    simp only [storageEnv, hconfig, hstorage]
  have hbuilder : x.builder = y.builder := by
    simp only [builder, hargs, henv, hbuild, hcredentials]
  have hannotations : x.revisionAnnotations = y.revisionAnnotations := by
    rw [revisionAnnotations, revisionAnnotations, htext]
  simp only [Job.shape, Job.builder?, buildJob, ownedMeta, hbuilder, hannotations, hbuild]
  rfl

end Snapshot

namespace BuildInputs
variable {I : BuildInputs} {configNamespace : String} {defaults : Defaults} {key : ObjectKey}
  {s t : MemoryStore} {x : Snapshot}

def job (I : BuildInputs) (defaults : Defaults) (key : ObjectKey) : Job :=
  Snapshot.buildJob {
    key
    environment :=
      Environment.applyDefaults
        { metadata := {}, spec := { revision := I.revision, build := I.build } } defaults
    config := EnvironmentConfig.applyDefaults { metadata := {}, spec := I.config } defaults
    storageCredentials := I.storageCredentials
    job := none
    deployment := none
    service := none
    ingress := none
    credentials := I.credentials }

structure ShownBy (I : BuildInputs) (configNamespace : String) (key : ObjectKey) (s : MemoryStore) :
    Prop where
  environment : ∀ e, s.stored? .environment key = some e → e.spec.revision = I.revision ∧
    e.spec.build = I.build
  config : ∀ e g, s.stored? .environment key = some e →
    s.stored? .environmentConfig ⟨configNamespace, e.configName⟩ = some g → g.spec = I.config
  storageCredentials : ∀ e g secret, s.stored? .environment key = some e →
    s.stored? .environmentConfig ⟨configNamespace, e.configName⟩ = some g →
    Snapshot.Credentials configNamespace s g secret → secret = I.storageCredentials
  credentials :
    ∀ found, s.read .secret (key.sibling (Naming.credentialsSecretName key.name)) = .ok found →
    found = I.credentials

theorem ShownBy.shape_eq (h : I.ShownBy configNamespace key s)
    (hx : x.Reflects configNamespace defaults key s) :
    x.buildJob.shape = (I.job defaults key).shape := by
  obtain ⟨e, he, henv⟩ := hx.environment
  obtain ⟨g, hg, hconfig⟩ := hx.config
  have hcredentials := hx.storageCredentials
  rw [henv] at hg
  rw [hconfig] at hcredentials
  obtain ⟨hrevision, hbuild⟩ := h.environment e he
  refine Snapshot.shape_buildJob_congr hx.key_eq ?_ ?_ ?_
    (h.storageCredentials e g _ he hg hcredentials)
    (h.credentials _ hx.credentials)
  · rw [Snapshot.revision, henv]
    exact hrevision
  · rw [henv]
    exact congrArg (·.applyDefaults defaults) hbuild
  · rw [hconfig]
    exact congrArg (·.applyDefaults defaults) (h.config e g he hg)

/-- The inputs stay as they are where only statuses change, and objects that passes make. -/
theorem ShownBy.of_frame (h : I.ShownBy configNamespace key s)
    (hframe : ∀ k, ¬ k.IsMade → k ≠ .environment → ∀ key', t.objects.get? ⟨k, key'⟩ =
      s.objects.get? ⟨k, key'⟩)
    (henvironment : ∀ e', t.stored? .environment key = some e' → ∃ e, s.stored? .environment key =
      some e ∧
      e'.metadata = e.metadata ∧ e'.spec = e.spec) : I.ShownBy configNamespace key t := by
  have hconfig (key' : ObjectKey) :
      t.stored? .environmentConfig key' = s.stored? .environmentConfig key' :=
    MemoryStore.stored?_congr (hframe .environmentConfig (by simp [Kind.IsMade]) (by decide) key')
  have hsecret (key' : ObjectKey) :
      t.objects.get? ⟨.secret, key'⟩ = s.objects.get? ⟨.secret, key'⟩ :=
    hframe .secret (by simp [Kind.IsMade]) (by decide) key'
  have hfound (e' : Environment) (g : EnvironmentConfig)
      (he' : t.stored? .environment key = some e')
      (hg : t.stored? .environmentConfig ⟨configNamespace, e'.configName⟩ = some g) :
      ∃ e, s.stored? .environment key = some e ∧
        s.stored? .environmentConfig ⟨configNamespace, e.configName⟩ = some g := by
    obtain ⟨e, he, hmetadata, hspec⟩ := henvironment e' he'
    refine ⟨e, he, ?_⟩
    rw [← hconfig, ← hg, Environment.configName, Environment.configName, hmetadata, hspec]
  constructor
  · intro e' he'
    obtain ⟨e, he, _, hspec⟩ := henvironment e' he'
    rw [hspec]
    exact h.environment e he
  · intro e' g he' hg
    obtain ⟨e, he, hg'⟩ := hfound e' g he' hg
    exact h.config e g he hg'
  · intro e' g secret he' hg hcredentials
    obtain ⟨e, he, hg'⟩ := hfound e' g he' hg
    refine h.storageCredentials e g secret he hg' (hcredentials.congr fun key' => ?_)
    exact (MemoryStore.stored?_congr (hsecret key')).symm
  · intro found hread
    refine h.credentials found ?_
    rw [← hread]
    exact (MemoryStore.read_congr (hsecret _)).symm

end BuildInputs
end EnvOperator
