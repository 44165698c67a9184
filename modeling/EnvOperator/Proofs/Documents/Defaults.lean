import EnvOperator.Environment.Basic
import EnvOperator.Environment.Config

/-! # Settings and their defaults

Specifications are read setting by setting. A table says of each setting where it stands and what
fills it when it is left open; the settings of a table together are all that a specification says.
Defaults are filled in by the table: what is there is kept, what is open is filled, and the second
time there is nothing left to do.
-/
namespace EnvOperator

/-- One setting of a specification, and what the defaults hold for it where a specification leaves
it open. -/
structure Setting (σ : Type) where
  Value : Type
  get : σ → Option Value
  fallback : Defaults → σ → Option Value

namespace Setting
variable {σ α β : Type}

def plain (get : σ → Option α) : Setting σ := ⟨α, get, fun _ _ => none⟩

def defaulted (get : σ → Option α) (default : Defaults → α) : Setting σ :=
  ⟨α, get, fun d _ => some (default d)⟩

def within (part : σ → β) (f : Setting β) : Setting σ :=
  ⟨f.Value, fun s => f.get (part s), fun d s => f.fallback d (part s)⟩

def inSection (part : σ → Option β) (f : Setting β) : Setting σ :=
  ⟨f.Value, fun s => (part s).bind f.get, fun d s => (part s).bind (f.fallback d)⟩

/-- Settings that are kept where they are there, and else filled with their defaults. -/
def FilledBy (settings : List (Setting σ)) (fill : σ → Defaults → σ) : Prop :=
  ∀ f ∈ settings, ∀ s d, f.get (fill s d) = (f.get s).or (f.fallback d s) ∧
    f.fallback d (fill s d) = f.fallback d s

/-- Settings that leave nothing open about a specification. -/
def Determine (settings : List (Setting σ)) : Prop :=
  ∀ s t : σ, (∀ f ∈ settings, f.get s = f.get t) → s = t

section
variable {settings others : List (Setting σ)} {parts : List (Setting β)} {fill : σ → Defaults → σ}
  {fillPart : β → Defaults → β}

theorem FilledBy.append (h : FilledBy settings fill) (h' : FilledBy others fill) :
    FilledBy (settings ++ others) fill := List.forall_mem_append.mpr ⟨h, h'⟩

theorem FilledBy.within (h : FilledBy parts fillPart) {part : σ → β}
    (hpart : ∀ s d, part (fill s d) = fillPart (part s) d) :
    FilledBy (parts.map (within part)) fill := by
  refine List.forall_mem_map.mpr fun f hf s d => ?_
  simp only [Setting.within, hpart]
  exact h f hf (part s) d

theorem FilledBy.inSection (h : FilledBy parts fillPart) {part : σ → Option β}
    (hpart : ∀ s d, part (fill s d) = (part s).map (fillPart · d)) :
    FilledBy (parts.map (inSection part)) fill := by
  refine List.forall_mem_map.mpr fun f hf s d => ?_
  simp only [Setting.inSection, hpart]
  cases part s with
  | none => exact ⟨rfl, rfl⟩
  | some b => exact h f hf b d

theorem eq_of_within (h : Determine parts) {part : σ → β} {s t : σ}
    (hget : ∀ f ∈ parts.map (within part), f.get s = f.get t) : part s = part t :=
  h _ _ (List.forall_mem_map.mp hget)

/-- A section is known by its settings if one of them is always there. -/
theorem eq_of_inSection (h : Determine parts) (hsome : ∃ f ∈ parts, ∀ b, (f.get b).isSome)
    {part : σ → Option β} {s t : σ} (hget : ∀ f ∈ parts.map (inSection part), f.get s = f.get t) :
    part s = part t := by
  have hget := List.forall_mem_map.mp hget
  simp only [inSection] at hget
  obtain ⟨f, hf, hfsome⟩ := hsome
  have hthere := congrArg Option.isSome (hget f hf)
  cases hs : part s with
  | none =>
    cases ht : part t with
    | none => rfl
    | some b => simp [hs, ht, hfsome] at hthere
  | some a =>
    cases ht : part t with
    | none => simp [hs, ht, hfsome] at hthere
    | some b =>
      rw [hs, ht] at hget
      exact congrArg some (h a b hget)

structure Completes (settings : List (Setting σ)) (fill : σ → Defaults → σ) : Prop where
  keeps : ∀ f ∈ settings, ∀ s d v, f.get s = some v → f.get (fill s d) = some v
  fills : ∀ f ∈ settings, ∀ s d, f.get s = none → f.get (fill s d) = f.fallback d s
  /-- What has been filled in once is no longer open. -/
  idempotent : ∀ s d, fill (fill s d) d = fill s d
  /-- There are no other settings. -/
  determine : Determine settings

theorem FilledBy.completes (h : FilledBy settings fill) (hall : Determine settings) :
    Completes settings fill where
  keeps f hf s d v hs := by rw [(h f hf s d).1, hs, Option.some_or]
  fills f hf s d hs := by rw [(h f hf s d).1, hs, Option.none_or]
  idempotent s d := by
    refine hall _ _ fun f hf => ?_
    rw [(h f hf (fill s d) d).1, (h f hf s d).2, (h f hf s d).1, Option.or_assoc, Option.or_self]
  determine := hall

end
end Setting

theorem filled_eq_or {α : Type} (setting : Option α) (default : α) :
    filled setting default = setting.or (some default) := by
  cases setting <;> rfl

open Setting

/-! ## Environments -/

namespace BuildSpec

def settings : List (Setting BuildSpec) := [
  .defaulted (·.image) (·.buildImage),
  .defaulted (·.dockerfile) (·.dockerfile),
  .defaulted (·.platform) (·.platform),
  .plain (some ·.included), .plain (some ·.excluded), .plain (·.args), .plain (·.env),
  .defaulted (·.verbosity) (·.verbosity),
  .defaulted (·.backoffLimit) (·.backoffLimit),
  .defaulted (·.activeDeadlineSeconds) (·.activeDeadlineSeconds)]

theorem filledBy : FilledBy settings applyDefaults := by
  simp [FilledBy, settings, plain, defaulted, applyDefaults, filled_eq_or]

theorem determine : Determine settings := by
  rintro ⟨⟩ ⟨⟩ h
  simpa [settings, plain, defaulted] using h

end BuildSpec

namespace ServiceSettings

def settings : List (Setting ServiceSettings) := [
  .plain (some ·.enabled),
  .defaulted (·.type) (·.serviceType),
  .plain (·.ports)]

theorem filledBy : FilledBy settings applyDefaults := by
  simp [FilledBy, settings, plain, defaulted, applyDefaults, filled_eq_or]

theorem determine : Determine settings := by
  rintro ⟨⟩ ⟨⟩ h
  simpa [settings, plain, defaulted] using h

end ServiceSettings

namespace IngressSettings

def settings : List (Setting IngressSettings) := [
  .plain (some ·.enabled), .plain (·.host),
  .defaulted (·.path) (·.ingressPath),
  .plain (·.className), .plain (·.tlsSecretName)]

theorem filledBy : FilledBy settings applyDefaults := by
  simp [FilledBy, settings, plain, defaulted, applyDefaults, filled_eq_or]

theorem determine : Determine settings := by
  rintro ⟨⟩ ⟨⟩ h
  simpa [settings, plain, defaulted] using h

end IngressSettings

namespace EnvironmentSpec

def ownSettings : List (Setting EnvironmentSpec) := [
  .plain (·.revision), .plain (·.config),
  .defaulted (·.replicas) (·.replicas),
  .plain (·.command), .plain (·.args), .plain (·.workingDir), .plain (·.ports), .plain (·.env),
  .plain (·.resources), .plain (·.livenessProbe), .plain (·.readinessProbe),
  .plain (·.startupProbe), .plain (·.lifecycle)]

def settings : List (Setting EnvironmentSpec) :=
  ownSettings ++ BuildSpec.settings.map (.within (·.build)) ++
    ServiceSettings.settings.map (.inSection (·.service)) ++ IngressSettings.settings.map
      (.inSection (·.ingress))

theorem filledBy : FilledBy settings applyDefaults := by
  have hown : FilledBy ownSettings applyDefaults := by
    simp [FilledBy, ownSettings, plain, defaulted, applyDefaults, filled_eq_or]
  exact ((hown.append (BuildSpec.filledBy.within fun _ _ => rfl)).append
    (ServiceSettings.filledBy.inSection fun _ _ => rfl)).append
      (IngressSettings.filledBy.inSection fun _ _ => rfl)

theorem determine : Determine settings := by
  intro s t h
  simp only [settings, List.forall_mem_append] at h
  obtain ⟨⟨⟨hown, hbuild⟩, hservice⟩, hingress⟩ := h
  have hbuild : s.build = t.build := eq_of_within BuildSpec.determine hbuild
  have hservice : s.service = t.service :=
    eq_of_inSection ServiceSettings.determine ⟨_, List.mem_cons_self, fun _ => rfl⟩ hservice
  have hingress : s.ingress = t.ingress :=
    eq_of_inSection IngressSettings.determine ⟨_, List.mem_cons_self, fun _ => rfl⟩ hingress
  cases s
  cases t
  simp_all [ownSettings, plain, defaulted]

theorem completes : Completes settings applyDefaults := filledBy.completes determine

end EnvironmentSpec

/-! ## Configurations -/

namespace StorageSettings

/-- The endpoint need not have a default. -/
def settings : List (Setting StorageSettings) := [
  ⟨String, (·.endpoint), fun d _ => d.storageEndpoint⟩,
  .defaulted (·.bucket) (·.storageBucket),
  .defaulted (·.folder) (·.storageFolder),
  .defaulted (·.region) (·.storageRegion),
  .plain (·.credentialsSecret)]

theorem filledBy : FilledBy settings applyDefaults := by
  simp [FilledBy, settings, plain, defaulted, applyDefaults, filled_eq_or]

theorem determine : Determine settings := by
  rintro ⟨⟩ ⟨⟩ h
  simpa [settings, plain, defaulted] using h

end StorageSettings

namespace RegistrySettings

def settings : List (Setting RegistrySettings) := [
  .defaulted (·.url) (·.registryUrl),
  .defaulted (·.nodePort) (·.registryNodePort)]

theorem filledBy : FilledBy settings applyDefaults := by
  simp [FilledBy, settings, defaulted, applyDefaults, filled_eq_or]

theorem determine : Determine settings := by
  rintro ⟨⟩ ⟨⟩ h
  simpa [settings, defaulted] using h

end RegistrySettings

namespace EnvironmentConfigSpec

def settings : List (Setting EnvironmentConfigSpec) :=
  StorageSettings.settings.map (.within (·.storage)) ++ RegistrySettings.settings.map
    (.within (·.registry))

theorem filledBy : FilledBy settings applyDefaults :=
  (StorageSettings.filledBy.within fun _ _ => rfl).append
    (RegistrySettings.filledBy.within fun _ _ => rfl)

theorem determine : Determine settings := by
  intro s t h
  obtain ⟨hstorage, hregistry⟩ := List.forall_mem_append.mp h
  have hstorage : s.storage = t.storage := eq_of_within StorageSettings.determine hstorage
  have hregistry : s.registry = t.registry := eq_of_within RegistrySettings.determine hregistry
  cases s
  cases t
  exact (mk.injEq ..).mpr ⟨hstorage, hregistry⟩

theorem completes : Completes settings applyDefaults := filledBy.completes determine

end EnvironmentConfigSpec
end EnvOperator
