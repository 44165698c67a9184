import EnvOperator.Pipeline.Build
import EnvOperator.Proofs.Dialogue.Rules
import EnvOperator.Text.TrimLemmas

/-! # Transports

The builder is told in its arguments to push over plain HTTP, and the tags of a registry are asked
for at its base URL. Both go by the scheme of the registry's URL. They agree on it wherever there is
one; a registry without a scheme is asked over plain HTTP, while the builder is not told so.
-/
namespace EnvOperator

def Registry.IsPlain (url : String) : Prop := Text.startsWith "http://" url = true

def Registry.IsSecure (url : String) : Prop := Text.startsWith "https://" url = true

def Snapshot.Insecure (x : Snapshot) : Prop := "--insecure" ∈ x.builder.args.getD []

instance (url : String) : Decidable (Registry.IsPlain url) := inferInstanceAs (Decidable (_ = true))

instance (url : String) : Decidable (Registry.IsSecure url) :=
  inferInstanceAs (Decidable (_ = true))

instance (x : Snapshot) : Decidable x.Insecure := inferInstanceAs (Decidable (_ ∈ _))

namespace Registry
variable {url scheme rest : String} {r : RegistrySettings}

theorem host_of_slashes (hscheme : scheme = "http://" ∨ scheme = "https://")
    (hurl : r.url = some (scheme ++ rest)) (hrest : Text.trimEnd '/' rest = "") : r.host = "" := by
  have hplain : Text.startsWith "http://" rest = false :=
    Text.startsWith_of_trimEnd_eq_empty hrest ⟨'h', by decide, by decide⟩
  have hsecure : Text.startsWith "https://" rest = false :=
    Text.startsWith_of_trimEnd_eq_empty hrest ⟨'h', by decide, by decide⟩
  have hdropped : Text.dropRepeated "http://" (Text.dropRepeated "https://" (scheme ++ rest)) =
      rest := by
    rcases hscheme with rfl | rfl
    · have hother : Text.startsWith "https://" ("http://" ++ rest) = false := by
        rw [Text.startsWith, String.toList_append]
        rfl
      rw [Text.dropRepeated_eq_self hother, Text.dropRepeated_append (by decide) hplain]
    · rw [Text.dropRepeated_append (by decide) hsecure, Text.dropRepeated_eq_self hplain]
  rw [RegistrySettings.host, hurl, Option.getD_some, hdropped, hrest]

/-- Closing slashes do not reach into the scheme of a URL with a host. -/
theorem startsWith_trimEnd (hscheme : scheme = "http://" ∨ scheme = "https://")
    (hurl : r.url = some url) (hhost : r.host ≠ "") (h : Text.startsWith scheme url = true) :
    Text.startsWith scheme (Text.trimEnd '/' url) = true := by
  obtain ⟨rest, rfl⟩ := Text.startsWith_iff.mp h
  have hrest : Text.trimEnd '/' rest ≠ "" :=
    fun hempty => hhost (host_of_slashes hscheme hurl hempty)
  rw [Text.trimEnd_append scheme hrest]
  exact Text.startsWith_append _ _

theorem IsSecure.not_isPlain (h : IsSecure url) : ¬ IsPlain url := by
  obtain ⟨rest, rfl⟩ := Text.startsWith_iff.mp h
  unfold IsPlain
  rw [Text.startsWith, String.toList_append]
  exact Bool.false_ne_true

theorem isPlain_baseUrl_iff (hurl : r.url = some url) (hhost : r.host ≠ "") :
    IsPlain (baseUrl url) ↔ ¬ IsSecure url := by
  constructor
  · intro hplain hsecure
    have htrimmed : IsSecure (Text.trimEnd '/' url) :=
      startsWith_trimEnd (.inr rfl) hurl hhost hsecure
    have hbase : baseUrl url = Text.trimEnd '/' url :=
      if_pos (Bool.or_eq_true_iff.mpr (.inr htrimmed))
    rw [hbase] at hplain
    exact htrimmed.not_isPlain hplain
  · intro hsecure
    have htrimmed : ¬ IsSecure (Text.trimEnd '/' url) :=
      fun h => hsecure (Text.startsWith_of_trimEnd h)
    by_cases hplain : IsPlain (Text.trimEnd '/' url)
    · have hbase : baseUrl url = Text.trimEnd '/' url :=
        if_pos (Bool.or_eq_true_iff.mpr (.inl hplain))
      rw [hbase]
      exact hplain
    · have hbase : baseUrl url = "http://" ++ Text.trimEnd '/' url :=
        if_neg fun h => (Bool.or_eq_true_iff.mp h).elim hplain htrimmed
      rw [hbase]
      exact Text.startsWith_append _ _

end Registry

namespace Snapshot
variable {x : Snapshot} {url : String}

/-- Where the environment gives no arguments, the builder is told to use plain HTTP if the URL
itself asks for it. -/
theorem insecure_iff (hargs : x.environment.spec.build.args = none)
    (hurl : x.config.spec.registry.url = some url) : x.Insecure ↔ Registry.IsPlain url := by
  have hother {front rest : String} (h : Text.startsWith front "--insecure" = false) :
      "--insecure" ≠ front ++ rest := by
    intro heq
    rw [heq, Text.startsWith_append] at h
    cases h
  have hgiven : x.builder.args.getD [] = x.builderArgs := by simp [builder, hargs]
  unfold Insecure Registry.IsPlain
  rw [hgiven, builderArgs, List.mem_append, hurl, Option.any_some]
  constructor
  · rintro (hmem | hmem)
    · simp only [List.mem_cons, List.not_mem_nil, or_false, String.append_assoc] at hmem
      rcases hmem with h | h | h | h | h | h | h
      · exact absurd h (hother (by decide))
      · exact absurd h (hother (by decide))
      · exact absurd h (hother (by decide))
      · exact absurd h (by decide)
      · exact absurd h (hother (by decide))
      · exact absurd h (hother (by decide))
      · exact absurd h (hother (by decide))
    · split at hmem
      · assumption
      · cases hmem
  · intro hplain
    rw [if_pos hplain]
    exact .inr List.mem_cons_self

end Snapshot

namespace Collection

/-- For a registry with a host and an environment that gives the builder no arguments, the builder
and the query for tags use the same transport if and only if the registry's URL has a scheme. -/
theorem transports_agree_iff {c : Collection} {url : String}
    (hargs : c.snapshot.environment.spec.build.args = none)
    (hurl : c.snapshot.config.spec.registry.url = some url)
    (hhost : c.snapshot.config.spec.registry.host ≠ "") :
    (∀ (status : EnvironmentStatus) (w : World),
      (c.verifyImage status).asked World.answer w = [.tags url c.snapshot.key.name]) ∧
    ((c.snapshot.Insecure ↔ Registry.IsPlain (Registry.baseUrl url)) ↔
      Registry.IsPlain url ∨ Registry.IsSecure url) := by
  constructor
  · intro status w
    unfold verifyImage
    dsimp only
    rw [hurl, Dialogue.asked_bind]
    split <;> rfl
  · rw [Snapshot.insecure_iff hargs hurl, Registry.isPlain_baseUrl_iff hurl hhost]
    constructor
    · intro h
      by_cases hsecure : Registry.IsSecure url
      · exact .inr hsecure
      · exact .inl (h.mpr hsecure)
    · rintro (hplain | hsecure)
      · exact iff_of_true hplain fun hsecure => hsecure.not_isPlain hplain
      · exact iff_of_false hsecure.not_isPlain fun h => h hsecure

end Collection

namespace Sample

def collectionAt (url : String) : Collection :=
  let x : Snapshot := {
    key := ⟨"dev", "web"⟩
    environment := { metadata := { name := some "web", ns := some "dev" }, spec := {} }
    config :=
      { metadata := { name := some "web", ns := some "kiln-system" },
        spec := { registry := { url } } }
    storageCredentials := Snapshot.anonymousCredentials "kiln-system"
    job := none
    deployment := none
    service := none
    ingress := none
    credentials := none }
  ⟨x, x.target⟩

end Sample

/-- With a scheme, the builder is told to use plain HTTP, and this is how the registry is asked. -/
theorem Collection.transports_agree_plain :
    (Sample.collectionAt "http://registry:5000/").snapshot.config.spec.registry.host ≠ "" ∧
    (Sample.collectionAt "http://registry:5000/").snapshot.Insecure ∧
    Registry.IsPlain (Registry.baseUrl "http://registry:5000/") := by
  have hhost : (Sample.collectionAt "http://registry:5000/").snapshot.config.spec.registry.host ≠
      "" := by decide
  have hinsecure : (Sample.collectionAt "http://registry:5000/").snapshot.Insecure := by decide
  have hagree :=
    (Collection.transports_agree_iff (c := Sample.collectionAt "http://registry:5000/") rfl rfl
      hhost).2.mpr
      (.inl (by decide))
  exact ⟨hhost, hinsecure, hagree.mp hinsecure⟩

/-- Without a scheme the registry is asked over plain HTTP, but the builder is not told to use
it. -/
theorem Collection.transports_differ_without_scheme :
    (Sample.collectionAt "registry:5000").snapshot.environment.spec.build.args = none ∧
    (Sample.collectionAt "registry:5000").snapshot.config.spec.registry.url = some "registry:5000" ∧
    (Sample.collectionAt "registry:5000").snapshot.config.spec.registry.host ≠ "" ∧
    ¬ (Sample.collectionAt "registry:5000").snapshot.Insecure ∧
    Registry.IsPlain (Registry.baseUrl "registry:5000") :=
  ⟨rfl, rfl, by decide, by decide, by decide⟩

end EnvOperator
