import EnvOperator.Proofs.Pass.Races
import EnvOperator.Proofs.Target.Images

/-! # Shared images

The name of an image does not say in which namespace its environment is. Environments that use one
registry have their images for themselves exactly if they differ in name or in revision.
-/
namespace EnvOperator

namespace ImageName
variable {a b : ImageName}

def text (image : ImageName) : String := image.repository ++ ":" ++ image.tag

theorem reference_eq (image : ImageName) (registry : String) :
    image.reference registry = registry ++ "/" ++ image.text := by
  simp only [reference, text, String.append_assoc]

theorem reference_inj {registry : String} :
    a.reference registry = b.reference registry ↔ a.text = b.text := by
  rw [reference_eq, reference_eq, String.append_right_inj]

/-- A colon can be read as part of the repository or of the tag, but repositories have none. -/
theorem text_inj (ha : ':' ∉ a.repository.toList) (hb : ':' ∉ b.repository.toList) :
    a.text = b.text ↔ a = b := by
  refine ⟨fun h => ?_, congrArg text⟩
  have hchars : a.repository.toList ++ ':' :: a.tag.toList =
      b.repository.toList ++ ':' :: b.tag.toList := by
    simpa [text] using congrArg String.toList h
  obtain ⟨hrepository, htag⟩ := (Text.cut_inj ha hb).mp hchars
  cases a
  cases b
  exact congrArg₂ ImageName.mk (String.toList_injective hrepository) (String.toList_injective htag)

end ImageName

namespace RegistryDouble
variable {r : RegistryDouble} {a b : ImageName}

def Holds (r : RegistryDouble) (image : ImageName) : Prop :=
  image.tag ∈ (r.tagsOf image.repository).keys

theorem holds_push : (r.push a.repository a.tag).Holds b ↔ b = a ∨ r.Holds b := by
  have htags : (r.push a.repository a.tag).tagsOf b.repository =
      if b.repository = a.repository then (r.tagsOf a.repository).insert a.tag ()
        else r.tagsOf b.repository := by
    unfold push tagsOf
    rw [SortedMap.get?_insert]
    split <;> rfl
  unfold Holds
  rw [htags, SortedMap.mem_keys_iff, SortedMap.mem_keys_iff, ImageName.ext_iff]
  by_cases hrepository : b.repository = a.repository
  · rw [if_pos hrepository, SortedMap.get?_insert, hrepository]
    by_cases htag : b.tag = a.tag
    · simp [htag]
    · simp [htag]
  · simp [hrepository]

end RegistryDouble

namespace Collection

/-- A registry that answers lets the workload's turn come exactly if it holds the image. -/
theorem verifyImage_next_iff_holds {c : Collection} {status : EnvironmentStatus} {w : World}
    (havailable : w.registry.unavailable = false) :
    ((c.verifyImage status).inWorld w).1.next = .deploy ↔ w.registry.Holds c.snapshot.image := by
  have hlist (url : String) : (World.answer (.tags url c.snapshot.image.repository) w).1 =
      .ok (w.registry.tagsOf c.snapshot.image.repository).keys := by
    rw [World.answer, RegistryDouble.listTags, havailable]
    rfl
  refine (verifyImage_next_iff rfl).trans ?_
  rw [hlist]
  constructor
  · rintro ⟨tags, htags, hmem⟩
    rw [← Except.ok.inj htags] at hmem
    exact hmem
  · exact fun hmem => ⟨_, rfl, hmem⟩

end Collection

namespace Snapshot

/-- Two environments are built by the operator's own arguments and for the same registry. -/
structure SharesRegistry (x y : Snapshot) : Prop where
  registry : x.config.spec.registry = y.config.spec.registry
  left : x.environment.spec.build.args = none
  right : y.environment.spec.build.args = none

/-- Two environments that share a registry push and run the same image if and only if name and
revision make the same text. Among names without a colon this takes the same name and the same
revision, and then, in whatever namespaces they are, what the one pushes is found when the other's
image is looked up. -/
theorem same_image_iff {x y : Snapshot} (h : x.SharesRegistry y) :
    (x.target.job.options "destination" = y.target.job.options "destination" ↔
      x.image.text = y.image.text) ∧
    (x.target.deployment.images = y.target.deployment.images ↔ x.image.text = y.image.text) ∧
    (':' ∉ x.key.name.toList → ':' ∉ y.key.name.toList →
      (x.image.text = y.image.text ↔ x.key.name = y.key.name ∧ x.revisionText = y.revisionText)) ∧
    ∀ (w : World) (status : EnvironmentStatus), w.registry.unavailable = false →
    ¬ w.registry.Holds x.image →
      let pushed := { w with registry := w.registry.push y.key.name y.revisionText }
      (((Collection.verifyImage ⟨x, x.target⟩ status).inWorld pushed).1.next = .deploy ↔
        x.key.name = y.key.name ∧ x.revisionText = y.revisionText) := by
  refine ⟨?_, ?_, fun hx hy => (ImageName.text_inj hx hy).trans ImageName.ext_iff,
    fun w status havailable hmissing => ?_⟩
  · rw [(x.options_buildJob h.left).1, (y.options_buildJob h.right).1, h.registry, List.cons.injEq,
      ImageName.reference_inj]
    exact and_iff_left rfl
  · rw [x.images_targetDeployment, y.images_targetDeployment, h.registry, List.cons.injEq,
      Option.some.injEq, ImageName.reference_inj]
    exact and_iff_left rfl
  · intro pushed
    have hholds : pushed.registry.Holds x.image ↔ x.image = y.image ∨ w.registry.Holds x.image :=
      RegistryDouble.holds_push (a := y.image)
    have hpushed : pushed.registry.unavailable = false := havailable
    rw [Collection.verifyImage_next_iff_holds (c := ⟨x, x.target⟩) hpushed, hholds,
      or_iff_left hmissing, ImageName.ext_iff]
    rfl

end Snapshot

/-- Environments of one namespace have images of their own. -/
theorem Snapshot.same_image_iff_siblings :
    (Sample.snapshotAt "registry:5000" "1").SharesRegistry
      { Sample.snapshotAt "registry:5000" "1" with key := ⟨"dev", "shop"⟩ } ∧
    (Sample.snapshotAt "registry:5000" "1").target.job.options "destination" ≠
      ({ Sample.snapshotAt "registry:5000" "1" with key := ⟨"dev", "shop"⟩ } :
      Snapshot).target.job.options
        "destination" := by
  have hshares : (Sample.snapshotAt "registry:5000" "1").SharesRegistry
      { Sample.snapshotAt "registry:5000" "1" with key := ⟨"dev", "shop"⟩ } := ⟨rfl, rfl, rfl⟩
  obtain ⟨hdestination, _, htext, _⟩ := Snapshot.same_image_iff hshares
  refine ⟨hshares, fun h => ?_⟩
  exact absurd ((htext (by decide) (by decide)).mp (hdestination.mp h)).1 (by decide)

namespace Sample

/-- An environment of the same name asks for the same revision in another namespace. -/
def namesakes : World :=
  make .environment ⟨"prod", "web"⟩
    { environment with metadata := { environment.metadata with ns := some "prod" } } first.world

def namesake? (ns : String) : Option Collection :=
  (((Collection.collect "kiln-system" {} ⟨ns, "web"⟩).run.inWorld namesakes).1.toOption).join

/-- What decides about the image of an environment, and what comes of it. -/
structure Imaging where
  key : ObjectKey
  registry : RegistrySettings
  args : Option (List String)
  destinations : List String
  images : List (Option String)
deriving DecidableEq

def imaging (c : Collection) : Imaging where
  key := c.snapshot.key
  registry := c.snapshot.config.spec.registry
  args := c.snapshot.environment.spec.build.args
  destinations := c.target.job.options "destination"
  images := c.target.deployment.images

def imagingIn (ns : String) : Imaging where
  key := ⟨ns, "web"⟩
  registry := ⟨some "http://registry.kiln-system.svc.cluster.local:5000", some 30500⟩
  args := none
  destinations := ["registry.kiln-system.svc.cluster.local:5000/web:1"]
  images := [some "localhost:30500/web:1"]

def delivered : World := { namesakes with registry := namesakes.registry.push "web" "1" }

end Sample

set_option maxRecDepth 100000 in
/-- Environments of one name in two namespaces push and run the same image, and either one is
content with what the other has pushed. -/
theorem Snapshot.image_shared_by_namesakes : ∃ c d,
    Sample.namesake? "dev" = some c ∧ Sample.namesake? "prod" = some d ∧
    c.snapshot.key = ⟨"dev", "web"⟩ ∧ d.snapshot.key = ⟨"prod", "web"⟩ ∧
    c.snapshot.SharesRegistry d.snapshot ∧
    c.target.job.options "destination" = ["registry.kiln-system.svc.cluster.local:5000/web:1"] ∧
    d.target.job.options "destination" = ["registry.kiln-system.svc.cluster.local:5000/web:1"] ∧
    c.target.deployment.images = [some "localhost:30500/web:1"] ∧
    d.target.deployment.images = [some "localhost:30500/web:1"] ∧
    ((c.verifyImage {}).inWorld Sample.namesakes).1.next = .buildImageFailed ∧
    ((c.verifyImage {}).inWorld Sample.delivered).1.next = .deploy := by
  have hdev : ((Sample.namesake? "dev").map fun c => (Sample.imaging c,
      ((c.verifyImage {}).inWorld Sample.namesakes).1.next,
      ((c.verifyImage {}).inWorld Sample.delivered).1.next)) =
      some (Sample.imagingIn "dev", .buildImageFailed, .deploy) := by decide +kernel
  have hprod : (Sample.namesake? "prod").map Sample.imaging = some (Sample.imagingIn "prod") := by
    decide +kernel
  obtain ⟨c, hc, hcfacts⟩ := Option.map_eq_some_iff.mp hdev
  obtain ⟨d, hd, hdfacts⟩ := Option.map_eq_some_iff.mp hprod
  obtain ⟨hcfacts, hmissing, hfound⟩ :=
    (Prod.ext_iff.trans (and_congr_right' Prod.ext_iff)).mp hcfacts
  obtain ⟨hckey, hcregistry, hcargs, hcdestinations, hcimages⟩ := Sample.Imaging.mk.inj hcfacts
  obtain ⟨hdkey, hdregistry, hdargs, hddestinations, hdimages⟩ := Sample.Imaging.mk.inj hdfacts
  exact ⟨c, d, hc, hd, hckey, hdkey, ⟨hcregistry.trans hdregistry.symm, hcargs, hdargs⟩,
    hcdestinations, hddestinations, hcimages, hdimages, hmissing, hfound⟩

end EnvOperator
