import EnvOperator.Proofs.Target.Transport
import EnvOperator.Registry.Client

/-! # Images

The builder pushes an image, the registry is asked whether it is there, and the workload runs it.
Each of the three puts the name of the image together on its own, and the builder and the query trim
the URL of the registry in different orders. For the URLs that registries have they all mean one
repository and tag at one host.
-/
namespace EnvOperator

namespace Text

def after? (front s : String) : Option String :=
  (stripChars front.toList s.toList).map String.ofList

theorem after?_append (front rest : String) : after? front (front ++ rest) = some rest := by
  rw [after?, stripChars_eq_some.mpr String.toList_append, Option.map_some, String.ofList_toList]

end Text

@[ext]
structure ImageName where
  repository : String
  tag : String
deriving DecidableEq

def ImageName.reference (image : ImageName) (registry : String) : String :=
  registry ++ "/" ++ image.repository ++ ":" ++ image.tag

def Snapshot.image (x : Snapshot) : ImageName := ⟨x.key.name, x.revisionText⟩

def Job.options (job : Job) (option : String) : List String :=
  ((job.builder?.bind (·.args)).getD []).filterMap (Text.after? ("--" ++ option ++ "="))

def Deployment.images (d : Deployment) : List (Option String) :=
  ((d.spec.bind (·.template.spec)).map (·.containers.map (·.image))).getD []

namespace Registry

inductive Scheme
  | http
  | https
deriving DecidableEq

def Scheme.front : Scheme → String
  | http => "http://"
  | https => "https://"

/-- A host, with or without a scheme before it and with any number of slashes after it. -/
structure Location where
  scheme : Option Scheme := none
  host : String
  slashes : Nat := 0
  host_ne : host ≠ ""
  no_slash : '/' ∉ host.toList
  /-- A host with an empty port could be read as a scheme. -/
  no_colon : host.toList.getLast? ≠ some ':'

namespace Location
variable {l : Location} {r : RegistrySettings}

def rest (l : Location) : String := l.host ++ String.ofList (List.replicate l.slashes '/')

def url (l : Location) : String := (l.scheme.elim "" Scheme.front) ++ l.rest

/-- The scheme that is used; without one it is plain HTTP. -/
def transport (l : Location) : Scheme := l.scheme.getD .http

theorem takeWhile_rest (l : Location) : l.rest.toList.takeWhile (· != '/') = l.host.toList := by
  have hhost : ∀ d ∈ l.host.toList, (d != '/') = true := fun d hd =>
    bne_iff_ne.mpr (ne_of_mem_of_not_mem hd l.no_slash)
  rw [rest, String.toList_append, String.toList_ofList, List.takeWhile_append_of_pos hhost,
    List.takeWhile_replicate]
  simp

/-- A host is not mistaken for a scheme, since the text before the slashes of a scheme ends with a
colon. -/
theorem not_startsWith (l : Location) (s : Scheme) : Text.startsWith s.front l.rest = false := by
  refine Bool.eq_false_iff.mpr fun hstarts => ?_
  obtain ⟨tail, htail⟩ := Text.startsWith_iff.mp hstarts
  have hhost := l.takeWhile_rest
  rw [htail, String.toList_append] at hhost
  apply l.no_colon
  rw [← hhost]
  cases s <;> simp [Scheme.front]

theorem trimEnd_rest (l : Location) : Text.trimEnd '/' l.rest = l.host :=
  Text.trimEnd_append_replicate (fun h => l.no_slash (List.mem_of_getLast? h)) l.slashes

theorem host_eq (hurl : r.url = some l.url) : r.host = l.host := by
  have hdropped : Text.dropRepeated "http://" (Text.dropRepeated "https://" l.url) = l.rest := by
    have hplain : Text.dropRepeated "http://" l.rest = l.rest :=
      Text.dropRepeated_eq_self (l.not_startsWith .http)
    have hsecure : Text.dropRepeated "https://" l.rest = l.rest :=
      Text.dropRepeated_eq_self (l.not_startsWith .https)
    unfold url
    rcases l.scheme with _ | _ | _
    · rw [Option.elim_none, String.empty_append, hsecure, hplain]
    · have hother : Text.dropRepeated "https://" ("http://" ++ l.rest) = "http://" ++ l.rest := by
        apply Text.dropRepeated_eq_self
        rw [Text.startsWith, String.toList_append]
        rfl
      have honce : Text.dropRepeated "http://" ("http://" ++ l.rest) = l.rest :=
        Text.dropRepeated_append (by decide) (l.not_startsWith .http)
      exact (congrArg (Text.dropRepeated "http://") hother).trans honce
    · have honce : Text.dropRepeated "https://" ("https://" ++ l.rest) = l.rest :=
        Text.dropRepeated_append (by decide) (l.not_startsWith .https)
      exact (congrArg (Text.dropRepeated "http://") honce).trans hplain
  rw [RegistrySettings.host, hurl, Option.getD_some, hdropped, trimEnd_rest]

/-- The registry is asked at the same host. -/
theorem baseUrl_eq (l : Location) : baseUrl l.url = l.transport.front ++ l.host := by
  have hrest : Text.trimEnd '/' l.rest ≠ "" := by
    rw [trimEnd_rest]
    exact l.host_ne
  have hplain (s : Scheme) : ¬ Text.startsWith s.front l.host = true := by
    intro h
    rw [← trimEnd_rest] at h
    exact Bool.false_ne_true ((l.not_startsWith s).symm.trans (Text.startsWith_of_trimEnd h))
  unfold baseUrl url transport
  rcases l.scheme with _ | s
  · rw [Option.elim_none, String.empty_append, trimEnd_rest]
    exact if_neg fun h => (Bool.or_eq_true_iff.mp h).elim (hplain .http) (hplain .https)
  · rw [Option.elim_some, Option.getD_some, Text.trimEnd_append _ hrest, trimEnd_rest]
    cases s with
    | http => exact if_pos (Bool.or_eq_true_iff.mpr (.inl (Text.startsWith_append _ _)))
    | https => exact if_pos (Bool.or_eq_true_iff.mpr (.inr (Text.startsWith_append _ _)))

end Location
end Registry

namespace Snapshot
variable {x : Snapshot}

/-- Where the environment gives no arguments, an option has the values that the operator's own
arguments give it. -/
theorem options_builderArgs (hargs : x.environment.spec.build.args = none) (option : String) :
    x.target.job.options option =
      x.builderArgs.filterMap (Text.after? ("--" ++ option ++ "=")) := by
  have hbuilder : x.target.job.builder? = some x.builder := by rfl
  rw [Job.options, hbuilder, Option.bind_some, builder, hargs, Option.getD_none, Option.getD_some]

theorem options_buildJob (hargs : x.environment.spec.build.args = none) :
    x.target.job.options "destination" = [x.image.reference x.config.spec.registry.host] ∧
    x.target.job.options "cache-repo" =
      [x.config.spec.registry.host ++ "/" ++ x.image.repository ++ "/cache"] := by
  rw [options_builderArgs hargs, options_builderArgs hargs, builderArgs]
  constructor <;>
  · simp only [List.filterMap_append, List.filterMap_cons, List.filterMap_nil, String.append_assoc]
    split_ifs <;>
      simp [Text.after?, Text.stripChars, ImageName.reference, image, String.append_assoc]

theorem images_targetDeployment (x : Snapshot) : x.target.deployment.images =
    [some (x.image.reference
      ("localhost:" ++ toString (x.config.spec.registry.nodePort.getD 0)))] := by
  rw [ImageName.reference]
  rfl

end Snapshot

namespace Collection
variable {σ : Type} {c : Collection} {status : EnvironmentStatus}
  {answer : (q : Query) → σ → q.Answer × σ} {s : σ} {url : String}

/-- The registry of the configuration is asked for the repository of the image, and for nothing
else. -/
theorem asked_verifyImage (hurl : c.snapshot.config.spec.registry.url.getD "" = url) :
    (c.verifyImage status).asked answer s = [.tags url c.snapshot.image.repository] := by
  unfold verifyImage
  dsimp only
  rw [hurl, Dialogue.asked_bind]
  split <;> rfl

theorem verifyImage_next_iff (hurl : c.snapshot.config.spec.registry.url.getD "" = url) :
    ((c.verifyImage status).run answer s).1.next = .deploy ↔
      ∃ tags, (answer (.tags url c.snapshot.image.repository) s).1 = .ok tags ∧
      c.snapshot.image.tag ∈ tags := by
  have hlisted :
      ((Dialogue.hasTag url c.snapshot.key.name c.snapshot.revisionText).run answer s).1 =
      (answer (.tags url c.snapshot.image.repository) s).1.map (·.contains c.snapshot.image.tag) :=
    rfl
  unfold verifyImage
  dsimp only
  rw [hurl, Dialogue.run_bind_eq, hlisted]
  rcases (answer (.tags url c.snapshot.image.repository) s).1 with e | tags
  · exact iff_of_false (nomatch ·) fun ⟨_, h, _⟩ => nomatch h
  · rw [Except.map]
    cases htag : tags.contains c.snapshot.image.tag with
    | true => exact iff_of_true rfl ⟨tags, rfl, List.contains_iff_mem.mp htag⟩
    | false =>
      refine iff_of_false (nomatch ·) fun ⟨_, h, hmem⟩ => ?_
      rw [← Except.ok.inj h, ← List.contains_iff_mem, htag] at hmem
      exact Bool.false_ne_true hmem

end Collection

/-- Where the environment gives the builder no arguments, one image at one host is pushed, looked up
and run. -/
theorem Snapshot.pushes_verifies_runs_one_image {x : Snapshot} {l : Registry.Location} {r : String}
    (hrevision : x.revision = some r) (hargs : x.environment.spec.build.args = none)
    (hurl : x.config.spec.registry.url = some l.url) :
    x.image = ⟨x.key.name, r⟩ ∧
    x.target.job.options "destination" = [x.image.reference l.host] ∧
    x.target.job.options "cache-repo" = [l.host ++ "/" ++ x.image.repository ++ "/cache"] ∧
    x.target.deployment.images =
      [some (x.image.reference
        ("localhost:" ++ toString (x.config.spec.registry.nodePort.getD 0)))] ∧
    (∀ (σ : Type) (answer : (q : Query) → σ → q.Answer × σ) (status : EnvironmentStatus) (s : σ),
      (Collection.verifyImage ⟨x, x.target⟩ status).asked answer s =
        [.tags l.url x.image.repository] ∧
      (((Collection.verifyImage ⟨x, x.target⟩ status).run answer s).1.next = .deploy ↔
        ∃ tags, (answer (.tags l.url x.image.repository) s).1 = .ok tags ∧ x.image.tag ∈ tags)) ∧
    ∀ fetch : String → Option HttpReply,
      let address := l.transport.front ++ l.host ++ "/v2/" ++ x.image.repository ++ "/tags/list"
      Registry.listTags fetch l.url x.image.repository =
        Registry.readTags address (fetch address) := by
  have himage : x.image = ⟨x.key.name, r⟩ := by
    rw [Snapshot.image, Snapshot.revisionText, hrevision, Option.getD_some]
  have hhost : x.config.spec.registry.host = l.host := l.host_eq hurl
  obtain ⟨hdestination, hcache⟩ := x.options_buildJob hargs
  rw [hhost] at hdestination hcache
  refine ⟨himage, hdestination, hcache, x.images_targetDeployment, fun σ answer status s => ?_,
    fun fetch => ?_⟩
  · have hgiven : x.config.spec.registry.url.getD "" = l.url := congrArg (·.getD "") hurl
    exact ⟨Collection.asked_verifyImage hgiven, Collection.verifyImage_next_iff hgiven⟩
  · intro address
    have haddress : Registry.tagsUrl l.url x.image.repository = address := by
      rw [Registry.tagsUrl, l.baseUrl_eq]
    rw [Registry.listTags, haddress]

namespace Sample

def snapshotAt (url revision : String) : Snapshot :=
  let x := (collectionAt url).snapshot
  { x with environment := { x.environment with spec := { x.environment.spec with revision } } }

end Sample

/-- The scheme and the closing slashes are for the query alone. -/
theorem Snapshot.pushes_verifies_runs_secure :
    (Sample.snapshotAt "https://registry:5000//" "v1").target.job.options "destination" =
      ["registry:5000/web:v1"] ∧
    (Sample.snapshotAt "https://registry:5000//" "v1").target.deployment.images =
    [some "localhost:0/web:v1"] ∧
    ∀ fetch, Registry.listTags fetch "https://registry:5000//" "web" =
      Registry.readTags "https://registry:5000/v2/web/tags/list"
        (fetch "https://registry:5000/v2/web/tags/list") := by
  obtain ⟨_, hdestination, _, himages, _, hlist⟩ :=
    Snapshot.pushes_verifies_runs_one_image (x := Sample.snapshotAt "https://registry:5000//" "v1")
      (l := ⟨some .https, "registry:5000", 2, by decide, by decide, by decide⟩) rfl rfl rfl
  exact ⟨hdestination, himages, hlist⟩

end EnvOperator
