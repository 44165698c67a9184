import EnvOperator.Proofs.Pass.Collecting

/-! # What a step asks and where it leads

The step of a stage makes objects of that stage's kinds, deletes what it has found of them, and
writes nothing else. Where it leads depends on what was collected and on the answers; every way is
listed in `Collection.Leads`.
-/
namespace EnvOperator

def Stage.Makes : Stage → Kind → Prop
  | .buildImage, k => k = .job
  | .deploy, k => k = .deployment ∨ k = .service ∨ k = .ingress
  | _, _ => False

namespace Stage

theorem Makes.isMade {stage : Stage} {k : Kind} (h : stage.Makes k) : k.IsMade := by
  cases stage <;> simp_all [Makes, Kind.IsMade]

theorem Makes.stage_eq_of_job {stage : Stage} (h : stage.Makes .job) : stage = .buildImage := by
  cases stage <;> simp_all [Makes]

theorem Makes.stage_eq_of_deployment {stage : Stage} (h : stage.Makes .deployment) :
    stage = .deploy := by
  cases stage <;> simp_all [Makes]

theorem not_makes_environment (stage : Stage) : ¬ stage.Makes .environment := by
  intro h
  cases stage <;> simp_all [Makes]

theorem deploy_makes_deployment : deploy.Makes .deployment := .inl rfl

theorem deploy_makes_service : deploy.Makes .service := .inr (.inl rfl)

theorem deploy_makes_ingress : deploy.Makes .ingress := .inr (.inr rfl)

end Stage

/-- Lists of tags that come from a registry. -/
def RegistryDouble.Gives (registry : RegistryDouble) : (q : Query) → q.Answer → Prop
  | .tags url repository, answer => answer = registry.listTags url repository
  | _, _ => True

namespace Collection

def wanted (c : Collection) : (k : Kind) → Option k.Object
  | .job => some c.target.job
  | .deployment => some c.target.deployment
  | .service => c.target.service
  | .ingress => c.target.ingress
  | .environment | .environmentConfig | .secret => none

inductive Asks (c : Collection) (stage : Stage) : Query → Prop
  | create {k : Kind} {o : k.Object} (hk : stage.Makes k) (ho : c.wanted k = some o) :
      Asks c stage (.store (.create k o))
  | replace {k : Kind} {o : k.Object} (hk : stage.Makes k) (hj : k ≠ .job)
      (ho : c.wanted k = some o) :
      Asks c stage (.store (.replace k o))
  | delete {k : Kind} {o : k.Object} {key : ObjectKey} (hk : stage.Makes k)
      (hw : k = .job ∨ c.wanted k = none)
      (ho : c.snapshot.found k = some o) (hkey : k.keyOf o = .ok key) :
        Asks c stage (.store (.delete k key))
  | tags {url : String} (hs : stage = .buildImageVerify) :
      Asks c stage (.tags url c.snapshot.key.name)

inductive Leads (registry : RegistryDouble) (c : Collection) (status : EnvironmentStatus) :
    Stage → Transition → Prop
  | begin : Leads registry c status .initial (c.begin status)
  | skip {job : Job} (hj : c.snapshot.job = some job) (hs : job.sameShape c.target.job = true) :
      Leads registry c status .buildImage (.move status .deploy)
  | stuck {e : PassError} : Leads registry c status .buildImage (.fail status .buildImage e)
  | build {answer : Except StoreError Job} :
      Leads registry c status .buildImage (afterCreate status answer)
  | wait {stage : Stage} (hs : stage = .buildImageWait ∨ stage = .buildImageFailing) :
      Leads registry c status stage (c.waitForBuild status)
  | verified {url : String} {tags : List String}
      (ht : registry.listTags url c.snapshot.key.name = .ok tags)
      (hm : c.snapshot.revisionText ∈ tags) :
        Leads registry c status .buildImageVerify (.move status .deploy)
  | unverified {e : PassError} :
      Leads registry c status .buildImageVerify (.fail status .buildImageFailed e)
  | deploy {answer : Except PassError Unit} :
      Leads registry c status .deploy (afterApply status answer)
  | verify : Leads registry c status .deployVerify (c.verifyDeployment status)
  | rest {stage : Stage} (hs : stage = .deployed ∨ stage.isFailure = true) :
      Leads registry c status stage (.move status stage)

section
variable {sound : (q : Query) → q.Answer → Prop} {P : Query → Prop} {registry : RegistryDouble}
  {c : Collection} {status : EnvironmentStatus}

theorem obeys_createJob {Q : Transition → Prop} (hP : P (.store (.create .job c.target.job)))
    (hQ : ∀ answer, Q (afterCreate status answer)) : (c.createJob status).Obeys sound P Q := by
  unfold createJob
  exact Dialogue.Obeys.bind (Dialogue.obeys_request (Q := fun _ => True) hP fun _ _ => trivial)
    fun a _ => hQ a

theorem obeys_deleteStaleJob {job : Job}
    (h : ∀ key, Kind.job.keyOf job = .ok key → P (.store (.delete .job key))) :
    (deleteStaleJob job).Obeys sound P fun _ => True := by
  unfold deleteStaleJob
  split
  · exact Dialogue.obeys_pure trivial
  · rename_i key hk
    refine Dialogue.Obeys.bind
      (Dialogue.obeys_request (Q := fun _ => True) (h key hk) fun _ _ => trivial) fun a _ => ?_
    split <;> exact Dialogue.obeys_pure trivial

theorem obeys_buildImage :
    (c.buildImage status).Obeys sound (c.Asks .buildImage)
      (c.Leads registry status .buildImage) := by
  have create : (c.createJob status).Obeys sound (c.Asks .buildImage)
      (c.Leads registry status .buildImage) :=
    obeys_createJob (.create rfl rfl) fun _ => .build
  unfold buildImage
  split
  · exact create
  · rename_i job hj
    split
    · exact Dialogue.obeys_pure (.skip hj ‹_›)
    · refine Dialogue.Obeys.bind (obeys_deleteStaleJob fun key hk => .delete rfl (.inl rfl) hj hk)
        fun r _ => ?_
      cases r with
      | error e => exact Dialogue.obeys_pure .stuck
      | ok u => exact create

theorem obeys_verifyImage : (c.verifyImage status).Obeys registry.Gives (c.Asks .buildImageVerify)
    (c.Leads registry status .buildImageVerify) := by
  unfold verifyImage
  refine Dialogue.Obeys.bind (Q := fun r => r = .ok true → ∃ url tags,
      registry.listTags url c.snapshot.key.name = .ok tags ∧ c.snapshot.revisionText ∈ tags)
    (Dialogue.obeys_hasTag (.tags rfl) fun a ha h => ?_) fun r hr => ?_
  · cases a with
    | error e => cases h
    | ok tags => exact ⟨_, tags, ha.symm, by simpa [Except.map] using h⟩
  · rcases r with e | _ | _
    · exact Dialogue.obeys_pure .unverified
    · exact Dialogue.obeys_pure .unverified
    · obtain ⟨url, tags, ht, hm⟩ := hr rfl
      exact Dialogue.obeys_pure (.verified ht hm)

theorem obeys_writing_request {r : Request} (h : P (.store r)) :
    (Writing.request r).run.Obeys sound P (OnOk fun _ => True) := by
  refine Dialogue.Obeys.bind (Dialogue.obeys_request (Q := fun _ => True) h fun _ _ => trivial)
    fun a _ => ?_
  cases a <;> exact Dialogue.obeys_pure trivial

theorem obeys_writing_delete {k : Kind} {o : k.Object}
    (h : ∀ key, k.keyOf o = .ok key → P (.store (.delete k key))) :
    (Writing.delete k o).run.Obeys sound P (OnOk fun _ => True) := by
  unfold Writing.delete
  split
  · exact obeys_throw
  · rename_i key hk
    refine Dialogue.Obeys.bind
      (Dialogue.obeys_request (Q := fun _ => True) (h key hk) fun _ _ => trivial) fun a _ => ?_
    rcases a with e | u
    · dsimp only
      split <;> exact Dialogue.obeys_pure trivial
    · exact Dialogue.obeys_pure trivial

theorem obeys_apply {stage : Stage} {k : Kind} (hk : stage.Makes k) (hj : k ≠ .job) :
    (Writing.apply k (c.snapshot.found k) (c.wanted k)).run.Obeys sound (c.Asks stage)
      (OnOk fun _ => True) := by
  unfold Writing.apply
  split
  · exact obeys_writing_request (.replace hk hj ‹_›)
  · exact obeys_writing_request (.create hk ‹_›)
  · exact obeys_writing_delete fun key hkey => .delete hk (.inr ‹_›) ‹_› hkey
  · exact obeys_ok trivial

theorem obeys_applyWorkload :
    c.applyWorkload.run.Obeys sound (c.Asks .deploy) (OnOk fun _ => True) := by
  unfold applyWorkload
  refine obeys_bind_ok (obeys_apply Stage.deploy_makes_deployment (by decide)) fun _ _ => ?_
  refine obeys_bind_ok (obeys_apply Stage.deploy_makes_service (by decide)) fun _ _ => ?_
  exact obeys_apply Stage.deploy_makes_ingress (by decide)

theorem obeys_step (registry : RegistryDouble) (c : Collection) (status : EnvironmentStatus)
    (stage : Stage) :
    (c.step status stage).Obeys registry.Gives (c.Asks stage) (c.Leads registry status stage) := by
  cases stage with
  | initial => exact Dialogue.obeys_pure .begin
  | buildImage => exact obeys_buildImage
  | buildImageWait => exact Dialogue.obeys_pure (.wait (.inl rfl))
  | buildImageFailing => exact Dialogue.obeys_pure (.wait (.inr rfl))
  | buildImageVerify => exact obeys_verifyImage
  | deploy => exact Dialogue.Obeys.bind obeys_applyWorkload fun r _ => .deploy
  | deployVerify => exact Dialogue.obeys_pure .verify
  | deployed => exact Dialogue.obeys_pure (.rest (.inl rfl))
  | buildImageFailed | deploymentFailed | failed => exact Dialogue.obeys_pure (.rest (.inr rfl))

end

end Collection
end EnvOperator
