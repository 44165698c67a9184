import EnvOperator.Proofs.Pass.Outcomes

/-! # Edges of the pipeline

From which stages a stage is entered, and what becomes of the revisions in the status on the way.
-/
namespace EnvOperator

namespace Stage
variable {stage next : Stage}

def successors : Stage → List Stage
  | initial => [buildImage]
  | buildImage => [buildImage, buildImageWait, deploy, buildImageFailed]
  | buildImageWait | buildImageFailing =>
    [buildImage, buildImageWait, buildImageFailing, buildImageVerify, buildImageFailed]
  | buildImageVerify => [deploy, buildImageFailed]
  | deploy => [deploy, deployVerify, deploymentFailed]
  | deployVerify => [deployVerify, deployed]
  | deployed => [deployed]
  | buildImageFailed => [buildImageFailed]
  | deploymentFailed => [deploymentFailed]
  | failed => [failed]

def FollowsJob (stage : Stage) : Prop :=
  stage = .buildImageWait ∨ stage = .buildImageFailing ∨ stage = .buildImageVerify

/-- The stages that follow a rollout, or have seen the end of it. -/
def FollowsRollout (stage : Stage) : Prop := stage = .deployVerify ∨ stage = .deployed

theorem FollowsJob.not_failure (h : stage.FollowsJob) : stage.isFailure = false := by
  rcases h with rfl | rfl | rfl <;> rfl

theorem FollowsRollout.not_failure (h : stage.FollowsRollout) : stage.isFailure = false := by
  rcases h with rfl | rfl <;> rfl

theorem Becomes.eq_of_not_failure (h : stage.Becomes next) (hn : next.isFailure = false) :
    next = stage := by
  rcases h with h | ⟨_, rfl⟩
  · exact h
  · cases stage <;> cases hn

theorem Becomes.eq_of_not_waiting (h : stage.Becomes next) (hw : stage.isWaiting = false) :
    next = stage := by
  rcases h with h | ⟨hs, _⟩
  · exact h
  · rw [hw] at hs
    cases hs

theorem FollowsJob.not_makes (h : stage.FollowsJob) (k : Kind) : ¬ stage.Makes k := by
  rcases h with rfl | rfl | rfl <;> exact id

theorem FollowsRollout.not_makes (h : stage.FollowsRollout) (k : Kind) : ¬ stage.Makes k := by
  rcases h with rfl | rfl <;> exact id

end Stage

namespace Collection
variable {c : Collection} {status : EnvironmentStatus} {answer : Except StoreError Job}

theorem afterCreate_status : (afterCreate status answer).status = status := by
  unfold afterCreate
  split <;> rfl

theorem afterApply_status {answer : Except PassError Unit} :
    (afterApply status answer).status = status := by
  unfold afterApply
  split <;> rfl

theorem followJob_status {s : JobStatus} : (followJob status s).status = status := by
  unfold followJob
  split
  · rfl
  · split
    · rfl
    · split <;> rfl

theorem waitForBuild_status : (c.waitForBuild status).status = status := by
  unfold waitForBuild
  split
  · rfl
  · split
    · rfl
    · exact followJob_status

theorem waitForBuild_next (c : Collection) (status : EnvironmentStatus) :
    (c.waitForBuild status).next ∈ Stage.buildImageWait.successors := by
  unfold waitForBuild
  split
  · simp [Transition.move, Stage.successors]
  · split
    · simp [Transition.move, Stage.successors]
    · unfold followJob
      split
      · simp [Transition.move, Stage.successors]
      · split
        · simp [Transition.move, Stage.successors]
        · split <;> simp [Transition.move, Transition.fail, Stage.successors]

/-- The rollout is seen to have ended only where the deployment runs the revision that is asked
for. -/
theorem verifyDeployment_cases (c : Collection) (status : EnvironmentStatus) :
    (c.verifyDeployment status = .move status .deployVerify) ∨
    (∃ d, c.snapshot.deployment = some d ∧ d.revision = c.snapshot.revision) ∧
      c.verifyDeployment status =
        .move { status with deployedRevision := c.snapshot.revision } .deployed := by
  unfold verifyDeployment
  dsimp only
  split
  · rename_i h
    obtain ⟨d, hd, hr⟩ := (Option.any_eq_true _ _).mp h
    refine .inr ⟨⟨d, hd, ?_⟩, rfl⟩
    simp only [Deployment.runs, Bool.and_eq_true, beq_iff_eq] at hr
    exact hr.1.1.1
  · exact .inl rfl

end Collection

namespace Collection.Leads
variable {registry : RegistryDouble} {c : Collection} {status : EnvironmentStatus} {stage : Stage}
  {t : Transition}

theorem expectedRevision (h : c.Leads registry status stage t) :
    t.status.expectedRevision = if stage = .initial then
      c.snapshot.revision else status.expectedRevision := by
  cases h with
  | begin | skip | stuck | verified | unverified => rfl
  | build => simp [afterCreate_status]
  | deploy => simp [afterApply_status]
  | wait hs => rcases hs with rfl | rfl <;> simp [waitForBuild_status]
  | verify => rcases verifyDeployment_cases c status with h | ⟨_, h⟩ <;> simp [h, Transition.move]
  | rest hs =>
    have hne : stage ≠ .initial := by
      rintro rfl
      rcases hs with hs | hs <;> cases hs
    simp [hne, Transition.move]

theorem deployedRevision (h : c.Leads registry status stage t) :
    t.status.deployedRevision = status.deployedRevision ∨ stage = .deployVerify ∧
      t.next = .deployed ∧
      t.status.deployedRevision = c.snapshot.revision ∧
      ∃ d, c.snapshot.deployment = some d ∧ d.revision = c.snapshot.revision := by
  cases h with
  | begin | skip | stuck | verified | unverified | rest => exact .inl rfl
  | build => exact .inl (by rw [afterCreate_status])
  | deploy => exact .inl (by rw [afterApply_status])
  | wait => exact .inl (by rw [waitForBuild_status])
  | verify =>
    rcases verifyDeployment_cases c status with h | ⟨hd, h⟩
    · exact .inl (by rw [h]; rfl)
    · rw [h]
      exact .inr ⟨rfl, rfl, rfl, hd⟩

theorem next_mem (h : c.Leads registry status stage t) : t.next ∈ stage.successors := by
  cases h with
  | begin | skip | stuck | verified | unverified =>
    simp [Collection.begin, Transition.move, Transition.fail, Stage.successors]
  | build => unfold afterCreate; split <;> simp [Transition.move, Transition.fail, Stage.successors]
  | deploy => unfold afterApply; split <;> simp [Transition.move, Transition.fail, Stage.successors]
  | wait hs =>
    have hw := waitForBuild_next c status
    rcases hs with rfl | rfl <;> exact hw
  | verify =>
    rcases verifyDeployment_cases c status with h | ⟨_, h⟩ <;>
      simp [h, Transition.move, Stage.successors]
  | rest hs => cases stage <;> simp_all [Stage.successors, Transition.move, Stage.isFailure]

theorem next_ne_initial (h : c.Leads registry status stage t) : t.next ≠ .initial := by
  have hn := h.next_mem
  intro he
  rw [he] at hn
  cases stage <;> simp [Stage.successors] at hn

/-- A build job begins to be followed when it has been made. -/
theorem enters_followsJob (h : c.Leads registry status stage t) (hn : t.next.FollowsJob) :
    stage = .buildImage ∧ t.next = .buildImageWait ∨ stage.FollowsJob := by
  have hs := h.next_mem
  rcases hn with hn | hn | hn <;> rw [hn] at hs ⊢ <;>
    cases stage <;> simp_all [Stage.successors, Stage.FollowsJob]

/-- A rollout begins to be followed when the workload has been applied. -/
theorem enters_followsRollout (h : c.Leads registry status stage t) (hn : t.next.FollowsRollout) :
    stage = .deploy ∧ t.next = .deployVerify ∨ stage.FollowsRollout := by
  have hs := h.next_mem
  rcases hn with hn | hn <;> rw [hn] at hs ⊢ <;> cases stage <;>
    simp_all [Stage.successors, Stage.FollowsRollout]

/-- The last stage is entered from its predecessor, for the revision that is asked for. -/
theorem enters_deployed (h : c.Leads registry status stage t) (hn : t.next = .deployed) :
    stage = .deployed ∧ t.status = status ∨ stage = .deployVerify ∧
      t.status.deployedRevision = c.snapshot.revision ∧
      ∃ d, c.snapshot.deployment = some d ∧ d.revision = c.snapshot.revision := by
  have hs := h.next_mem
  rw [hn] at hs
  cases stage <;> simp [Stage.successors] at hs
  · cases h with
    | verify =>
      rcases verifyDeployment_cases c status with h | ⟨hd, h⟩
      · rw [h] at hn
        cases hn
      · rw [h]
        exact .inr ⟨rfl, rfl, hd⟩
    | wait hs => rcases hs with hs | hs <;> cases hs
    | rest hs => rcases hs with hs | hs <;> cases hs
  · cases h with
    | wait hs => rcases hs with hs | hs <;> cases hs
    | rest => exact .inl ⟨rfl, rfl⟩

/-- The workload is applied because the build is skipped, because the image was found, or once
more. -/
theorem enters_deploy (h : c.Leads registry status stage t) (hn : t.next = .deploy) :
    (stage = .buildImage ∧ ∃ job, c.snapshot.job = some job ∧ job.sameShape c.target.job = true) ∨
    (stage = .buildImageVerify ∧ ∃ url tags, registry.listTags url c.snapshot.key.name = .ok tags ∧
      c.snapshot.revisionText ∈ tags) ∨ stage = .deploy := by
  have hs := h.next_mem
  rw [hn] at hs
  cases stage <;> simp [Stage.successors] at hs
  · cases h with
    | skip hj hshape => exact .inl ⟨rfl, _, hj, hshape⟩
    | stuck => cases hn
    | build => unfold afterCreate at hn; split at hn <;> cases hn
    | wait hs => rcases hs with hs | hs <;> cases hs
    | rest hs => rcases hs with hs | hs <;> cases hs
  · cases h with
    | verified ht hm => exact .inr (.inl ⟨rfl, _, _, ht, hm⟩)
    | unverified => cases hn
    | wait hs => rcases hs with hs | hs <;> cases hs
    | rest hs => rcases hs with hs | hs <;> cases hs
  · exact .inr (.inr rfl)

end Collection.Leads

namespace Pass.Takes
variable {settings : Settings} {key : ObjectKey} {w w' : World} {e : Environment} {c : Collection}
  {stage : Stage} {t : Transition}

theorem expectedRevision (h : Takes settings key w e c stage t w') :
    t.status.expectedRevision = e.spec.revision := by
  rw [h.steps.leads.expectedRevision, h.revision_eq]
  split
  · rfl
  · exact (h.of_ne_initial ‹_›).2.2.1

end Pass.Takes
end EnvOperator
