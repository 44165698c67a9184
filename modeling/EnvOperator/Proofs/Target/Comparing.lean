import EnvOperator.Proofs.Documents.Cluster
import EnvOperator.Proofs.Target.Ownership
import EnvOperator.Proofs.Target.Transport
import Mathlib.Data.List.Forall2
import Mathlib.Logic.Relation

/-! # Comparing build jobs

The shape of a build job says all there is to its specification, so two jobs of one environment have
the same shape exactly if they would be the same to the cluster. What the cluster adds to a job
after it has been made is not part of the shape.
-/

theorem List.Forall₂.head? {α β : Type} {r : α → β → Prop} {l : List α} {m : List β}
    (h : List.Forall₂ r l m) : Option.Rel r l.head? m.head? := by
  cases h with
  | nil => exact .none
  | cons hab _ => exact .some hab

theorem Option.Rel.bind_eq {α β γ : Type} {r : α → β → Prop} {a : Option α} {b : Option β}
    {f : α → Option γ} {g : β → Option γ} (h : Option.Rel r a b) (hfg : ∀ x y, r x y → f x = g y) :
    a.bind f = b.bind g := by
  cases h with
  | none => rfl
  | some hxy => exact hfg _ _ hxy

namespace EnvOperator

def JobShape.jobSpec (shape : JobShape) (environment : String) : JobSpec where
  backoffLimit := shape.backoffLimit
  activeDeadlineSeconds := shape.activeDeadlineSeconds
  podFailurePolicy := shape.podFailurePolicy
  template := {
    metadata := some {
      labels := some (Naming.environmentLabels environment)
      annotations :=
        shape.revision.map fun revision => .ofList [(Naming.revisionAnnotation, revision)] }
    spec := some {
      restartPolicy := some "Never"
      containers := [{
        name := builderContainer
        image := shape.image
        command := shape.command
        args := shape.args
        env := shape.env
        envFrom := shape.envFrom }] } }

def JobSpec.revision (s : JobSpec) : Option String := s.template.metadata.bind (·.revision)

namespace Container

def IsBuilder (c : Container) : Prop := c.name = builderContainer

instance : DecidablePred IsBuilder :=
  fun c => inferInstanceAs (Decidable (c.name = builderContainer))

structure RunsAlike (a b : Container) : Prop where
  image : a.image = b.image
  command : a.command = b.command
  args : a.args = b.args
  env : a.env = b.env
  envFrom : a.envFrom = b.envFrom

theorem runsAlike_of_eq {a b : Option Container} (h : a = b) : Option.Rel RunsAlike a b := by
  subst h
  cases a with
  | none => exact .none
  | some c => exact .some ⟨rfl, rfl, rfl, rfl, rfl⟩

end Container

namespace PodSpec

/-- Pods with the same builder, a container being known by its name. Either may have any other
containers and any other settings, and so may the builder itself beside what it runs. -/
def BuildsAlike (p q : PodSpec) : Prop :=
  List.Forall₂ Container.RunsAlike (p.containers.filter (·.IsBuilder))
    (q.containers.filter (·.IsBuilder))

end PodSpec

namespace Job
variable {a b : Job}

def pod? (j : Job) : Option PodSpec := j.spec.bind (·.template.spec)

def mapSpec (f : JobSpec → JobSpec) (j : Job) : Job := { j with spec := j.spec.map f }

def mapPod (f : PodSpec → PodSpec) : Job → Job :=
  mapSpec fun s => { s with template := { s.template with spec := s.template.spec.map f } }

/-- One thing that may become of a job once it is stored. -/
inductive Change (j : Job) : Job → Prop
  /-- The status is reported. -/
  | status (status : Option JobStatus) : Change j { j with status }
  /-- The server fills in metadata, and anyone may add to it. -/
  | metadata (m : ObjectMeta) (h : m.revision = j.metadata.revision) :
      Change j { j with metadata := m }
  /-- The server fills in the settings of the job that the operator leaves open. -/
  | settings (rest : JobSpec.Rest.Val) : Change j (j.mapSpec fun s => { s with rest })
  /-- The server labels the pods. -/
  | podMetadata (m : Option ObjectMeta) :
      Change j (j.mapSpec fun s => { s with template := { s.template with metadata := m } })
  /-- The pod gets settings and containers beside the builder, and the builder settings beside what
  it runs. -/
  | pod (f : PodSpec → PodSpec) (h : ∀ p, j.pod? = some p → p.BuildsAlike (f p)) :
      Change j (j.mapPod f)

theorem builder?_eq (j : Job) :
    j.builder? = j.pod?.bind fun p => (p.containers.filter (·.IsBuilder)).head? := by
  simp only [builder?, pod?, List.head?_filter]
  cases j.spec <;> rfl

theorem builder?_congr (h : a.pod? = b.pod?) : a.builder? = b.builder? := by
  rw [builder?_eq, builder?_eq, h]

/-- All that the shape of a job is made from. -/
theorem shape_congr (hrevision : a.metadata.revision = b.metadata.revision)
    (hbackoff : a.spec.bind (·.backoffLimit) = b.spec.bind (·.backoffLimit))
    (hdeadline : a.spec.bind (·.activeDeadlineSeconds) = b.spec.bind (·.activeDeadlineSeconds))
    (hpolicy : a.spec.bind (·.podFailurePolicy) = b.spec.bind (·.podFailurePolicy))
    (hbuilder : Option.Rel Container.RunsAlike a.builder? b.builder?) : a.shape = b.shape := by
  have himage := hbuilder.bind_eq fun _ _ h => h.image
  have hcommand := hbuilder.bind_eq fun _ _ h => h.command
  have hargs := hbuilder.bind_eq fun _ _ h => h.args
  have henv := hbuilder.bind_eq fun _ _ h => h.env
  have henvFrom := hbuilder.bind_eq fun _ _ h => h.envFrom
  simp only [ObjectMeta.revision] at hrevision
  simp only [shape, hrevision, himage, hcommand, hargs, henv, henvFrom, hbackoff, hdeadline,
    hpolicy]

theorem bind_mapSpec {α : Type} {f : JobSpec → JobSpec} {g : JobSpec → Option α}
    (h : ∀ s, g (f s) = g s) (j : Job) : (j.mapSpec f).spec.bind g = j.spec.bind g := by
  simp only [mapSpec, Option.bind_map, Function.comp_def, h]

/-- A change of the specification that keeps the limits and the policy keeps the shape where it
keeps the builder. -/
theorem shape_mapSpec (f : JobSpec → JobSpec) {j : Job}
    (hbackoff : ∀ s, (f s).backoffLimit = s.backoffLimit)
    (hdeadline : ∀ s, (f s).activeDeadlineSeconds = s.activeDeadlineSeconds)
    (hpolicy : ∀ s, (f s).podFailurePolicy = s.podFailurePolicy)
    (hbuilder : Option.Rel Container.RunsAlike j.builder? (j.mapSpec f).builder?) :
    j.shape = (j.mapSpec f).shape :=
  shape_congr rfl (bind_mapSpec hbackoff j).symm (bind_mapSpec hdeadline j).symm
    (bind_mapSpec hpolicy j).symm hbuilder

theorem builder?_mapSpec (f : JobSpec → JobSpec) {j : Job}
    (h : ∀ s, (f s).template.spec = s.template.spec) :
    Option.Rel Container.RunsAlike j.builder? (j.mapSpec f).builder? :=
  Container.runsAlike_of_eq (builder?_congr (bind_mapSpec h j).symm)

theorem pod?_mapPod (f : PodSpec → PodSpec) (j : Job) : (j.mapPod f).pod? = j.pod?.map f := by
  simp only [pod?, mapPod, mapSpec]
  cases j.spec <;> rfl

theorem builder?_mapPod {f : PodSpec → PodSpec} {j : Job}
    (h : ∀ p, j.pod? = some p → p.BuildsAlike (f p)) :
    Option.Rel Container.RunsAlike j.builder? (j.mapPod f).builder? := by
  rw [builder?_eq, builder?_eq, pod?_mapPod]
  cases hp : j.pod? with
  | none => exact .none
  | some p => exact (h p hp).head?

namespace Change

theorem shape_eq {j served : Job} (h : Change j served) : j.shape = served.shape := by
  cases h with
  | status status => rfl
  | metadata m h => exact shape_congr h.symm rfl rfl rfl (Container.runsAlike_of_eq rfl)
  | settings rest =>
    exact shape_mapSpec _ (fun _ => rfl) (fun _ => rfl) (fun _ => rfl)
      (builder?_mapSpec _ fun _ => rfl)
  | podMetadata m =>
    exact shape_mapSpec _ (fun _ => rfl) (fun _ => rfl) (fun _ => rfl)
      (builder?_mapSpec _ fun _ => rfl)
  | pod f h =>
    exact shape_mapSpec _ (fun _ => rfl) (fun _ => rfl) (fun _ => rfl) (builder?_mapPod h)

/-- No number of changes touches the shape. -/
theorem shape_eq_of_many {j served : Job} (h : Relation.ReflTransGen Change j served) :
    j.shape = served.shape := by
  induction h with
  | refl => rfl
  | tail _ hchange ih => exact ih.trans hchange.shape_eq

end Change
end Job

namespace Snapshot
variable {x y : Snapshot}

theorem revision_shape_buildJob (x : Snapshot) : x.buildJob.shape.revision = some x.revisionText :=
  x.revision_ownedMeta (Naming.buildJobName x.key.name) "build"

theorem spec_buildJob (x : Snapshot) :
    x.buildJob.spec = some (x.buildJob.shape.jobSpec x.key.name) := by
  rw [JobShape.jobSpec, revision_shape_buildJob]
  rfl

theorem shape_buildJob_of_spec (h : x.buildJob.spec = y.buildJob.spec) :
    x.buildJob.shape = y.buildJob.shape := by
  -- The revision stands on the job and on its pods, and only the latter are part of the
  -- specification.
  have hpods (z : Snapshot) : z.buildJob.metadata.revision = z.buildJob.spec.bind (·.revision) :=
    rfl
  have hpod : x.buildJob.pod? = y.buildJob.pod? := congrArg (·.bind (·.template.spec)) h
  refine Job.shape_congr ?_ ?_ ?_ ?_ (Container.runsAlike_of_eq (Job.builder?_congr hpod))
  · rw [hpods, hpods, h]
  · rw [h]
  · rw [h]
  · rw [h]

theorem shape_buildJob_ne {r r' : String} (hx : x.revision = some r) (hy : y.revision = some r')
    (hne : r ≠ r') : x.buildJob.shape ≠ y.buildJob.shape := by
  intro hshape
  have htext := congrArg JobShape.revision hshape
  rw [revision_shape_buildJob, revision_shape_buildJob, revisionText, revisionText, hx, hy] at htext
  exact hne (Option.some.inj htext)

/-- Of the build jobs of one environment, those of one shape are those of one specification, and
jobs for different revisions never are. A job that is stored and comes back from its document
compares with every job as it did when it was made, whatever has become of it in the meantime. -/
theorem sameShape_buildJob_exact (x : Snapshot) :
    (∀ y : Snapshot, x.key = y.key →
      (x.buildJob.sameShape y.buildJob = true ↔ x.buildJob.spec = y.buildJob.spec)) ∧
    (∀ (y : Snapshot) (r r' : String), x.revision = some r → y.revision = some r' → r ≠ r' →
      x.buildJob.sameShape y.buildJob = false) ∧
    ∃ stored, Job.codec.decode (Job.codec.encode x.buildJob) = some stored ∧
      ∀ served, Relation.ReflTransGen Job.Change stored served →
        ∀ desired : Job, served.sameShape desired = x.buildJob.sameShape desired := by
  refine ⟨fun y hkey => ?_, fun y r r' hx hy hne => ?_, x.buildJob, Job.lawful.decode_encode _, ?_⟩
  · rw [Job.sameShape, beq_iff_eq]
    constructor
    · intro hshape
      rw [spec_buildJob, spec_buildJob, hshape, hkey]
    · exact shape_buildJob_of_spec
  · rw [Job.sameShape, beq_eq_false_iff_ne]
    exact shape_buildJob_ne hx hy hne
  · intro served hserved desired
    rw [Job.sameShape, Job.sameShape, Job.Change.shape_eq_of_many hserved]

end Snapshot

namespace Sample

def snapshotWithArgs (revision : String) : Snapshot :=
  let x := (collectionAt "registry:5000").snapshot
  { x with environment.spec := { revision, build := { args := some ["--context=git"] } } }

/-- The job of such an environment after the server has filled it in and another container has
joined the builder. -/
def servedJob (revision : String) : Job :=
  let job := (snapshotWithArgs revision).buildJob
  let pod (p : PodSpec) : PodSpec :=
    { containers := { name := "mesh" } ::
        p.containers.map fun c => { c with workingDir := some "/workspace" }
      restartPolicy := some "OnFailure" }
  { job.mapPod pod with
    metadata := { job.metadata with resourceVersion := some "42", uid := some "0c1d" }
    status := some { active := some 1 } }

theorem servedJob_changes (revision : String) :
    Relation.ReflTransGen Job.Change (snapshotWithArgs revision).buildJob (servedJob revision) := by
  refine .tail (b := { servedJob revision with status := none }) ?_ (.status _)
  refine .tail (.single (.pod _ ?_)) (.metadata _ rfl)
  rintro _ ⟨⟩
  exact .cons ⟨rfl, rfl, rfl, rfl, rfl⟩ .nil

end Sample

/-- A running job of the revision that is asked for is the one that is wanted, and no longer when
another revision is. -/
theorem Snapshot.sameShape_buildJob_served :
    Sample.servedJob "7" ≠ (Sample.snapshotWithArgs "7").buildJob ∧
    (Sample.servedJob "7").sameShape (Sample.snapshotWithArgs "7").buildJob = true ∧
    (Sample.servedJob "7").sameShape (Sample.snapshotWithArgs "8").buildJob = false ∧
    (Sample.snapshotWithArgs "7").buildJob.spec ≠ (Sample.snapshotWithArgs "8").buildJob.spec := by
  obtain ⟨hspec, hrevision, stored, hstored, hserved⟩ :=
    Snapshot.sameShape_buildJob_exact (Sample.snapshotWithArgs "7")
  obtain rfl := Option.some.inj ((Job.lawful.decode_encode _).symm.trans hstored)
  have hother := hrevision (Sample.snapshotWithArgs "8") "7" "8" rfl rfl (by decide)
  refine ⟨by decide, ?_, ?_, ?_⟩
  · rw [hserved _ (Sample.servedJob_changes "7"), hspec _ rfl]
  · rw [hserved _ (Sample.servedJob_changes "7"), hother]
  · intro heq
    rw [(hspec (Sample.snapshotWithArgs "8") rfl).mpr heq] at hother
    cases hother

end EnvOperator
