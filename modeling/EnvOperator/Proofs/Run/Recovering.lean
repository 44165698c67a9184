import EnvOperator.Proofs.Run.Rest
import EnvOperator.Proofs.Run.Settling

/-! # What is lost while it is waited for

A build job that is removed while passes wait for it is made anew. A deployment is not: who verifies
a rollout looks at what is there, and waits as long as nothing is. So a pass that waits for a lost
deployment is followed by passes that do the same, until another revision is asked for.
-/
namespace EnvOperator

def Environment.Provided (e : Environment) (settings : Settings) (s : MemoryStore) : Prop :=
  ∃ g secret, s.stored? .environmentConfig ⟨settings.configNamespace, e.configName⟩ = some g ∧
  Snapshot.Credentials settings.configNamespace s (g.applyDefaults settings.defaults) secret

theorem Environment.Provided.congr {e e' : Environment} {settings : Settings} {s t : MemoryStore}
    (h : e.Provided settings s) (hmetadata : e'.metadata = e.metadata) (hspec : e'.spec = e.spec)
    (hconfig : ∀ key, t.stored? .environmentConfig key = s.stored? .environmentConfig key)
    (hsecret : ∀ key, t.stored? .secret key = s.stored? .secret key) : e'.Provided settings t := by
  obtain ⟨g, secret, hg, hcredentials⟩ := h
  refine ⟨g, secret, ?_, hcredentials.congr hsecret⟩
  rw [hconfig, ← hg, configName, configName, hmetadata, hspec]

namespace MemoryStore
variable {s : MemoryStore} {settings : Settings} {key : ObjectKey} {e : Environment}
  {st : EnvironmentStatus}

/-- An environment is at the revision that it expects, and this revision is not deployed yet. -/
structure Underway (s : MemoryStore) (key : ObjectKey) (e : Environment) (st : EnvironmentStatus) :
    Prop where
  environment : s.stored? .environment key = some e
  status : e.status = some st
  expected : st.expectedRevision = e.spec.revision
  pending : st.deployedRevision ≠ e.spec.revision

theorem Underway.statusOrInitial_eq (h : s.Underway key e st) : e.statusOrInitial = st := by
  rw [Environment.statusOrInitial, h.status]
  rfl

theorem Underway.turn_eq (h : s.Underway key e st) (hrevision : e.spec.revision ≠ none)
    (hfailure : st.stage.isFailure = false) :
    e.statusOrInitial.turn e.spec.revision = some st.stage := by
  obtain ⟨r, hr⟩ := Option.ne_none_iff_exists'.mp hrevision
  have hexpected := h.expected
  have hpending := h.pending
  rw [hr] at hexpected hpending
  rw [h.statusOrInitial_eq, hr]
  simp [EnvironmentStatus.turn, hexpected, hpending, hfailure]

theorem WellKeyed.exists_reflects (h : s.WellKeyed) (he : s.stored? .environment key = some e)
    (hp : e.Provided settings s) :
    ∃ x : Snapshot, x.Reflects settings.configNamespace settings.defaults key s ∧
      x.environment = e.applyDefaults settings.defaults := by
  obtain ⟨g, secret, hg, hcredentials⟩ := hp
  let x : Snapshot := {
    key
    environment := e.applyDefaults settings.defaults
    config := g.applyDefaults settings.defaults
    storageCredentials := secret
    job := s.stored? .job (key.own .job)
    deployment := s.stored? .deployment key
    service := s.stored? .service key
    ingress := s.stored? .ingress key
    credentials := s.stored? .secret (key.sibling (Naming.credentialsSecretName key.name)) }
  refine ⟨x, ⟨rfl, ⟨e, he, rfl⟩, ⟨g, hg, rfl⟩, hcredentials, fun hk => ?_, h.read_eq _ _⟩, rfl⟩
  rcases hk with rfl | rfl | rfl | rfl
  · exact h.read_eq _ _
  · exact h.read_eq _ _
  · exact h.read_eq _ _
  · exact h.read_eq _ _

end MemoryStore

/-! ## What passes need to go on -/

namespace World
variable {settings : Settings} {key : ObjectKey} {w w' : World}

/-- Others update statuses of jobs and deployments, push images, and remove jobs and deployments. -/
inductive Disturbs (w : World) : World → Prop
  | job (key : ObjectKey) (status : Option JobStatus) :
      Disturbs w (w.modify .job key fun j => { j with status })
  | deployment (key : ObjectKey) (status : Option DeploymentStatus) :
      Disturbs w (w.modify .deployment key fun d => { d with status })
  | push (repository tag : String) :
      Disturbs w { w with registry := w.registry.push repository tag }
  | remove {k : Kind} (key : ObjectKey) (hk : k = .job ∨ k = .deployment) :
      Disturbs w { w with store := w.store.remove k key }

theorem wellKeyed_modify {k : Kind} {f : k.Object → k.Object} (hf : ∀ o, k.keyOf (f o) = k.keyOf o)
    (h : w.store.WellKeyed) : (w.modify k key f).store.WellKeyed := by
  unfold modify
  split
  · exact h
  · exact h.insert ((hf _).trans (h.keyOf_stored ‹_›)) rfl

namespace Disturbs

theorem wellKeyed (hd : w.Disturbs w') (h : w.store.WellKeyed) : w'.store.WellKeyed := by
  cases hd with
  | job => exact wellKeyed_modify (fun _ => rfl) h
  | deployment => exact wellKeyed_modify (fun _ => rfl) h
  | push => exact h
  | remove => exact h.erase rfl

theorem stored?_eq (hd : w.Disturbs w') {k : Kind} (hjob : k ≠ .job) (hdeployment : k ≠ .deployment)
    (key : ObjectKey) : w'.store.stored? k key = w.store.stored? k key := by
  cases hd with
  | job key' => exact stored?_modify_of_ne (ObjectId.ne_of_kind hjob key key') w
  | deployment key' => exact stored?_modify_of_ne (ObjectId.ne_of_kind hdeployment key key') w
  | push => rfl
  | @remove k' key' hk' =>
    have hne : k ≠ k' := by
      rintro rfl
      exact hk'.elim hjob hdeployment
    have hid := ObjectId.ne_of_kind hne key key'
    exact MemoryStore.stored?_congr (by simp [MemoryStore.remove, hid])

end Disturbs

/-- Objects are stored under their own keys, and what an environment with a status needs is
there. -/
structure Provides (settings : Settings) (key : ObjectKey) (w : World) : Prop where
  keyed : w.store.WellKeyed
  environment : ∀ e st, w.store.stored? .environment key = some e → e.status = some st →
    e.spec.revision ≠ none ∧ e.Provided settings w.store

theorem Provides.disturbed (h : w.Provides settings key) (hd : w.Disturbs w') :
    w'.Provides settings key where
  keyed := hd.wellKeyed h.keyed
  environment e st he hst := by
    rw [hd.stored?_eq (by decide) (by decide)] at he
    obtain ⟨hrevision, hprovided⟩ := h.environment e st he hst
    refine ⟨hrevision, hprovided.congr rfl rfl ?_ ?_⟩
    · exact hd.stored?_eq (by decide) (by decide)
    · exact hd.stored?_eq (by decide) (by decide)

/-- A pass leaves the configuration and the secrets that it has found, and writes a status only
where it has found them. -/
theorem Provides.pass {m : Moment} (h : m.world.Provides settings key) (now : Instant)
    (key' : ObjectKey) : (m.pass settings now key').2.world.Provides settings key where
  keyed := Dialogue.wellKeyed_inWorld _ h.keyed
  environment e' st he' hst := by
    have hcomes := Moment.pass_comes settings now key' m
    obtain ⟨e, he, hmetadata, hspec⟩ := hcomes.environment he'
    have hbefore : e.spec.revision ≠ none ∧ e.Provided settings m.world.store := by
      rcases hcomes.environment_cases key with hkept | ⟨rfl, e₀, c, stage, t, next, w₁, ht, _⟩
      · rw [MemoryStore.stored?_congr hkept, he] at he'
        cases he'
        exact h.environment _ st he hst
      · -- The pass has written the status, so it has collected all that the environment needs.
        cases he.symm.trans ht.environment
        obtain ⟨r, hr, _⟩ := EnvironmentStatus.turn_eq_some ht.turn
        obtain ⟨g, hg, hconfig⟩ := ht.reflects.config
        have hcredentials := ht.reflects.storageCredentials
        rw [ht.shown] at hg
        rw [hconfig] at hcredentials
        refine ⟨?_, g, _, hg, hcredentials⟩
        rw [hr]
        exact Option.some_ne_none r
    obtain ⟨hrevision, hprovided⟩ := hbefore
    refine ⟨by rwa [hspec], hprovided.congr hmetadata hspec (fun key => ?_) fun key => ?_⟩
    · exact MemoryStore.stored?_congr
        (hcomes.frame (k := .environmentConfig) (by simp [Kind.IsMade]) (by decide) key)
    · exact MemoryStore.stored?_congr
        (hcomes.frame (k := .secret) (by simp [Kind.IsMade]) (by decide) key)

end World

theorem Run.provides {settings : Settings} {key : ObjectKey} {first m : Moment} {past : List Visit}
    (hkeys : first.world.store.WellKeyed) (hfirst : first.world.store.status? key = none)
    (h : Run settings World.Disturbs first past m) : m.world.Provides settings key := by
  induction h with
  | first =>
    refine ⟨hkeys, fun e st he hst => ?_⟩
    rw [MemoryStore.status?, he] at hfirst
    cases hfirst.symm.trans hst
  | pass now key' _ ih => exact ih.pass now key'
  | others _ hd ih => exact ih.disturbed hd
  | restart _ _ ih => exact ih

/-! ## Passes that find something lost -/

namespace Collection
variable {c : Collection} {stage : Stage} {w : World}

/-- Where the job that is waited for is gone, making it begins anew. -/
theorem step_of_job_lost (hs : stage = .buildImageWait ∨ stage = .buildImageFailing)
    (hjob : c.snapshot.job = none) (status : EnvironmentStatus) :
    c.step status stage = pure (.move status .buildImage) := by
  have hwait : c.waitForBuild status = .move status .buildImage := by simp [waitForBuild, hjob]
  rcases hs with rfl | rfl
  · exact congrArg pure hwait
  · exact congrArg pure hwait

theorem step_of_deployment_lost (hdeployment : c.snapshot.deployment = none)
    (status : EnvironmentStatus) :
    c.step status .deployVerify = pure (.move status .deployVerify) := by
  have hverify : c.verifyDeployment status = .move status .deployVerify := by
    simp [verifyDeployment, hdeployment]
  exact congrArg pure hverify

theorem buildImage_next_of_absent (htarget : c.target = c.snapshot.target) (hw : w.Working)
    (hnone : c.snapshot.job = none)
    (habsent : w.store.objects.get? ⟨.job, c.snapshot.key.own .job⟩ = none)
    (status : EnvironmentStatus) : ((c.buildImage status).inWorld w).1.next = .buildImageWait := by
  have hmakes : c.buildImage status = c.createJob status := by simp [buildImage, hnone]
  have hkey : Kind.job.keyOf c.target.job = .ok (c.snapshot.key.own .job) :=
    keyOf_wanted htarget rfl
  rw [hmakes]
  rcases ha : w.request (.create .job c.target.job) with ⟨e | v, w'⟩
  · have hadmits : w.store.Admits .job (c.snapshot.key.own .job) none (some c.target.job) :=
      fun _ =>
      ⟨by simp [hw.failingWrites], by simp [SortedMap.contains, habsent]⟩
    exact absurd hadmits (MemoryStore.create_error hkey (hw.answer ha)).2
  · have hcreate : (c.createJob status).inWorld w = (afterCreate status (.ok v), w') :=
      Dialogue.inWorld_bind ha
    rw [hcreate]
    rfl

end Collection

namespace Moment
variable {settings : Settings} {now : Instant} {key : ObjectKey} {m : Moment} {e : Environment}
  {st : EnvironmentStatus}

section
variable (now) (hm : m.Steady) (hp : m.world.Provides settings key)
  (hu : m.world.store.Underway key e st)
include hm hp hu

theorem exists_dispatches (hfailure : st.stage.isFailure = false) : ∃ c t w₁,
    Pass.Dispatches World.answer settings key m.world c st.stage t w₁ ∧
    Pass.Takes settings key m.world e c st.stage t w₁ ∧ c.status = st := by
  obtain ⟨hrevision, hprovided⟩ := hp.environment e st hu.environment hu.status
  obtain ⟨x, hx, henvironment⟩ := hm.keyed.exists_reflects hu.environment hprovided
  have hcollect := collect_of_reflects hm.calm.contended hx
  have hturn : x.environment.statusOrInitial.turn x.revision = some st.stage := by
    rw [Snapshot.revision, henvironment]
    exact hu.turn_eq hrevision hfailure
  rcases hstep :
    ((Collection.mk x x.target).step { x.environment.statusOrInitial with stage := st.stage }
    st.stage).inWorld m.world with ⟨t, w₁⟩
  have hd : Pass.Dispatches World.answer settings key m.world ⟨x, x.target⟩ st.stage t w₁ :=
    ⟨hturn, m.world, hcollect, hstep⟩
  obtain ⟨e', ht, hstatus⟩ := hd.takes
  cases ht.environment.symm.trans hu.environment
  exact ⟨_, t, w₁, hd, ht, hstatus.trans hu.statusOrInitial_eq⟩

/-- A pass that finds the job it waits for gone goes back to the stage at which jobs are made. -/
theorem returns_to_build (hstage : st.stage = .buildImageWait ∨ st.stage = .buildImageFailing)
    (hjob : m.world.store.stored? .job (key.own .job) = none) :
    let building : EnvironmentStatus := { st with stage := .buildImage, lastUpdated := some now }
    (m.pass settings now key).2.world.store.Underway key { e with status := some building }
      building ∧
    (m.pass settings now key).2.world.store.stored? .job (key.own .job) = none := by
  have hfailure : st.stage.isFailure = false := by rcases hstage with hs | hs <;> rw [hs] <;> rfl
  obtain ⟨c, t, w₁, hd, ht, hstatus⟩ := exists_dispatches hm hp hu hfailure
  have hnone : c.snapshot.job = none :=
    (ht.reflects.stored_eq (k := .job) (.inl rfl)).symm.trans hjob
  have hrun := (hd.inWorld hm.calm).2
  rw [Collection.step_of_job_lost hstage hnone, hstatus] at hrun
  cases hrun
  have hchanged : { st with stage := .buildImage } ≠ c.status := by
    rw [hstatus]
    intro hsame
    have hstage' : st.stage = .buildImage := by rw [← hsame]
    rcases hstage with hs | hs <;> rw [hs] at hstage' <;> cases hstage'
  obtain ⟨e', he', ho⟩ := hd.stored now hm.ceiling hm.calm hchanged
  cases he'.symm.trans hu.environment
  refine ⟨⟨MemoryStore.stored?_of_insert (k := .environment) ho, rfl, hu.expected, hu.pending⟩, ?_⟩
  rw [← hjob]
  exact MemoryStore.stored?_of_insert_of_ne ho (ObjectId.ne_of_kind (by decide) _ _)

/-- A pass that has found no job makes one for the revision that is asked for. -/
theorem makes_job (hw : m.world.Working) (hstage : st.stage = .buildImage)
    (hjob : m.world.store.stored? .job (key.own .job) = none) : ∃ job : Job,
    (m.pass settings now key).2.world.store.stored? .job (key.own .job) = some job ∧
    job.metadata.revision = e.spec.revision := by
  have hfailure : st.stage.isFailure = false := by rw [hstage]; rfl
  obtain ⟨c, t, w₁, hd, ht, hstatus⟩ := exists_dispatches hm hp hu hfailure
  rw [hstage] at hd ht
  have hnone : c.snapshot.job = none :=
    (ht.reflects.stored_eq (k := .job) (.inl rfl)).symm.trans hjob
  have habsent : m.world.store.objects.get? ⟨.job, c.snapshot.key.own .job⟩ = none := by
    have hread := hm.keyed.read_eq .job (key.own .job)
    rw [hjob] at hread
    rw [ht.key_eq]
    exact MemoryStore.read_eq_none.mp hread
  have hnext : t.next = .buildImageWait := by
    have hrun := congrArg (fun p => (Prod.fst p).next) (hd.inWorld hm.calm).2
    exact hrun.symm.trans (Collection.buildImage_next_of_absent ht.target hw hnone habsent _)
  have hchanged : { t.status with stage := t.next } ≠ c.status := by
    intro hsame
    have hstage' := congrArg (·.stage) hsame
    rw [hstatus, hstage, hnext] at hstage'
    cases hstage'
  obtain ⟨_, _, ho⟩ := hd.stored now hm.ceiling hm.calm hchanged
  refine ⟨c.target.job, ?_, ht.revision_wanted (k := .job) rfl⟩
  rw [← ht.built rfl hnext]
  exact MemoryStore.stored?_of_insert_of_ne ho (ObjectId.ne_of_kind (by decide) _ _)

/-- A pass that finds the deployment it waits for gone writes nothing, and asks to be called
again. -/
theorem waits_for_deployment (hstage : st.stage = .deployVerify)
    (hdeployment : m.world.store.stored? .deployment key = none) :
    m.Quiet settings now key ∧ (m.pass settings now key).1 =
      .ok (.requeue settings.requeueDelay) := by
  have hfailure : st.stage.isFailure = false := by rw [hstage]; rfl
  obtain ⟨c, t, w₁, hd, ht, hstatus⟩ := exists_dispatches hm hp hu hfailure
  rw [hstage] at hd ht
  have hfound : m.world.store.stored? .deployment key = c.snapshot.deployment :=
    ht.reflects.stored_eq (k := .deployment) (.inr (.inl rfl))
  have hstep := Collection.step_of_deployment_lost (hfound.symm.trans hdeployment)
    { st with stage := .deployVerify }
  have hrun := (hd.inWorld hm.calm).2
  rw [hstatus, hstep] at hrun
  cases hrun
  have hquiet : (c.step { c.status with stage := .deployVerify } .deployVerify).Quiet m.world := by
    rw [hstatus, hstep]
    exact Dialogue.quiet_pure _ _
  have hsame : { st with stage := .deployVerify } = c.status := by rw [hstatus, ← hstage]
  exact hd.run_of_unchanged now hm.ceiling hm.calm hquiet hsame

/-- So the deployment stays lost. -/
theorem deployment_stays_lost (hstage : st.stage = .deployVerify)
    (hdeployment : m.world.store.stored? .deployment key = none) (times : Nat → Instant) (n : Nat) :
    (m.passes settings key times n).Quiet settings (times n) key ∧
    (m.passes settings key times n).world = m.world ∧
    ((m.passes settings key times n).pass settings (times n) key).1 =
      .ok (.requeue settings.requeueDelay) := by
  obtain ⟨hquiet, hresult⟩ := waits_for_deployment (times 0) hm hp hu hstage hdeployment
  obtain ⟨hquiet', _, hresult'⟩ := hm.quiet_passes hquiet (Nat.zero_le n)
  refine ⟨hquiet', ?_, hresult'.trans hresult⟩
  cases n with
  | zero => rfl
  | succ n => exact (hm.quiet_passes hquiet (Nat.zero_le n)).2.1

end
end Moment

/-- From an environment without a status, among objects that are stored under their own keys, a run
has led to a moment at which an environment is at the revision that it expects and has still to
deploy, and others have updated statuses of jobs and deployments, have pushed images, and have
removed jobs and deployments on the way. If nothing fails and there is no ceiling, two passes make a
build job that is missed while it is waited for. Where the deployment is missed, no pass writes
anything: all of them leave the world as it is and ask to be called again. -/
theorem Run.rebuilds_or_waits {settings : Settings} {key : ObjectKey} {first m : Moment}
    {past : List Visit} {e : Environment} {st : EnvironmentStatus}
    (hkeys : first.world.store.WellKeyed) (hfirst : first.world.store.status? key = none)
    (h : Run settings World.Disturbs first past m) (hceiling : m.memory.stalls.ceiling = none)
    (hw : m.world.Working) (hu : m.world.store.Underway key e st)
    (times : Nat → Instant) :
    (st.stage = .buildImageWait ∨ st.stage = .buildImageFailing →
      m.world.store.stored? .job (key.own .job) = none →
      (m.passes settings key times 1).world.store.stored? .job (key.own .job) = none ∧
      ∃ job : Job, (m.passes settings key times 2).world.store.stored? .job (key.own .job) =
        some job ∧
        job.metadata.revision = e.spec.revision) ∧
    (st.stage = .deployVerify → m.world.store.stored? .deployment key = none → ∀ n,
      (m.passes settings key times n).Quiet settings (times n) key ∧
      (m.passes settings key times n).world = m.world ∧
      ((m.passes settings key times n).pass settings (times n) key).1 =
        .ok (.requeue settings.requeueDelay)) := by
  have hp := h.provides hkeys hfirst
  have hm : m.Steady := ⟨hceiling, hw.calm, hp.keyed⟩
  constructor
  · intro hstage hjob
    obtain ⟨hu₁, hjob₁⟩ := Moment.returns_to_build (times 0) hm hp hu hstage hjob
    have hw₁ : (m.passes settings key times 1).world.Working :=
      hw.subsides (Dialogue.subsides_inWorld _ m.world)
    have hm₁ := hm.passes settings key times 1
    obtain ⟨job, hmade, hrevision⟩ :=
      Moment.makes_job (times 1) hm₁ (hp.pass (times 0) key) hu₁ hw₁ rfl hjob₁
    exact ⟨hjob₁, job, hmade, hrevision⟩
  · intro hstage hdeployment
    exact Moment.deployment_stays_lost hm hp hu hstage hdeployment times

namespace Sample

def lose (k : Kind) (m : Moment) : Moment :=
  m.alter fun w => { w with store := w.store.remove k (key.own k) }

def jobLost : Moment := lose .job (pass (pass first))

def deploymentLost : Moment := lose .deployment (apply "1" first)

theorem run_jobLost : ∃ past, Run {} World.Disturbs first past jobLost :=
  ⟨_, .others (.pass _ _ (.pass _ _ .first)) (.remove _ (.inl rfl))⟩

theorem run_deploymentLost : ∃ past, Run {} World.Disturbs first past deploymentLost := by
  obtain ⟨past, h⟩ := run_apply (fun _ => .job _ _) (fun _ _ => .push _ _) "1"
    (.first : Run {} World.Disturbs first [] first)
  exact ⟨past, .others h (.remove _ (.inr rfl))⟩

/-- Nothing fails and there is no ceiling, the environment is at a stage on the way to the revision
that it asks for, and its object of a kind is missing. -/
def misses (k : Kind) (stage : Stage) (m : Moment) : Bool :=
  m.memory.stalls.ceiling.isNone && m.world.faults.isEmpty && m.world.store.conflicts.isEmpty &&
    m.world.store.failingWrites.isEmpty && (m.world.store.stored? k (key.own k)).isNone &&
    (m.world.store.stored? .environment key).any fun e => e.status.any fun st =>
      st.stage == stage && st.expectedRevision == e.spec.revision &&
        st.deployedRevision != e.spec.revision

theorem of_misses {k : Kind} {stage : Stage} {m : Moment} (h : misses k stage m = true) :
    m.memory.stalls.ceiling = none ∧ m.world.Working ∧ m.world.store.stored? k (key.own k) = none ∧
    ∃ e st, m.world.store.Underway key e st ∧ st.stage = stage := by
  simp only [misses, Bool.and_eq_true, Option.isNone_iff_eq_none, List.isEmpty_iff] at h
  obtain ⟨⟨⟨⟨⟨hceiling, hfaults⟩, hconflicts⟩, hopen⟩, hmissing⟩, h⟩ := h
  obtain ⟨e, he, h⟩ := (Option.any_eq_true _ _).mp h
  obtain ⟨st, hst, h⟩ := (Option.any_eq_true _ _).mp h
  simp only [Bool.and_eq_true, beq_iff_eq, bne_iff_ne] at h
  obtain ⟨⟨hstage, hexpected⟩, hpending⟩ := h
  exact ⟨hceiling, ⟨⟨hfaults, hconflicts⟩, hopen⟩, hmissing, e, st, ⟨he, hst, hexpected, hpending⟩,
    hstage⟩

end Sample

set_option maxRecDepth 100000 in
/-- The job that was removed is made again by the second pass. -/
theorem Run.rebuilds_job_lost :
    ∃ past e st, Run {} World.Disturbs Sample.first past Sample.jobLost ∧
    Sample.first.world.store.WellKeyed ∧ Sample.first.world.store.status? Sample.key = none ∧
    Sample.jobLost.memory.stalls.ceiling = none ∧ Sample.jobLost.world.Working ∧
    Sample.jobLost.world.store.Underway Sample.key e st ∧ st.stage = .buildImageWait ∧
    Sample.jobLost.world.store.stored? .job (Sample.key.own .job) = none ∧
    ∃ job, (Sample.pass (Sample.pass Sample.jobLost)).world.store.stored? .job
      (Sample.key.own .job) = some job := by
  have hmisses : Sample.misses .job .buildImageWait Sample.jobLost = true := by decide +kernel
  obtain ⟨hceiling, hworking, hmissing, e, st, hunderway, hstage⟩ := Sample.of_misses hmisses
  obtain ⟨past, hrun⟩ := Sample.run_jobLost
  have hfirst : Sample.first.world.store.status? Sample.key = none := by decide +kernel
  obtain ⟨_, job, hmade, _⟩ :=
    (Run.rebuilds_or_waits Sample.wellKeyed_first hfirst hrun hceiling hworking hunderway
    fun _ => .epoch).1 (.inl hstage) hmissing
  exact ⟨past, e, st, hrun, Sample.wellKeyed_first, hfirst, hceiling, hworking, hunderway, hstage,
    hmissing, job, hmade⟩

set_option maxRecDepth 100000 in
/-- The deployment that was removed is made by no pass that follows. -/
theorem Run.deployment_lost_for_good :
    ∃ past e st, Run {} World.Disturbs Sample.first past Sample.deploymentLost ∧
    Sample.first.world.store.WellKeyed ∧ Sample.first.world.store.status? Sample.key = none ∧
    Sample.deploymentLost.memory.stalls.ceiling = none ∧ Sample.deploymentLost.world.Working ∧
    Sample.deploymentLost.world.store.Underway Sample.key e st ∧ st.stage = .deployVerify ∧
    Sample.deploymentLost.world.store.stored? .deployment Sample.key = none ∧ ∀ times n,
      (Sample.deploymentLost.passes {} Sample.key times n).Quiet {} (times n) Sample.key ∧
      (Sample.deploymentLost.passes {} Sample.key times n).world.store.stored? .deployment
        Sample.key = none := by
  have hmisses : Sample.misses .deployment .deployVerify Sample.deploymentLost = true := by
    decide +kernel
  obtain ⟨hceiling, hworking, hmissing, e, st, hunderway, hstage⟩ := Sample.of_misses hmisses
  obtain ⟨past, hrun⟩ := Sample.run_deploymentLost
  have hfirst : Sample.first.world.store.status? Sample.key = none := by decide +kernel
  have hp : Sample.deploymentLost.world.Provides {} Sample.key :=
    hrun.provides Sample.wellKeyed_first hfirst
  have hsteady : Sample.deploymentLost.Steady := ⟨hceiling, hworking.calm, hp.keyed⟩
  refine ⟨past, e, st, hrun, Sample.wellKeyed_first, hfirst, hceiling, hworking, hunderway, hstage,
    hmissing, fun times n => ?_⟩
  obtain ⟨hquiet, hworld, _⟩ :=
    Moment.deployment_stays_lost hsteady hp hunderway hstage hmissing times n
  exact ⟨hquiet, by rw [hworld]; exact hmissing⟩

end EnvOperator
