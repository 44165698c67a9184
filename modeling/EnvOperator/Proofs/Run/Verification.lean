import EnvOperator.Proofs.Pass.Edges
import EnvOperator.Proofs.Pass.Interrupted
import EnvOperator.Proofs.Run.Building
import Mathlib.Logic.Relation

/-! # What a deployment has been through

A deployment is made for a revision after the registry was seen to list it, or after a build was
skipped because a job of the right shape was there already. That job is one that an earlier pass has
made for the revision, with what others have made of it since, but neither its end nor the registry
has been looked at.
-/
namespace EnvOperator

def Query.deployment? : Query → Option Deployment
  | .store (.create .deployment d) => some d
  | .store (.replace .deployment d) => some d
  | _ => none

def Query.Deploys (key : ObjectKey) (r : String) (q : Query) : Prop :=
  ∃ d, q.deployment? = some d ∧ Kind.deployment.keyOf d = .ok key ∧ d.revision = some r

def World.Lists (w : World) (repository tag : String) : Prop :=
  ∃ url tags, w.registry.listTags url repository = .ok tags ∧ tag ∈ tags

def World.IsAt (w : World) (key : ObjectKey) (stage : Stage) (r : String) : Prop :=
  ∃ st, w.store.status? key = some st ∧ st.stage = stage ∧ st.expectedRevision = some r

/-- The pass has found a build job of the shape that is wanted. It asks nothing about jobs, and its
step leads to the stage that deploys. -/
structure Visit.SkipsBuild (settings : Settings) (key : ObjectKey) (r : String) (job : Job)
    (v : Visit) : Prop where
  key_eq : v.key = key
  isAt : v.before.world.IsAt key .buildImage r
  found : ∃ x : Snapshot,
    x.Reflects settings.configNamespace settings.defaults key v.before.world.store ∧
      x.revision = some r ∧ x.job = some job ∧ job.sameShape x.target.job = true
  led : v.led settings = some .deploy
  unasked : ∀ x ∈ v.exchanged settings, x.1.job? = none

/-- The pass has left the build job that is wanted for a revision, where there was none or another
one. -/
structure Visit.MakesJob (settings : Settings) (key : ObjectKey) (r : String) (job : Job)
    (v : Visit) : Prop where
  key_eq : v.key = key
  isAt : v.before.world.IsAt key .buildImage r
  wanted : ∃ x : Snapshot,
    x.Reflects settings.configNamespace settings.defaults key v.before.world.store ∧
      x.revision = some r ∧ x.target.job = job
  new : v.before.world.store.stored? .job (key.own .job) ≠ some job
  stored : (v.after settings).world.store.stored? .job (key.own .job) = some job

/-- Every job was there before, and has been changed in these ways only. -/
def World.JobsFrom (changes : Job → Job → Prop) (w w' : World) : Prop :=
  ∀ key job', w'.store.stored? .job key = some job' →
    ∃ job, w.store.stored? .job key = some job ∧ Relation.ReflTransGen changes job job'

/-- The build was skipped in a run for the job that an earlier pass of the run has made, after
others may have changed it. -/
def SkippedBuild (settings : Settings) (changes : Job → Job → Prop) (key : ObjectKey) (r : String)
    (past : List Visit) : Prop :=
  ∃ v v' found made, [v, v'].Sublist past ∧ v.SkipsBuild settings key r found ∧
    v'.MakesJob settings key r made ∧ Relation.ReflTransGen changes made found

namespace Collection
variable {c : Collection} {stage : Stage} {q : Query} {key : ObjectKey} {r : String}

theorem Asks.deploys (h : c.Asks stage q) (hq : q.Deploys key r) : stage.Makes .deployment ∧
    ∃ d, c.wanted .deployment = some d ∧ Kind.deployment.keyOf d = .ok key ∧ d.metadata.revision =
      some r := by
  obtain ⟨d, hd, hkey, hr⟩ := hq
  cases h with
  | @create k o hk hw =>
    cases k with
    | deployment =>
      cases hd
      exact ⟨hk, d, hw, hkey, hr⟩
    | _ => cases hd
  | @replace k o hk _ hw =>
    cases k with
    | deployment =>
      cases hd
      exact ⟨hk, d, hw, hkey, hr⟩
    | _ => cases hd
  | delete | tags => cases hd

end Collection

namespace Pass
variable {settings : Settings} {key key' : ObjectKey} {w : World} {q : Query} {r : String}

/-- Only the stage that applies the workload makes a deployment, and only for the revision that is
expected. -/
theorem Asks.isAt (h : Asks settings key' w q) (hq : q.Deploys key r) :
    key' = key ∧ w.IsAt key .deploy r := by
  cases h with
  | status st =>
    obtain ⟨d, hd, _⟩ := hq
    cases hd
  | collect h =>
    obtain ⟨d, hd, _⟩ := hq
    cases q with
    | tags => cases h
    | store request =>
      cases request with
      | get => cases hd
      | create | replace | delete | updateStatus => cases h
  | step hf h =>
    obtain ⟨hm, d, hd, hkey, hr⟩ := h.deploys hq
    obtain rfl := hm.stage_eq_of_deployment
    obtain rfl := Except.ok.inj ((hf.keyOf_wanted hd).symm.trans hkey)
    obtain ⟨hst, hstage, hexp, _⟩ := hf.of_ne_initial nofun
    exact ⟨rfl, _, hst, hstage, hexp.trans ((hf.revision_wanted hd).symm.trans hr)⟩

end Pass

theorem Job.revision_of_sameShape {a b : Job} (h : a.sameShape b = true) :
    a.metadata.revision = b.metadata.revision :=
  congrArg JobShape.revision (eq_of_beq h)

theorem Job.revision_of_many {changes : Job → Job → Prop} {a b : Job}
    (hchanges : ∀ a b, changes a b → b.metadata.revision = a.metadata.revision)
    (h : Relation.ReflTransGen changes a b) : b.metadata.revision = a.metadata.revision := by
  induction h with
  | refl => rfl
  | tail _ hstep ih => exact (hchanges _ _ hstep).trans ih

namespace Pass.Takes
variable {settings : Settings} {key : ObjectKey} {w w' : World} {e : Environment} {c : Collection}
  {stage : Stage} {t : Transition} {r : String}

theorem isAt (ht : Takes settings key w e c stage t w') (hs : stage ≠ .initial)
    (hr : e.spec.revision = some r) : w.IsAt key stage r := by
  obtain ⟨hst, hstage, hexp, _⟩ := ht.of_ne_initial hs
  exact ⟨_, hst, hstage, hexp.trans hr⟩

theorem job?_eq_none {now : Instant} {m : PassMemory} {x : (q : Query) × q.Answer} {job : Job}
    (ht : Takes settings key w e c stage t w') (hj : c.snapshot.job = some job)
    (hshape : job.sameShape c.target.job = true)
    (hx : x ∈ (Pass.run settings now key m).exchanged World.answer w) : x.1.job? = none := by
  apply Classical.not_not.mp
  intro hjob
  obtain ⟨_, c', hf, _, hunbuilt⟩ := Pass.unbuilt_of_exchanged hx hjob
  rw [hf.reflects.unique ht.reflects] at hunbuilt
  rw [ht.target, hunbuilt job hj] at hshape
  cases hshape

end Pass.Takes

/-- How the build job of an environment and its turn to be deployed have come about. -/
structure Provenance (settings : Settings) (changes : Job → Job → Prop) (key : ObjectKey)
    (past : List Visit) (w : World) : Prop where
  job : ∀ j r, w.store.stored? .job (key.own .job) = some j → j.metadata.revision = some r →
    ∃ v ∈ past, ∃ made, v.MakesJob settings key r made ∧ Relation.ReflTransGen changes made j
  deploy : ∀ st r, w.store.writtenStatus? key = some st → st.stage = .deploy →
    st.expectedRevision = some r →
    (∃ v ∈ past, v.key = key ∧ v.before.world.Lists key.name r) ∨
      SkippedBuild settings changes key r past

section
variable {settings : Settings} {changes : Job → Job → Prop} {key : ObjectKey} {past : List Visit}
  {w w' : World} {r : String}

theorem SkippedBuild.cons (h : SkippedBuild settings changes key r past) (v : Visit) :
    SkippedBuild settings changes key r (v :: past) := by
  obtain ⟨v₁, v₂, found, made, hs, hskip, hmake, hsince⟩ := h
  exact ⟨v₁, v₂, found, made, hs.cons v, hskip, hmake, hsince⟩

namespace Provenance

theorem deploy_cons (hp : Provenance settings changes key past w) {st : EnvironmentStatus}
    (hst : w.store.writtenStatus? key = some st) (hstage : st.stage = .deploy)
    (hexp : st.expectedRevision = some r) (u : Visit) :
    (∃ v ∈ u :: past, v.key = key ∧ v.before.world.Lists key.name r) ∨
      SkippedBuild settings changes key r (u :: past) := by
  rcases hp.deploy st r hst hstage hexp with ⟨v, hv, hlists⟩ | hskip
  · exact .inl ⟨v, List.mem_cons_of_mem _ hv, hlists⟩
  · exact .inr (hskip.cons u)

/-- A pass leads to the stage that deploys because it skips a build, has seen the image, or has
deployed before. -/
theorem enters_deploy {now : Instant} {m : Moment} {e : Environment} {c : Collection}
    {stage : Stage} {t : Transition} (hp : Provenance settings changes key past m.world)
    (ht : Pass.Takes settings key m.world e c stage t w') (hn : t.next = .deploy)
    (hr : t.status.expectedRevision = some r) :
    (∃ v ∈ ⟨now, key, m⟩ :: past, v.key = key ∧ v.before.world.Lists key.name r) ∨
      SkippedBuild settings changes key r (⟨now, key, m⟩ :: past) := by
  have hrev : e.spec.revision = some r := ht.expectedRevision.symm.trans hr
  have hsnapshot : c.snapshot.revision = some r := ht.revision_eq.trans hrev
  rcases ht.steps.leads.enters_deploy hn with
    ⟨rfl, job, hj, hshape⟩ | ⟨rfl, url, tags, htags, hmem⟩ | rfl
  · -- the job that lets the build be skipped is stored, so that a pass before has made it
    have hstored := ht.reflects.stored_eq (k := .job) (.inl rfl)
    have hjob : job.metadata.revision = some r := by
      rw [Job.revision_of_sameShape hshape]
      exact (ht.revision_wanted (k := .job) rfl).trans hrev
    obtain ⟨v, hv, made, hmake, hsince⟩ := hp.job job r (hstored.trans hj) hjob
    have hskips : (⟨now, key, m⟩ : Visit).SkipsBuild settings key r job := by
      refine ⟨rfl, ht.isAt (by decide) hrev, ?_, hn ▸ ht.led,
        fun x hx => ht.job?_eq_none hj hshape hx⟩
      exact ⟨c.snapshot, ht.reflects, hsnapshot, hj, ht.target ▸ hshape⟩
    have hboth : [⟨now, key, m⟩, v].Sublist (⟨now, key, m⟩ :: past) :=
      (List.singleton_sublist.mpr hv).cons_cons _
    exact .inr ⟨_, v, job, made, hboth, hskips, hmake, hsince⟩
  · refine .inl ⟨_, List.mem_cons_self, rfl, url, tags, ht.key_eq ▸ htags, ?_⟩
    rwa [Snapshot.revisionText, hsnapshot] at hmem
  · obtain ⟨st, hst, hstage, hexp⟩ := ht.isAt (by decide) hrev
    exact hp.deploy_cons (MemoryStore.writtenStatus?_of_status hst) hstage hexp _

theorem pass {now : Instant} {key' : ObjectKey} {m : Moment}
    (hp : Provenance settings changes key past m.world) :
    Provenance settings changes key (⟨now, key', m⟩ :: past)
      (m.pass settings now key').2.world := by
  have hcomes := Moment.pass_comes settings now key' m
  constructor
  · intro j r hj hr
    by_cases hold : m.world.store.stored? .job (key.own .job) = some j
    · obtain ⟨v, hv, made, hmake, hsince⟩ := hp.job j r hold hr
      exact ⟨v, List.mem_cons_of_mem _ hv, made, hmake, hsince⟩
    · rcases hcomes.stored?_cases (by decide) hj with
        hj' | ⟨e, c, stage, t, w₁, ht, hmakes, hwanted, hkey⟩
      · exact absurd hj' hold
      · obtain rfl := ObjectKey.own_injective hkey
        obtain rfl := hmakes.stage_eq_of_job
        have hrev : e.spec.revision = some r := (ht.revision_wanted hwanted).symm.trans hr
        have hjob : c.snapshot.target.job = j := by
          rw [← ht.target]
          exact Option.some.inj hwanted
        have hmade : (⟨now, key, m⟩ : Visit).MakesJob settings key r j :=
          ⟨rfl, ht.isAt nofun hrev,
            ⟨c.snapshot, ht.reflects, ht.revision_eq.trans hrev, hjob⟩, hold, hj⟩
        exact ⟨_, List.mem_cons_self, j, hmade, .refl⟩
  · intro st r hst hstage hexp
    rcases hcomes.writtenStatus?_cases hst with
      hst | ⟨rfl, _, e, c, stage, t, next, w₁, ht, hnext, rfl, _⟩
    · exact hp.deploy_cons hst hstage hexp _
    · obtain rfl : next = .deploy := hstage
      exact hp.enters_deploy ht (hnext.eq_of_not_failure rfl).symm hexp

theorem others (hp : Provenance settings changes key past w)
    (hchanges : ∀ a b, changes a b → b.metadata.revision = a.metadata.revision)
    (hs : w.StatusesKept w') (hj : w.JobsFrom changes w') :
    Provenance settings changes key past w' where
  job j r hj' hr := by
    obtain ⟨j₀, hj₀, hsince⟩ := hj _ j hj'
    have hrevision := Job.revision_of_many hchanges hsince
    obtain ⟨v, hv, made, hmake, hmade⟩ := hp.job j₀ r hj₀ (hrevision.symm.trans hr)
    exact ⟨v, hv, made, hmake, hmade.trans hsince⟩
  deploy st r hst := hp.deploy st r (hs key st hst)

end Provenance

variable {others : World → World → Prop} {first m : Moment}

theorem Run.provenance (hchanges : ∀ a b, changes a b → b.metadata.revision = a.metadata.revision)
    (hothers : ∀ w w', others w w' → w.StatusesKept w' ∧ w.JobsFrom changes w')
    (hstatus : first.world.store.writtenStatus? key = none)
    (hjob : first.world.store.stored? .job (key.own .job) = none)
    (h : Run settings others first past m) : Provenance settings changes key past m.world := by
  induction h with
  | first =>
    constructor
    · intro j r hj
      cases hjob.symm.trans hj
    · intro st r hst
      cases hstatus.symm.trans hst
  | pass now key' h ih => exact ih.pass
  | others h hw ih => exact ih.others hchanges (hothers _ _ hw).1 (hothers _ _ hw).2
  | restart memory h ih => exact ih

/-- In a run from an environment without a status and without a build job, where others write no
statuses, make no jobs, and change what jobs there are in ways that keep their revision: as long as
no pass has seen the registry list a revision, a pass has the deployment made for it only if an
earlier pass has skipped the build. That one has found a job of the right shape, asked nothing about
it and gone on to deploy, and the job is the one that a still earlier pass has made for the
revision, but for what others have changed of it since. -/
theorem Run.skipped_of_unlisted {now : Instant} {key' : ObjectKey} {q : Query}
    (hchanges : ∀ a b, changes a b → b.metadata.revision = a.metadata.revision)
    (hothers : ∀ w w', others w w' → w.StatusesKept w' ∧ w.JobsFrom changes w')
    (hstatus : first.world.store.writtenStatus? key = none)
    (hjob : first.world.store.stored? .job (key.own .job) = none)
    (h : Run settings others first past m)
    (hlists : ∀ v ∈ past, ¬ v.before.world.Lists key.name r)
    (hq : q ∈ (Pass.run settings now key' m.memory).asked World.answer m.world)
    (hdeploys : q.Deploys key r) : SkippedBuild settings changes key r past := by
  have hp := h.provenance hchanges hothers hstatus hjob
  obtain ⟨rfl, st, hst, hstage, hexp⟩ := (Pass.asks hq).isAt hdeploys
  rcases hp.deploy st r (MemoryStore.writtenStatus?_of_status hst) hstage hexp with
    ⟨v, hv, _, hl⟩ | hskip
  · exact absurd hl (hlists v hv)
  · exact hskip

end

theorem World.not_lists {w : World} (h : w.registry.tags = ∅) (repository tag : String) :
    ¬ w.Lists repository tag := by
  rintro ⟨url, tags, htags, hm⟩
  unfold RegistryDouble.listTags at htags
  split at htags
  · cases htags
  · cases htags
    obtain ⟨x, hx, _⟩ := List.mem_map.mp hm
    simp only [RegistryDouble.tagsOf, h, SortedMap.get?_empty] at hx
    cases hx

namespace Sample

set_option maxRecDepth 100000 in
theorem unlisted :
    ∀ v ∈ [(⟨.epoch, key, pass (refuse (pass first))⟩ : Visit), ⟨.epoch, key, refuse (pass first)⟩,
    ⟨.epoch, key, first⟩], ¬ v.before.world.Lists key.name "1" := by
  have hempty : ∀ v ∈ [(⟨.epoch, key, pass (refuse (pass first))⟩ : Visit),
      ⟨.epoch, key, refuse (pass first)⟩, ⟨.epoch, key, first⟩],
      v.before.world.registry.tags = ∅ := by decide +kernel
  exact fun v hv => World.not_lists (hempty v hv) _ _

set_option maxRecDepth 100000 in
theorem deploys_skipped :
    ∃ q ∈ (Pass.run {} .epoch key skipped.memory).asked World.answer skipped.world,
    q.Deploys key "1" := by
  have hany : (((Pass.run {} .epoch key skipped.memory).asked World.answer skipped.world).filterMap
      Query.deployment?).any
        (fun d => d.metadata.ns == some key.ns && d.metadata.name == some key.name &&
        d.revision == some "1") = true := by
    decide +kernel
  obtain ⟨d, hd, hp⟩ := List.any_eq_true.mp hany
  obtain ⟨q, hq, hdep⟩ := List.mem_filterMap.mp hd
  simp only [Bool.and_eq_true, beq_iff_eq] at hp
  exact ⟨q, hq, d, hdep, ObjectKey.ofMeta_eq_ok.mpr hp.1, hp.2⟩

end Sample

set_option maxRecDepth 100000 in
/-- The registry never lists the revision, nobody has waited for the job, and yet the deployment is
made. -/
theorem Run.deploys_unbuilt : ∃ past q, Run {} Sample.Refusing Sample.first past Sample.skipped ∧
    Sample.first.world.store.status? Sample.key = none ∧
    Sample.first.world.store.stored? .job (Sample.key.own .job) = none ∧
    Sample.first.world.store.stored? .deployment Sample.key = none ∧
    (∀ v ∈ past, ¬ v.before.world.Lists Sample.key.name "1") ∧
    ¬ Sample.skipped.world.Lists Sample.key.name "1" ∧
    q ∈ (Pass.run {} .epoch Sample.key Sample.skipped.memory).asked World.answer
      Sample.skipped.world ∧
    q.Deploys Sample.key "1" ∧
    ((Sample.pass Sample.skipped).world.store.stored? .deployment Sample.key).bind (·.revision) =
      some "1" := by
  obtain ⟨q, hq, hdeploys⟩ := Sample.deploys_skipped
  have hnow : Sample.skipped.world.registry.tags = ∅ := by
    decide +kernel
  exact ⟨_, q, Sample.run_skipped, by decide +kernel, by decide +kernel, by decide +kernel,
    Sample.unlisted, World.not_lists hnow _ _, hq, hdeploys, by decide +kernel⟩

set_option maxRecDepth 100000 in
/-- The deployment that nobody has verified goes back to a job that was found in place of a build,
and of which no more than the status can have changed since it was made. -/
theorem Run.skipped_after_refusal :
    ∃ past, Run {} Sample.Refusing Sample.first past Sample.skipped ∧
    SkippedBuild {} (fun a b => ∃ status, b = { a with status }) Sample.key "1" past := by
  obtain ⟨q, hq, hdeploys⟩ := Sample.deploys_skipped
  have hchanges (a b : Job) (h : ∃ status, b = { a with status }) :
      b.metadata.revision = a.metadata.revision := by
    obtain ⟨status, rfl⟩ := h
    rfl
  have hothers (w w' : World) (hw : Sample.Refusing w w') :
      w.StatusesKept w' ∧ w.JobsFrom (fun a b => ∃ status, b = { a with status }) w' := by
    refine ⟨hw.statusesKept, fun key job hjob => ?_⟩
    cases hw
    exact ⟨job, hjob, .refl⟩
  exact ⟨_, Sample.run_skipped, Run.skipped_of_unlisted hchanges hothers (by decide +kernel)
    (by decide +kernel) Sample.run_skipped Sample.unlisted hq hdeploys⟩

end EnvOperator
