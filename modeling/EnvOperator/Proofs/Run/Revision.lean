import EnvOperator.Proofs.Pass.Edges
import EnvOperator.Proofs.Run.Basic

/-! # The revision that a status expects

Only passes write statuses, jobs and deployments. A job or a deployment that the pipeline follows is
then the one that was made for the expected revision, although the stages that follow a job never
look at its revision, and although a status may fail to be written after objects have been changed.
-/
namespace EnvOperator

structure EnvironmentStatus.Agrees (st : EnvironmentStatus) (key : ObjectKey) (s : MemoryStore) :
    Prop where
  started : st.stage ≠ .initial
  expected : ∃ r, st.expectedRevision = some r
  job : st.stage.FollowsJob → ∀ j, s.stored? .job (key.own .job) = some j → j.metadata.revision =
      st.expectedRevision
  deployment : st.stage.FollowsRollout → ∀ d, s.stored? .deployment key = some d →
    d.metadata.revision = st.expectedRevision
  deployed : st.stage = .deployed → st.deployedRevision = st.expectedRevision

/-- The status that is written for an environment, if there is one, agrees with its objects. -/
def MemoryStore.Consistent (s : MemoryStore) (key : ObjectKey) : Prop :=
  ∀ st, s.writtenStatus? key = some st → st.Agrees key s

namespace EnvironmentStatus.Agrees
variable {st : EnvironmentStatus} {key : ObjectKey} {s s' : MemoryStore}

/-- A status goes on to agree as long as the objects it follows are not made for another
revision. -/
theorem mono (h : st.Agrees key s)
    (hj : st.stage.FollowsJob → ∀ j', s'.stored? .job (key.own .job) = some j' →
      ∃ j, s.stored? .job (key.own .job) = some j ∧ j.metadata.revision = j'.metadata.revision)
    (hd : st.stage.FollowsRollout → ∀ d', s'.stored? .deployment key = some d' →
      ∃ d, s.stored? .deployment key = some d ∧ d.metadata.revision = d'.metadata.revision) :
      st.Agrees key s' where
  started := h.started
  expected := h.expected
  job hf j' hj' := by
    obtain ⟨j, hs, hr⟩ := hj hf j' hj'
    exact hr ▸ h.job hf j hs
  deployment hf d' hd' := by
    obtain ⟨d, hs, hr⟩ := hd hf d' hd'
    exact hr ▸ h.deployment hf d hs
  deployed := h.deployed

theorem with_lastUpdated (h : st.Agrees key s) (at? : Option Instant) :
    { st with lastUpdated := at? }.Agrees key s :=
  ⟨h.started, h.expected, h.job, h.deployment, h.deployed⟩

end EnvironmentStatus.Agrees

namespace Pass.Takes
variable {settings : Settings} {key : ObjectKey} {w w' : World} {e : Environment} {c : Collection}
  {stage next : Stage} {t : Transition}

/-- The status that a step leads to agrees with the objects that the step has left. -/
theorem agrees (h : Takes settings key w e c stage t w') (hnext : t.next.Becomes next)
    (hc : w.store.Consistent key) : { t.status with stage := next }.Agrees key w'.store := by
  have hexp := h.expectedRevision
  have old (hs : stage ≠ .initial) :
      e.statusOrInitial.Agrees key w.store ∧ e.statusOrInitial.stage = stage ∧
      e.statusOrInitial.expectedRevision = t.status.expectedRevision := by
    obtain ⟨hst, hstage, he, _⟩ := h.of_ne_initial hs
    exact ⟨hc _ (MemoryStore.writtenStatus?_of_status hst), hstage, he.trans hexp.symm⟩
  have followed (hs : stage.FollowsJob ∨ stage.FollowsRollout) : stage ≠ .initial := by
    rintro rfl
    rcases hs with (hs | hs | hs) | (hs | hs) <;> cases hs
  constructor
  case started =>
    rcases hnext with rfl | ⟨_, rfl⟩
    · exact h.steps.leads.next_ne_initial
    · cases t.next <;> exact nofun
  case expected =>
    obtain ⟨r, hr, _⟩ := EnvironmentStatus.turn_eq_some h.turn
    exact ⟨r, hexp.trans hr⟩
  case job =>
    intro (hf : next.FollowsJob) j hj
    obtain rfl := hnext.eq_of_not_failure hf.not_failure
    rcases h.steps.leads.enters_followsJob hf with ⟨hs, hn⟩ | hs
    · rw [h.built hs hn] at hj
      cases hj
      exact (h.revision_wanted (k := .job) rfl).trans hexp.symm
    · obtain ⟨ha, hstage, he⟩ := old (followed (.inl hs))
      rw [h.stored_eq (hs.not_makes _)] at hj
      exact (ha.job (hstage ▸ hs) j hj).trans he
  case deployment =>
    intro (hf : next.FollowsRollout) d hd
    obtain rfl := hnext.eq_of_not_failure hf.not_failure
    rcases h.steps.leads.enters_followsRollout hf with ⟨hs, hn⟩ | hs
    · rw [h.applied hs hn] at hd
      cases hd
      exact (h.revision_wanted (k := .deployment) rfl).trans hexp.symm
    · obtain ⟨ha, hstage, he⟩ := old (followed (.inr hs))
      rw [h.stored_eq (hs.not_makes _)] at hd
      exact (ha.deployment (hstage ▸ hs) d hd).trans he
  case deployed =>
    intro (hn : next = .deployed)
    obtain rfl := hnext.eq_of_not_failure (by rw [hn]; rfl)
    rcases h.steps.leads.enters_deployed hn with ⟨hs, ht⟩ | ⟨_, hd, _⟩
    · obtain ⟨ha, hstage, _⟩ := old (by rw [hs]; exact nofun)
      rw [ht]
      exact ha.deployed (hstage.trans hs)
    · exact hd.trans (h.revision_eq.trans hexp.symm)

end Pass.Takes

/-- A pass keeps every stored status in agreement with the objects of its environment. -/
theorem Pass.Comes.consistent {settings : Settings} {now : Instant} {key key' : ObjectKey}
    {w w' : World} {r : Except PassError Outcome} (h : Comes settings now key w w' r)
    (hc : w.store.Consistent key') : w'.store.Consistent key' := by
  intro st hst
  rcases h.writtenStatus?_cases hst with
    hst | ⟨rfl, _, e, c, stage, t, next, w₁, ht, hnext, rfl, hframe⟩
  · -- at a stage that follows objects none of them is made
    exact (hc st hst).mono
      (fun hf j hj => ⟨j, h.stored?_of_status (by decide) hst (hf.not_makes _) hj, rfl⟩)
      fun hf d hd =>
        ⟨d, h.stored?_of_status (k := .deployment) (by decide) hst (hf.not_makes _) hd, rfl⟩
  · -- the pass has written the status
    have ha := (ht.agrees hnext hc).with_lastUpdated (some now)
    exact ha.mono (fun _ j hj => ⟨j, by rwa [← hframe .job (by decide)], rfl⟩)
      fun _ d hd => ⟨d, by rwa [← hframe .deployment (by decide)], rfl⟩

namespace World
variable {w w' : World} {key : ObjectKey}

theorem consistent_of_kept (hs : w.StatusesKept w') (hj : w.NoneMade .job w')
    (hd : w.NoneMade .deployment w') (hc : w.store.Consistent key) : w'.store.Consistent key := by
  intro st hst
  exact (hc st (hs key st hst)).mono (fun _ j hj' => hj _ j hj') fun _ d hd' => hd _ d hd'

end World

/-- Whatever others do, short of writing statuses and of making jobs and deployments: at every
moment of a run from an environment without a status, its status agrees with the job and the
deployment that are stored for it. -/
theorem Run.status_agrees {settings : Settings} {others : World → World → Prop} {first m : Moment}
    {past : List Visit} {key : ObjectKey}
    (hothers : ∀ w w', others w w' → w.StatusesKept w' ∧ w.NoneMade .job w' ∧
      w.NoneMade .deployment w')
    (hfirst : first.world.store.writtenStatus? key = none) (h : Run settings others first past m) :
    m.world.store.Consistent key := by
  induction h with
  | first => exact fun st hst => nomatch hfirst.symm.trans hst
  | pass now key h ih => exact (Moment.pass_comes settings now key _).consistent ih
  | others h hw ih =>
    obtain ⟨hs, hj, hd⟩ := hothers _ _ hw
    exact World.consistent_of_kept hs hj hd ih
  | restart memory h ih => exact ih

set_option maxRecDepth 100000 in
/-- After a status that could not be written, a rollout of the revision is followed. -/
theorem Run.agrees_after_refusal :
    (∃ past, Run {} Sample.Refusing Sample.first past (Sample.pass Sample.skipped)) ∧
    ((Sample.pass Sample.skipped).world.store.status? Sample.key).map (·.stage) =
      some .deployVerify ∧
    (Sample.pass Sample.skipped).world.store.Consistent Sample.key := by
  have hrun : Run {} Sample.Refusing Sample.first _ (Sample.pass Sample.skipped) :=
    .pass _ _ Sample.run_skipped
  have hothers (w w' : World) (hw : Sample.Refusing w w') :
      w.StatusesKept w' ∧ w.NoneMade .job w' ∧ w.NoneMade .deployment w' :=
    ⟨hw.statusesKept, hw.noneMade .job, hw.noneMade .deployment⟩
  exact ⟨⟨_, hrun⟩, by decide +kernel, Run.status_agrees hothers (by decide +kernel) hrun⟩

end EnvOperator
