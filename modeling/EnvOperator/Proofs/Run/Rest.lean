import EnvOperator.Proofs.Pass.Edges
import EnvOperator.Proofs.Run.Basic

/-! # Where passes come to rest

A pass rests when the revision that is asked for counts as deployed. It is counted so from the end
of its rollout on, and the start of the pipeline for another revision does not change that. Whoever
goes back to the revision before the other one was rolled out as well finds the pipeline at rest
where it has just begun.
-/
namespace EnvOperator

/-- A pass that starts over for a revision which still counts as deployed. -/
def Visit.Returns (key : ObjectKey) (r : String) (v : Visit) : Prop :=
  v.key = key ∧ ∃ e st, v.before.world.store.stored? .environment key = some e ∧
    e.status = some st ∧
    e.spec.revision = some r ∧ st.expectedRevision ≠ some r ∧ st.deployedRevision = some r

def Returned (settings : Settings) (key : ObjectKey) (r : String) (past : List Visit)
    (status : Option EnvironmentStatus) : Prop :=
  ∃ v ∈ past, v.Returns key r ∧ (v.after settings).world.store.status? key = status

/-- A status that counts its revision as deployed is at the end of a rollout, has failed, or has
returned. -/
structure Rests (settings : Settings) (key : ObjectKey) (past : List Visit) (w : World) : Prop where
  deployed : ∀ st, w.store.writtenStatus? key = some st → st.stage = .deployed →
    ∃ d, w.store.stored? .deployment key = some d ∧ d.metadata.revision = st.expectedRevision
  counted : ∀ st r, w.store.writtenStatus? key = some st → st.expectedRevision = some r →
    st.deployedRevision = some r →
    st.stage = .deployed ∨ st.stage.isFailure = true ∨ Returned settings key r past (some st)

namespace Rests
variable {settings : Settings} {key : ObjectKey} {past : List Visit} {w w' : World}

/-- Where a step has led to the last stage, the deployment of the revision is stored. -/
theorem deployed_of_takes {e : Environment} {c : Collection} {stage : Stage} {t : Transition}
    (hp : Rests settings key past w) (ht : Pass.Takes settings key w e c stage t w')
    (hn : t.next = .deployed) :
    ∃ d, w'.store.stored? .deployment key = some d ∧ d.metadata.revision =
      t.status.expectedRevision := by
  rw [ht.expectedRevision]
  rcases ht.steps.leads.enters_deployed hn with ⟨rfl, _⟩ | ⟨rfl, _, d, hd, hr⟩
  · obtain ⟨hst, hstage, hexp, _⟩ := ht.of_ne_initial nofun
    obtain ⟨d, hd, hr⟩ := hp.deployed _ (MemoryStore.writtenStatus?_of_status hst) hstage
    exact ⟨d, by rwa [ht.stored_eq id], hr.trans hexp⟩
  · have hstored := ht.reflects.stored_eq (k := .deployment) (.inr (.inl rfl))
    exact ⟨d, by rw [ht.stored_eq id]; exact hstored.trans hd, hr.trans ht.revision_eq⟩

/-- A status that a step has left counts its revision as deployed at the last stage, or after a
return. -/
theorem counted_of_takes {now : Instant} {m : Moment} {e : Environment} {c : Collection}
    {stage next : Stage} {t : Transition} {r : String}
    (ht : Pass.Takes settings key m.world e c stage t w') (hnext : t.next.Becomes next)
    (hexp : t.status.expectedRevision = some r) (hdep : t.status.deployedRevision = some r) :
    next = .deployed ∨ (⟨now, key, m⟩ : Visit).Returns key r := by
  have hrev : e.spec.revision = some r := ht.expectedRevision.symm.trans hexp
  rcases ht.steps.leads.deployedRevision with hkept | ⟨_, hn, _⟩
  · have hold : e.statusOrInitial.deployedRevision = some r := hkept.symm.trans hdep
    obtain ⟨r', hr', hturn⟩ := EnvironmentStatus.turn_eq_some ht.turn
    cases hrev.symm.trans hr'
    rcases hturn with ⟨hne, _⟩ | ⟨_, hne, _⟩
    · have hst : e.statusOrInitial ≠ {} := by
        intro hinitial
        rw [hinitial] at hold
        cases hold
      exact .inr ⟨rfl, e, _, ht.environment, Environment.status_eq hst, hrev, hne, hold⟩
    · exact absurd hold hne
  · rw [hn] at hnext
    exact .inl (hnext.eq_of_not_waiting rfl)

theorem pass {now : Instant} {key' : ObjectKey} {m : Moment}
    (hp : Rests settings key past m.world) :
    Rests settings key (⟨now, key', m⟩ :: past) (m.pass settings now key').2.world := by
  have hcomes := Moment.pass_comes settings now key' m
  constructor
  · intro st hst hstage
    rcases hcomes.writtenStatus?_cases hst with
      hst | ⟨rfl, _, e, c, stage, t, next, w₁, ht, hnext, rfl, hframe⟩
    · obtain ⟨d, hd, hr⟩ := hp.deployed st hst hstage
      obtain ⟨d', hd'⟩ := hcomes.kept hd
      have hm : ¬ st.stage.Makes .deployment := by
        rw [hstage]
        exact id
      cases hd.symm.trans (hcomes.stored?_of_status (k := .deployment) (by decide) hst hm hd')
      exact ⟨d, hd', hr⟩
    · obtain rfl : next = .deployed := hstage
      obtain ⟨d, hd, hr⟩ := hp.deployed_of_takes ht (hnext.eq_of_not_failure rfl).symm
      exact ⟨d, (hframe .deployment (by decide) _).trans hd, hr⟩
  · intro st r hst hexp hdep
    rcases hcomes.writtenStatus?_cases hst with
      hst' | ⟨rfl, hstored, e, c, stage, t, next, w₁, ht, hnext, rfl, _⟩
    · rcases hp.counted st r hst' hexp hdep with h | h | ⟨v, hv, hreturns⟩
      · exact .inl h
      · exact .inr (.inl h)
      · exact .inr (.inr ⟨v, List.mem_cons_of_mem _ hv, hreturns⟩)
    · rcases counted_of_takes ht hnext hexp hdep with hn | hreturns
      · exact .inl hn
      · exact .inr (.inr ⟨_, List.mem_cons_self, hreturns, hstored⟩)

theorem others (hp : Rests settings key past w) (hs : w.StatusesKept w')
    (hm : w.NoneMade .deployment w') (hl : w.NoneLost .deployment w') :
    Rests settings key past w' where
  deployed st hst hstage := by
    obtain ⟨d, hd, hr⟩ := hp.deployed st (hs key st hst) hstage
    obtain ⟨d', hd'⟩ := hl key d hd
    obtain ⟨d₀, hd₀, hr₀⟩ := hm key d' hd'
    cases hd.symm.trans hd₀
    exact ⟨d', hd', hr₀.symm.trans hr⟩
  counted st r hst := hp.counted st r (hs key st hst)

end Rests

theorem Visit.Returns.after {settings : Settings} {key : ObjectKey} {r : String} {v : Visit}
    {st : EnvironmentStatus} (h : v.Returns key r)
    (hst : (v.after settings).world.store.status? key = some st)
    (hexp : st.expectedRevision = some r) : st.stage = .buildImage := by
  obtain ⟨rfl, e, st₀, he, hst₀, hrev, hne, _⟩ := h
  rcases (Moment.pass_comes settings v.now v.key v.before).writtenStatus?_cases
    (MemoryStore.writtenStatus?_of_status hst) with
    hold | ⟨_, _, e', c, stage, t, next, w₁, ht, hnext, rfl, _⟩
  · rw [MemoryStore.writtenStatus?_of_stored he] at hold
    cases hst₀.symm.trans hold
    exact absurd hexp hne
  · cases he.symm.trans ht.environment
    obtain ⟨r', hr', ⟨_, rfl⟩ | ⟨hexp', _, _⟩⟩ := EnvironmentStatus.turn_eq_some ht.turn
    · have hn : t.next = .buildImage := List.mem_singleton.mp ht.steps.leads.next_mem
      rw [hn] at hnext
      exact hnext.eq_of_not_waiting rfl
    · cases hrev.symm.trans hr'
      simp only [Environment.statusOrInitial, hst₀, Option.getD_some] at hexp'
      exact absurd hexp' hne

section
variable {settings : Settings} {others : World → World → Prop} {first m : Moment}
  {past : List Visit} {key : ObjectKey}

theorem Run.rests (hothers : ∀ w w', others w w' → w.StatusesKept w' ∧ w.NoneMade .deployment w' ∧
    w.NoneLost .deployment w') (hfirst : first.world.store.writtenStatus? key = none)
    (h : Run settings others first past m) : Rests settings key past m.world := by
  induction h with
  | first =>
    constructor
    · intro st hst _
      cases hfirst.symm.trans hst
    · intro st r hst _ _
      cases hfirst.symm.trans hst
  | pass now key' h ih => exact ih.pass
  | others h hw ih =>
    obtain ⟨hs, hm, hl⟩ := hothers _ _ hw
    exact ih.others hs hm hl
  | restart memory h ih => exact ih

/-- In a run from an environment without a status, where others write no statuses and neither make
nor remove deployments: a pass that rests does so for a failure or with the revision deployed,
unless the status it has found is the one that a return to the revision has left. -/
theorem Run.idle_iff {now : Instant} {e : Environment} {r : String} {stage : Stage}
    (hothers : ∀ w w', others w w' → w.StatusesKept w' ∧ w.NoneMade .deployment w' ∧
      w.NoneLost .deployment w')
    (hfirst : first.world.store.writtenStatus? key = none) (h : Run settings others first past m)
    (he : m.world.store.stored? .environment key = some e) (hr : e.spec.revision = some r)
    (hpass : (m.pass settings now key).1 = .ok (.idle stage)) :
    (stage.isFailure = true ∨ stage = .deployed ∧
      ∃ d, (m.pass settings now key).2.world.store.stored? .deployment key = some d ∧
      d.revision = some r) ↔
    ¬ Returned settings key r past (m.world.store.status? key) := by
  have hrests := h.rests hothers hfirst
  have hcomes := Moment.pass_comes settings now key m
  rw [hpass] at hcomes
  obtain ⟨e', he', hturn, rfl, hsame⟩ := hcomes.of_idle
  cases he.symm.trans he'
  rw [hr] at hturn
  obtain ⟨hexp, hcounted⟩ := EnvironmentStatus.turn_eq_none hturn
  have hst : m.world.store.status? key = some e.statusOrInitial := by
    rw [MemoryStore.status?, he]
    exact Environment.status_eq_of_expected hexp
  constructor
  · rintro hgood ⟨v, _, hreturns, hleft⟩
    have hbuild := hreturns.after (hleft.trans hst) hexp
    rw [hbuild] at hgood
    rcases hgood with hf | ⟨hd, _⟩
    · cases hf
    · cases hd
  · intro hreturned
    have hwritten := MemoryStore.writtenStatus?_of_status hst
    rcases hcounted with hdep | hf
    · rcases hrests.counted _ r hwritten hexp hdep with hd | hf | hret
      · obtain ⟨d, hd', hr'⟩ := hrests.deployed _ hwritten hd
        exact .inr ⟨hd, d, by rwa [hsame.1], hr'.trans hexp⟩
      · exact .inl hf
      · exact absurd (hst ▸ hret) hreturned
    · exact .inl hf

end

namespace Sample

/-- Others write no statuses, and neither make nor remove deployments. -/
def Outside (w w' : World) : Prop :=
  w.StatusesKept w' ∧ w.NoneMade .deployment w' ∧ w.NoneLost .deployment w'

def ask (r : String) (m : Moment) : Moment :=
  m.alter (·.modify .environment key fun e => { e with spec := { e.spec with revision := some r } })

def complete (m : Moment) : Moment :=
  m.alter (·.modify .job (key.own .job) fun j =>
    { j with status := some { completionTime := some (Timestamp.ofInstant .epoch) } })

def push (r : String) (m : Moment) : Moment :=
  m.alter fun w => { w with registry := w.registry.push key.name r }

theorem outside_ask (r : String) (w : World) :
    Outside w
      (w.modify .environment key fun e =>
        { e with spec := { e.spec with revision := some r } }) := by
  refine ⟨World.statusesKept_modify_environment ?_ w, World.noneMade_modify ?_ _ w,
    World.noneLost_modify _ w⟩
  · exact fun _ => rfl
  · exact fun _ => rfl

theorem outside_complete (w : World) : Outside w (w.modify .job (key.own .job) fun j =>
    { j with status := some { completionTime := some (Timestamp.ofInstant .epoch) } }) := by
  refine ⟨World.statusesKept_modify (by decide) w, World.noneMade_modify ?_ _ w,
    World.noneLost_modify _ w⟩
  exact fun _ => rfl

theorem outside_push (r : String) (w : World) :
    Outside w { w with registry := w.registry.push key.name r } :=
  ⟨fun _ _ h => h, fun _ o h => ⟨o, h, rfl⟩, fun _ o h => ⟨o, h⟩⟩

/-- The passes that have the workload of a revision applied, with what has to happen between
them. -/
def apply (r : String) (m : Moment) : Moment :=
  pass (pass (push r (pass (complete (pass (pass m))))))

theorem run_apply {others : World → World → Prop}
    (hcomplete : ∀ w, others w (w.modify .job (key.own .job) fun j =>
      { j with status := some { completionTime := some (Timestamp.ofInstant .epoch) } }))
    (hpush : ∀ r w, others w { w with registry := w.registry.push key.name r }) (r : String)
    {past : List Visit} {m : Moment} (h : Run {} others first past m) :
    ∃ past, Run {} others first past (apply r m) := by
  have hbuilt : Run {} others first _ (pass (complete (pass (pass m)))) :=
    .pass _ _ (.others (.pass _ _ (.pass _ _ h)) (hcomplete _))
  exact ⟨_, .pass _ _ (.pass _ _ (.others hbuilt (hpush r _)))⟩

def rolledOut : Moment := pass (apply "1" first)

theorem run_rolledOut : ∃ past, Run {} Outside first past rolledOut := by
  obtain ⟨_, h⟩ :=
    run_apply outside_complete outside_push "1" (.first : Run {} Outside first [] first)
  exact ⟨_, .pass _ _ h⟩

/-- The workload of a second revision is applied, and then somebody goes back to the first one. -/
def returned : Moment := pass (ask "1" (apply "2" (ask "2" rolledOut)))

theorem run_returned : ∃ past, Run {} Outside first past returned := by
  obtain ⟨_, h₁⟩ := run_rolledOut
  obtain ⟨_, h₂⟩ := run_apply outside_complete outside_push "2" (.others h₁ (outside_ask "2" _))
  exact ⟨_, .pass _ _ (.others h₂ (outside_ask "1" _))⟩

end Sample

set_option maxRecDepth 100000 in
/-- After a return to the first revision passes rest at the beginning of the pipeline, while the
second one runs. -/
theorem Run.idle_while_other_runs : ∃ past e d,
    Run {} Sample.Outside Sample.first past Sample.returned ∧
    Sample.first.world.store.status? Sample.key = none ∧
    Sample.first.world.store.stored? .deployment Sample.key = none ∧
    Sample.returned.world.store.stored? .environment Sample.key = some e ∧
    e.spec.revision = some "1" ∧
    (Sample.returned.pass {} .epoch Sample.key).1 = .ok (.idle .buildImage) ∧
    (Sample.returned.pass {} .epoch Sample.key).2.world.store.stored? .deployment Sample.key =
      some d ∧
    d.revision = some "2" := by
  obtain ⟨past, hrun⟩ := Sample.run_returned
  have hfirst : Sample.first.world.store.status? Sample.key = none ∧
      (Sample.first.world.store.stored? .deployment Sample.key).isNone = true := by decide +kernel
  have hlast : (Sample.returned.world.store.stored? .environment Sample.key).bind
      (·.spec.revision) = some "1" ∧
      (Sample.returned.pass {} .epoch Sample.key).1.toOption = some (.idle .buildImage) ∧
      ((Sample.returned.pass {} .epoch Sample.key).2.world.store.stored? .deployment
        Sample.key).bind (·.revision) =
        some "2" := by decide +kernel
  obtain ⟨e, he, hr⟩ := Option.bind_eq_some_iff.mp hlast.1
  obtain ⟨d, hd, hdr⟩ := Option.bind_eq_some_iff.mp hlast.2.2
  exact ⟨past, e, d, hrun, hfirst.1, Option.isNone_iff_eq_none.mp hfirst.2, he, hr,
    Except.ok_of_toOption hlast.2.1, hd, hdr⟩

set_option maxRecDepth 100000 in
/-- After a rollout passes rest with the revision deployed, for nobody has returned to it. -/
theorem Run.idle_after_rollout : ∃ past, Run {} Sample.Outside Sample.first past Sample.rolledOut ∧
    (Sample.rolledOut.pass {} .epoch Sample.key).1 = .ok (.idle .deployed) ∧
    ¬ Returned {} Sample.key "1" past (Sample.rolledOut.world.store.status? Sample.key) := by
  obtain ⟨past, hrun⟩ := Sample.run_rolledOut
  have hlast : (Sample.rolledOut.world.store.stored? .environment Sample.key).bind
      (·.spec.revision) = some "1" ∧
      (Sample.rolledOut.pass {} .epoch Sample.key).1.toOption = some (.idle .deployed) ∧
      ((Sample.rolledOut.pass {} .epoch Sample.key).2.world.store.stored? .deployment
        Sample.key).bind (·.revision) =
        some "1" := by decide +kernel
  obtain ⟨e, he, hr⟩ := Option.bind_eq_some_iff.mp hlast.1
  have hidle := Except.ok_of_toOption hlast.2.1
  have hdeployed := Option.bind_eq_some_iff.mp hlast.2.2
  exact ⟨past, hrun, hidle,
    (Run.idle_iff (fun _ _ h => h) (by decide +kernel) hrun he hr hidle).mp (.inr ⟨rfl, hdeployed⟩)⟩

end EnvOperator
