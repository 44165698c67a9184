import EnvOperator.Proofs.Pass.Edges
import EnvOperator.Proofs.Pass.Interrupted
import EnvOperator.Proofs.Pass.Questions

/-! # Runs among conflicts

A pass whose writes meet a conflict reports it and leaves the status, so that the next pass applies
the workload again. However often this happens, the first pass that meets no conflict leaves what
one pass would have left that had never been disturbed.
-/
namespace EnvOperator

/-! ## Passes that apply a workload -/

namespace Query.Conflicts
variable {what : String} {x : (q : Query) × q.Answer}

theorem not_collects {key : ObjectKey} (h : Conflicts what x) : ¬ key.Collects x.1 := by
  obtain ⟨q, answer⟩ := x
  cases q with
  | tags => exact id
  | store r =>
    cases r with
    | get => exact h.1.elim
    | create | replace | delete | updateStatus => exact id

theorem ne_updateStatus (h : Conflicts what x) (key : ObjectKey) (st : EnvironmentStatus) :
    x.1 ≠ .store (.updateStatus key st) := by
  rintro hx
  obtain ⟨q, answer⟩ := x
  cases hx
  exact h.1

end Query.Conflicts

theorem StallTable.escalate_of_no_ceiling (t : StallTable) (h : t.ceiling = none) (key : String)
    (next : Stage) : (t.escalate key next).1 = next := by
  cases hw : next.isWaiting <;> simp [escalate, record, hw, h]

theorem Collection.error_afterApply (status : EnvironmentStatus) (e : PassError) :
    (afterApply status (.error e)).error = some e := by
  unfold afterApply
  split
  · cases ‹_›
  · cases ‹Except.error e = _›
    rfl
  · cases ‹Except.error e = _›
    rfl

namespace Pass
variable {settings : Settings} {now : Instant} {key : ObjectKey} {w w₁ w' : World}
  {m m' : PassMemory} {before : EnvironmentStatus} {y : Snapshot} {e : Environment}

structure Applies (e : Environment) (r : String) : Prop where
  revision : e.spec.revision = some r
  stage : e.statusOrInitial.stage = .deploy
  expected : e.statusOrInitial.expectedRevision = some r
  deployed : e.statusOrInitial.deployedRevision ≠ some r

theorem Applies.turn {r : String} (h : Applies e r) :
    e.statusOrInitial.turn e.spec.revision = some .deploy := by
  simp [EnvironmentStatus.turn, h.revision, h.stage, h.expected, h.deployed, Stage.isFailure]

variable (settings now key m) in
theorem finish_conflict (hstage : before.stage = .deploy) (what : String) (w : World) : ∃ m',
    (finish settings now key before m
      (Collection.afterApply before (.error (.store (.conflict what))))).inWorld w =
      ((.error (.store (.conflict what)), m'), w) := by
  have hnext : (m.stalls.escalate key.text .deploy).1 = .deploy :=
    Stage.Becomes.eq_of_not_waiting (m.stalls.escalate_becomes key.text .deploy) rfl
  unfold finish
  dsimp only [Collection.afterApply, Transition.fail]
  rcases he : m.stalls.escalate key.text .deploy with ⟨next, stalls⟩
  rw [he] at hnext
  obtain rfl : next = .deploy := hnext
  have hsame : { before with stage := .deploy } = before := by rw [← hstage]
  have hpersist : (persist key before { before with stage := .deploy } now).inWorld w =
      (.ok (), w) := by
    unfold persist
    rw [if_pos hsame]
    rfl
  exact ⟨_, Dialogue.inWorld_bind hpersist⟩

theorem finish_error {t : Transition} {x : PassError} {r : Except PassError Outcome}
    (ht : t.error = some x) (h : (finish settings now key before m t).inWorld w = ((r, m'), w')) :
    ∃ x, r = .error x := by
  unfold finish at h
  rcases m.stalls.escalate key.text t.next with ⟨next, stalls⟩
  obtain ⟨a, w₁, _, hb⟩ := Dialogue.inWorld_bind_iff.mp h
  rcases a with e | u
  · cases hb
    exact ⟨_, rfl⟩
  · simp only [ht] at hb
    cases hb
    exact ⟨_, rfl⟩

variable (settings now) in
theorem finish_applied (hceiling : m.stalls.ceiling = none) (hw : w.Contended)
    (he : w.store.stored? .environment key = some e) (hstage : before.stage = .deploy) : ∃ m' w',
    (finish settings now key before m (Collection.afterApply before (.ok ()))).inWorld w =
      ((.ok (.requeue settings.requeueDelay), m'), w') ∧
    w'.store.status? key =
      some { before with stage := .deployVerify, lastUpdated := some now } := by
  have hnext : (m.stalls.escalate key.text .deployVerify).1 = .deployVerify :=
    m.stalls.escalate_of_no_ceiling hceiling key.text .deployVerify
  unfold finish
  dsimp only [Collection.afterApply, Transition.move]
  rcases hescalate : m.stalls.escalate key.text .deployVerify with ⟨next, stalls⟩
  rw [hescalate] at hnext
  obtain rfl : next = .deployVerify := hnext
  have hchanged : { before with stage := .deployVerify } ≠ before := by
    intro h
    rw [← h] at hstage
    cases hstage
  let status : EnvironmentStatus := { before with stage := .deployVerify, lastUpdated := some now }
  have hrequest : w.request (.updateStatus key status) = _ := World.request_of_contended hw id
  rcases ha : w.request (.updateStatus key status) with ⟨x | u, w'⟩
  · rw [hrequest, MemoryStore.answer, MemoryStore.updateStatus_of_stored he] at ha
    cases ha
  · have hpersist : (persist key before { before with stage := .deployVerify } now).inWorld w =
        (.ok (), w') := by
      unfold persist
      rw [if_neg hchanged]
      exact ha
    obtain ⟨e', _, ho⟩ := World.updateStatus_ok ha
    refine ⟨_, w', Dialogue.inWorld_bind hpersist, ?_⟩
    rw [MemoryStore.status?, MemoryStore.stored?_of_insert (k := .environment) ho]
    rfl

variable {r : String} {a : Except PassError Unit}

theorem run_deploy (now : Instant) (m : PassMemory) (hw : w.Contended)
    (hy : y.Reflects settings.configNamespace settings.defaults key w.store)
    (he : w.store.stored? .environment key = some e) (happlies : Applies e r)
    (ha : ((Collection.mk y y.target).applyAll Collection.workloadKinds).run.inWorld w = (a, w₁)) :
    ∃ m', m'.stalls = m.stalls ∧ (run settings now key m).inWorld w =
      (finish settings now key e.statusOrInitial m'
        (Collection.afterApply e.statusOrInitial a)).inWorld w₁ := by
  obtain ⟨e', he', _, hbefore, hrevision⟩ := hy.exists_environment
  cases he.symm.trans he'
  have hsame : { e.statusOrInitial with stage := .deploy } = e.statusOrInitial := by
    rw [← happlies.stage]
  have hstep : ((Collection.mk y y.target).step e.statusOrInitial .deploy).inWorld w =
      (Collection.afterApply e.statusOrInitial a, w₁) := Collection.deploy_inWorld _ ha
  refine ⟨m.track key e.statusOrInitial.stage now, rfl,
    (Dialogue.inWorld_bind (collect_of_reflects hw hy)).trans ?_⟩
  change (proceed settings now key m _).inWorld w = _
  unfold proceed
  dsimp only
  rw [hbefore, hrevision, happlies.turn]
  dsimp only
  rw [hsame]
  exact Dialogue.inWorld_bind hstep

/-- A conflict that a pass meets is met while it applies the workload. -/
theorem exchanged_conflict {x : (q : Query) × q.Answer} {what : String} (hw : w.Contended)
    (he : w.store.stored? .environment key = some e) (happlies : Applies e r)
    (hconflict : Query.Conflicts what x)
    (hx : x ∈ (run settings now key m).exchanged World.answer w) :
    ∃ y : Snapshot, y.Reflects settings.configNamespace settings.defaults key w.store ∧
      x ∈ ((Collection.mk y y.target).applyAll Collection.workloadKinds).run.exchanged World.answer
        w := by
  -- Neither collecting nor storing a status writes to a workload, so the conflict is met in
  -- between.
  unfold run at hx
  rw [Dialogue.exchanged_bind] at hx
  rcases List.mem_append.mp hx with hx | hx
  · exact absurd (World.answers_answer.asked_collect (Dialogue.mem_asked hx)) hconflict.not_collects
  · rcases hcollect : (Collection.collect settings.configNamespace settings.defaults key).run.run
      World.answer w with ⟨found, w₀⟩
    obtain ⟨hfound, _⟩ := World.collect_effect hcollect
    rw [hcollect] at hx
    rcases found with _ | _ | ⟨y, target⟩
    · cases hx
    · cases hx
    · obtain ⟨hy, rfl⟩ : y.Reflects settings.configNamespace settings.defaults key w.store ∧
        target = y.target := hfound
      cases (collect_of_reflects hw hy).symm.trans hcollect
      obtain ⟨e', he', _, hbefore, hrevision⟩ := hy.exists_environment
      cases he.symm.trans he'
      refine ⟨y, hy, ?_⟩
      simp only [proceed, hbefore, hrevision, happlies.turn] at hx
      rw [Dialogue.exchanged_bind] at hx
      rcases List.mem_append.mp hx with hx | hx
      · change x ∈ (Collection.deploy _ _).exchanged World.answer w at hx
        unfold Collection.deploy at hx
        rw [Dialogue.exchanged_bind, Collection.applyWorkload_eq] at hx
        exact (List.mem_append.mp hx).resolve_right List.not_mem_nil
      · obtain ⟨st, hst⟩ := asked_finish (Dialogue.mem_asked hx)
        exact absurd hst (hconflict.ne_updateStatus key st)

/-- A pass that ends well has applied the workload. -/
theorem applied_of_ok {o : Outcome} (hw : w.Contended)
    (he : w.store.stored? .environment key = some e) (happlies : Applies e r)
    (h : ((run settings now key m).inWorld w).1.1 = .ok o) : ∃ (y : Snapshot) (w₁ : World),
      y.Reflects settings.configNamespace settings.defaults key w.store ∧
      ((Collection.mk y y.target).applyAll Collection.workloadKinds).run.inWorld w =
        (.ok (), w₁) := by
  rcases hrun : (run settings now key m).inWorld w with ⟨⟨result, m'⟩, w'⟩
  rw [hrun] at h
  obtain rfl : result = .ok o := h
  cases comes hrun with
  | gone hnone =>
    have hstored := MemoryStore.stored?_of_read hnone
    cases he.symm.trans hstored
  | idle he' hturn =>
    cases he.symm.trans he'
    cases happlies.turn.symm.trans hturn
  | stepped htakes =>
    have hy := htakes.reflects
    rcases ha :
      ((Collection.mk _ (Snapshot.target _)).applyAll Collection.workloadKinds).run.inWorld w with
      ⟨a, w₁⟩
    obtain ⟨m₁, _, hdeploy⟩ := run_deploy now m hw hy he happlies ha
    refine ⟨_, w₁, hy, ?_⟩
    rcases a with x | u
    · obtain ⟨_, hx⟩ := finish_error (Collection.error_afterApply _ x) (hdeploy.symm.trans hrun)
      cases hx
    · exact ha

end Pass

/-! ## Runs -/

def Visit.Meets (settings : Settings) (v : Visit) (what : String) : Prop :=
  ∃ x ∈ (Pass.run settings v.now v.key v.before.memory).exchanged World.answer v.before.world,
    Query.Conflicts what x

namespace World
variable {settings : Settings} {key : ObjectKey} {first w w' : World}

/-- Others do nothing else than make writes to workloads meet conflicts, now or later. -/
def Contends (w w' : World) : Prop :=
  w'.Contended ∧ ∃ faults conflicts, w' = { w with faults, store := { w.store with conflicts } }

theorem Interrupted.contends (h : first.Interrupted settings key w) (hw : w.Contends w') :
    first.Interrupted settings key w' := by
  obtain ⟨hcontended, faults, conflicts, rfl⟩ := hw
  exact ⟨hcontended, h.failingWrites, h.frame, h.workload⟩

section
variable {e : Environment} {r : String} {x y : Snapshot} {w₁ : World} {now now₀ : Instant}
  {m m₀ : PassMemory}

/-- A pass that meets a conflict reports it, and leaves the workload interrupted. -/
theorem Interrupted.pass_conflict {what : String} {v : Visit}
    (h : first.Interrupted settings v.key v.before.world) (hkeys : first.store.WellKeyed)
    (he : first.store.stored? .environment v.key = some e) (happlies : Pass.Applies e r)
    (hmeets : v.Meets settings what) :
    (v.before.pass settings v.now v.key).1 = .error (.store (.conflict what)) ∧
      first.Interrupted settings v.key (v.after settings).world := by
  obtain ⟨x, hx, hconflict⟩ := hmeets
  have he' := h.stored?_environment.trans he
  obtain ⟨y, hy, hx⟩ := Pass.exchanged_conflict h.contended he' happlies hconflict hx
  have hkeyed := h.keyed hkeys hy
  rcases ha : ((Collection.mk y y.target).applyAll Collection.workloadKinds).run.inWorld
    v.before.world with ⟨a, w₁⟩
  obtain rfl := Collection.applyAll_conflict hkeyed (fun k => Collection.mem_workloadKinds.mp) hx
    hconflict ha
  obtain ⟨m, _, hrun⟩ := Pass.run_deploy v.now v.before.memory h.contended hy he' happlies ha
  obtain ⟨m', hfinish⟩ := Pass.finish_conflict settings v.now v.key m happlies.stage what w₁
  have hpass : (Pass.run settings v.now v.key v.before.memory).inWorld v.before.world = _ :=
    hrun.trans hfinish
  unfold Visit.after Moment.pass
  rw [hpass]
  exact ⟨rfl, h.applyAll hkeys hy ha⟩

/-- A pass that applies the workload leaves its targets, and moves the status on. -/
theorem Interrupted.pass_applied (h : first.Interrupted settings key w) (m : PassMemory)
    (now : Instant) (hkeys : first.store.WellKeyed)
    (he : first.store.stored? .environment key = some e) (happlies : Pass.Applies e r)
    (hy : y.Reflects settings.configNamespace settings.defaults key w.store)
    (ha : ((Collection.mk y y.target).applyAll Collection.workloadKinds).run.inWorld w =
      (.ok (), w₁)) :
    (∀ k ∈ Collection.workloadKinds, ((Pass.run settings now key m).inWorld w).2.store.objects.get?
      ⟨k, key⟩ =
      ((Collection.mk y y.target).wanted k).map k.codec.encode) ∧
    (m.stalls.ceiling = none →
      ((Pass.run settings now key m).inWorld w).1.1 = .ok (.requeue settings.requeueDelay) ∧
      ((Pass.run settings now key m).inWorld w).2.store.status? key =
        some { e.statusOrInitial with stage := .deployVerify, lastUpdated := some now }) := by
  have hafter := h.applyAll hkeys hy ha
  have he₁ := hafter.stored?_environment.trans he
  obtain ⟨m₁, hstalls, hrun⟩ :=
    Pass.run_deploy now m h.contended hy (h.stored?_environment.trans he) happlies ha
  rw [hrun]
  refine ⟨fun k hk => ?_, fun hceiling => ?_⟩
  · rcases hfinish : (Pass.finish settings now key e.statusOrInitial m₁
      (Collection.afterApply e.statusOrInitial (.ok ()))).inWorld w₁ with ⟨⟨result, m'⟩, w'⟩
    obtain ⟨_, _, hstores, _⟩ := Pass.finish_stores hfinish
    obtain ⟨_, hstored⟩ := Collection.applyAll_ok h.contended hy (h.keyed hkeys hy) ha
    exact (hstores.frame (ne_of_mem_of_not_mem hk (by decide)) key).trans (hstored k hk)
  · rw [← hstalls] at hceiling
    obtain ⟨m', w', hfinish, hstatus⟩ :=
      Pass.finish_applied settings now hceiling hafter.contended he₁ happlies.stage
    rw [hfinish]
    exact ⟨rfl, hstatus⟩

/-- An interrupted workload can be applied if and only if it could have been applied at first. So if
one pass ends well, both apply it. -/
theorem Interrupted.both_applied (h : first.Interrupted settings key w)
    (hkeys : first.store.WellKeyed) (hcalm : first.Calm)
    (he : first.store.stored? .environment key = some e) (happlies : Pass.Applies e r)
    (hends : (∃ o, ((Pass.run settings now key m).inWorld w).1.1 = .ok o) ∨
      w.Calm ∧ ∃ o, ((Pass.run settings now₀ key m₀).inWorld first).1.1 = .ok o) :
    ∃ (x y : Snapshot) (w₀ w₁ : World),
    x.Reflects settings.configNamespace settings.defaults key first.store ∧
    y.Reflects settings.configNamespace settings.defaults key w.store ∧ x.Follows y ∧
    ((Collection.mk x x.target).applyAll Collection.workloadKinds).run.inWorld first =
      (.ok (), w₀) ∧
    ((Collection.mk y y.target).applyAll Collection.workloadKinds).run.inWorld w =
      (.ok (), w₁) := by
  have hrefl : first.Interrupted settings key first := .refl hcalm
  have he' := h.stored?_environment.trans he
  rcases hends with ⟨o, hok⟩ | ⟨hcalm', o, hok⟩
  · obtain ⟨y, w₁, hy, ha⟩ := Pass.applied_of_ok h.contended he' happlies hok
    obtain ⟨x, hx, hfollows⟩ := h.reflected hy
    obtain ⟨hwritable, _⟩ := Collection.applyAll_ok h.contended hy (h.keyed hkeys hy) ha
    have hwritable₀ := (Collection.writable_congr hfollows h.failingWrites).mp hwritable
    obtain ⟨w₀, ha₀⟩ := Collection.applyAll_of_writable hcalm hx (hrefl.keyed hkeys hx) hwritable₀
    exact ⟨x, y, w₀, w₁, hx, hy, hfollows, ha₀, ha⟩
  · obtain ⟨x, w₀, hx, ha₀⟩ := Pass.applied_of_ok hcalm.contended he happlies hok
    obtain ⟨y, hy, hfollows⟩ := h.reflects hx
    obtain ⟨hwritable₀, _⟩ := Collection.applyAll_ok hcalm.contended hx (hrefl.keyed hkeys hx) ha₀
    have hwritable := (Collection.writable_congr hfollows h.failingWrites).mpr hwritable₀
    obtain ⟨w₁, ha⟩ := Collection.applyAll_of_writable hcalm' hy (h.keyed hkeys hy) hwritable
    exact ⟨x, y, w₀, w₁, hx, hy, hfollows, ha₀, ha⟩

end

end World

namespace Run
variable {settings : Settings} {key : ObjectKey} {first m : Moment} {past : List Visit}
  {e : Environment} {r : String}

/-- Passes that meet conflicts report them, and leave nothing else than an interrupted workload. -/
theorem interrupted (hkeys : first.world.store.WellKeyed) (hcalm : first.world.Calm)
    (he : first.world.store.stored? .environment key = some e) (happlies : Pass.Applies e r)
    (h : Run settings World.Contends first past m)
    (hpast : ∀ v ∈ past, v.key = key ∧ ∃ what, v.Meets settings what) :
    first.world.Interrupted settings key m.world ∧ ∀ v ∈ past, ∀ what, v.Meets settings what →
      (v.before.pass settings v.now key).1 = .error (.store (.conflict what)) ∧
        first.world.Interrupted settings key (v.after settings).world := by
  -- Every pass of the run is a contested one, so each finds an interrupted workload and leaves one.
  induction h with
  | first => exact ⟨.refl hcalm, List.forall_mem_nil _⟩
  | @pass past m now key' _ ih =>
    obtain ⟨hbefore, hvisits⟩ := ih fun v hv => hpast v (List.mem_cons_of_mem _ hv)
    obtain ⟨rfl, what, hmeets⟩ := hpast _ List.mem_cons_self
    have hlast {what : String} (hmeets : Visit.Meets settings ⟨now, key', m⟩ what) :=
      World.Interrupted.pass_conflict hbefore hkeys he happlies hmeets
    refine ⟨(hlast hmeets).2, fun v hv => ?_⟩
    rcases List.mem_cons.mp hv with rfl | hv
    · exact fun what => hlast
    · exact hvisits v hv
  | others _ hw ih =>
    obtain ⟨hbefore, hvisits⟩ := ih hpast
    exact ⟨hbefore.contends hw, hvisits⟩
  | restart _ _ ih => exact ih hpast

/-- However often passes have met conflicts, each has reported its own and has left the status as it
was. And a pass that ends well after them, as one does that meets no conflict if one would have
ended well in the beginning, ends in waiting for the deployment, with the workload stored as that
one pass would have left it. -/
theorem deployed_after_conflicts (hkeys : first.world.store.WellKeyed) (hcalm : first.world.Calm)
    (he : first.world.store.stored? .environment key = some e) (happlies : Pass.Applies e r)
    (h : Run settings World.Contends first past m)
    (hpast : ∀ v ∈ past, v.key = key ∧ ∃ what, v.Meets settings what) :
    (∀ v ∈ past, ∀ what, v.Meets settings what →
      (v.before.pass settings v.now key).1 = .error (.store (.conflict what)) ∧
      (v.after settings).world.store.status? key = some e.statusOrInitial) ∧
    ∀ now now₀, m.memory.stalls.ceiling = none →
      ((∃ o, (m.pass settings now key).1 = .ok o) ∨
        m.world.Calm ∧ ∃ o, (first.pass settings now₀ key).1 = .ok o) →
      (m.pass settings now key).1 = .ok (.requeue settings.requeueDelay) ∧
      (m.pass settings now key).2.world.store.status? key =
        some { e.statusOrInitial with stage := .deployVerify, lastUpdated := some now } ∧
      ∀ k, Stage.deploy.Makes k → (m.pass settings now key).2.world.store.objects.get? ⟨k, key⟩ =
        (first.pass settings now₀ key).2.world.store.objects.get? ⟨k, key⟩ := by
  obtain ⟨hbefore, hvisits⟩ := interrupted hkeys hcalm he happlies h hpast
  refine ⟨fun v hv what hmeets => ?_, fun now now₀ hceiling hends => ?_⟩
  · obtain ⟨hreported, hafter⟩ := hvisits v hv what hmeets
    refine ⟨hreported, ?_⟩
    rw [MemoryStore.status?, hafter.stored?_environment, he]
    exact Environment.status_eq_of_expected happlies.expected
  · have hrefl : first.world.Interrupted settings key first.world := .refl hcalm
    obtain ⟨x, y, w₀, w₁, hx, hy, hfollows, ha₀, ha⟩ :=
      hbefore.both_applied hkeys hcalm he happlies hends
    obtain ⟨hstored, hmoved⟩ := hbefore.pass_applied m.memory now hkeys he happlies hy ha
    obtain ⟨hstored₀, _⟩ := hrefl.pass_applied first.memory now₀ hkeys he happlies hx ha₀
    obtain ⟨hresult, hstatus⟩ := hmoved hceiling
    refine ⟨hresult, hstatus, fun k hk => ?_⟩
    have hmem := Collection.mem_workloadKinds.mpr hk
    calc (m.pass settings now key).2.world.store.objects.get? ⟨k, key⟩
      _ = ((Collection.mk y y.target).wanted k).map k.codec.encode := hstored k hmem
      _ = ((Collection.mk x x.target).wanted k).map k.codec.encode := by rw [hfollows.wanted_eq hk]
      _ = (first.pass settings now₀ key).2.world.store.objects.get? ⟨k, key⟩ :=
        (hstored₀ k hmem).symm

end Run

namespace Sample

def deploying : Environment :=
  { environment with
    spec.service := some { enabled := true }
    status := some { stage := .deploy, expectedRevision := some "1" } }

def firstDeploying : Moment where
  memory := first.memory
  world := { store := { objects := .ofList [
    (⟨.environment, key⟩, Environment.codec.encode deploying),
    (⟨.environmentConfig, ⟨"kiln-system", "web"⟩⟩, EnvironmentConfig.codec.encode config)] } }

def disturbed : Moment :=
  firstDeploying.alter (·.inject ⟨.create .service, .conflict "service dev/web", 1⟩)

theorem wellKeyed_firstDeploying : firstDeploying.world.store.WellKeyed := by
  let s : MemoryStore :=
    { objects := .ofList [(⟨.environment, key⟩, Environment.codec.encode deploying)] }
  have henvironment : ({} : MemoryStore).put .environment .environment deploying = .ok s := rfl
  have hconfig : s.put .environmentConfig .environmentConfig config =
      .ok firstDeploying.world.store := rfl
  exact (MemoryStore.wellKeyed_empty.put henvironment).put hconfig

theorem run_disturbed :
    Run {} World.Contends firstDeploying [⟨.epoch, key, disturbed⟩] (pass disturbed) := by
  refine .pass _ _ (.others .first ⟨fun f hf => ?_, _, _, rfl⟩)
  cases List.mem_singleton.mp hf
  exact ⟨.inr (.inl rfl), rfl⟩

end Sample

set_option maxRecDepth 100000 in
/-- The service meets a conflict after the deployment has been made, and the next pass makes it. -/
theorem Run.deployed_after_conflict_of_service : ∃ past,
    Run {} World.Contends Sample.firstDeploying past (Sample.pass Sample.disturbed) ∧
    (∀ v ∈ past, (v.before.pass {} v.now Sample.key).1 =
      .error (.store (.conflict "service dev/web"))) ∧
    ((Sample.pass Sample.disturbed).world.store.stored? .deployment Sample.key).isSome = true ∧
    ((Sample.pass Sample.disturbed).world.store.stored? .service Sample.key).isSome = false ∧
    ((Sample.pass Sample.disturbed).pass {} .epoch Sample.key).1 =
      .ok (.requeue ({} : Settings).requeueDelay) ∧
    ∀ k, Stage.deploy.Makes k →
      (Sample.pass (Sample.pass Sample.disturbed)).world.store.objects.get? ⟨k, Sample.key⟩ =
        (Sample.pass Sample.firstDeploying).world.store.objects.get? ⟨k, Sample.key⟩ := by
  have he : Sample.firstDeploying.world.store.stored? .environment Sample.key =
      some Sample.deploying :=
    Kind.environment.lawful.decode_encode Sample.deploying
  have happlies : Pass.Applies Sample.deploying "1" := ⟨rfl, rfl, rfl, nofun⟩
  have hmeets : Visit.Meets {} ⟨.epoch, Sample.key, Sample.disturbed⟩ "service dev/web" := by
    unfold Visit.Meets
    decide +kernel
  have hparts : ((Sample.pass Sample.disturbed).world.store.stored? .deployment Sample.key).isSome =
      true ∧
      ((Sample.pass Sample.disturbed).world.store.stored? .service Sample.key).isSome = false := by
        decide +kernel
  have hok : ((Sample.pass Sample.disturbed).pass {} .epoch Sample.key).1.toOption.isSome =
      true := by decide +kernel
  obtain ⟨o, ho⟩ := Option.isSome_iff_exists.mp hok
  have hpast : ∀ v ∈ [(⟨.epoch, Sample.key, Sample.disturbed⟩ : Visit)],
      v.key = Sample.key ∧ ∃ what, v.Meets {} what := by
    intro v hv
    cases List.mem_singleton.mp hv
    exact ⟨rfl, _, hmeets⟩
  obtain ⟨hvisits, hlast⟩ :=
    Run.deployed_after_conflicts Sample.wellKeyed_firstDeploying ⟨rfl, rfl⟩ he happlies
    Sample.run_disturbed hpast
  obtain ⟨hresult, _, hsame⟩ := hlast .epoch .epoch rfl (.inl ⟨o, Except.ok_of_toOption ho⟩)
  refine ⟨_, Sample.run_disturbed, fun v hv => ?_, hparts.1, hparts.2, hresult, hsame⟩
  cases List.mem_singleton.mp hv
  exact (hvisits _ hv _ hmeets).1

end EnvOperator
