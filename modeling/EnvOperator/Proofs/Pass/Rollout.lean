import EnvOperator.Proofs.Pass.Calls

/-! # Complete rollouts

The step that follows a rollout looks at the deployment alone, and at nothing of it but its
revision, the generation that its status belongs to, and two of its counts. It ends the pipeline
where the rollout is complete. Everywhere else a pass waits: it writes nothing and comes again.
-/
namespace EnvOperator

/-- The deployment has been rolled out for a revision: it was made for it, its status belongs to its
present specification, and enough of its replicas follow that and are available. -/
structure Deployment.RolledOut (d : Deployment) (revision : Option String) (replicas : Int32) :
    Prop where
  revision :
    (d.metadata.annotations.bind fun annotations => annotations.get? Naming.revisionAnnotation) =
      revision
  observed : ∀ generation, d.metadata.generation = some generation →
    generation ≤ (d.status.bind (·.observedGeneration)).getD 0
  updated : replicas ≤ (d.status.bind (·.updatedReplicas)).getD 0
  available : replicas ≤ (d.status.bind (·.availableReplicas)).getD 0

theorem Deployment.runs_iff {d : Deployment} {revision : Option String} {replicas : Int32} :
    d.runs revision replicas = true ↔ d.RolledOut revision replicas := by
  simp only [runs, rolloutObserved, Bool.and_eq_true, beq_iff_eq, Option.all_eq_true,
    decide_eq_true_eq]
  constructor
  · rintro ⟨⟨⟨hrevision, hobserved⟩, hupdated⟩, havailable⟩
    exact ⟨hrevision, hobserved, hupdated, havailable⟩
  · intro h
    exact ⟨⟨⟨h.revision, h.observed⟩, h.updated⟩, h.available⟩

def MemoryStore.RolledOut (s : MemoryStore) (defaults : Defaults) (key : ObjectKey)
    (e : Environment) : Prop :=
  ∃ d, s.stored? .deployment key = some d ∧
    d.RolledOut e.spec.revision (e.applyDefaults defaults).spec.replicaCount

instance {s : MemoryStore} {defaults : Defaults} {key : ObjectKey} {e : Environment} :
    Decidable (s.RolledOut defaults key e) :=
  decidable_of_iff ((s.stored? .deployment key).any
    (·.runs e.spec.revision (e.applyDefaults defaults).spec.replicaCount) = true)
    (by simp only [MemoryStore.RolledOut, Option.any_eq_true, Deployment.runs_iff])

namespace Collection
variable {c : Collection} {key : ObjectKey} {e : Environment} {s : MemoryStore}
  {configNamespace : String} {defaults : Defaults}

theorem runs_collected (h : c.snapshot.Reflects configNamespace defaults key s)
    (he : s.stored? .environment key = some e) :
    c.snapshot.deployment.any
      (·.runs c.snapshot.revision c.snapshot.environment.spec.replicaCount) = true ↔
      s.RolledOut defaults key e := by
  obtain ⟨e', he', henv, _, hrevision⟩ := h.exists_environment
  cases he.symm.trans he'
  have hstored : s.stored? .deployment key = c.snapshot.deployment :=
    h.stored_eq (k := .deployment) (.inr (.inl rfl))
  rw [Option.any_eq_true, hrevision, henv, MemoryStore.RolledOut, hstored]
  simp only [Deployment.runs_iff]

theorem verifyDeployment_of_rolledOut (h : c.snapshot.Reflects configNamespace defaults key s)
    (he : s.stored? .environment key = some e) (hout : s.RolledOut defaults key e)
    (status : EnvironmentStatus) :
    c.verifyDeployment status =
      .move { status with deployedRevision := c.snapshot.revision } .deployed :=
  if_pos ((runs_collected h he).mpr hout)

theorem verifyDeployment_of_not_rolledOut (h : c.snapshot.Reflects configNamespace defaults key s)
    (he : s.stored? .environment key = some e) (hout : ¬ s.RolledOut defaults key e)
    (status : EnvironmentStatus) : c.verifyDeployment status = .move status .deployVerify :=
  if_neg (mt (runs_collected h he).mp hout)

end Collection

namespace Pass
variable {answer : (q : Query) → World → q.Answer × World} {settings : Settings} {now : Instant}
  {key : ObjectKey} {m : PassMemory} {w w' w₁ : World} {c : Collection} {t : Transition}
    {e : Environment}

theorem Dispatches.stage_eq {stage : Stage} (hd : Dispatches answer settings key w c stage t w₁)
    (hs : stage ≠ .initial) : c.status.stage = stage := by
  obtain ⟨_, _, ⟨_, hi⟩ | ⟨_, _, hstage⟩⟩ := EnvironmentStatus.turn_eq_some hd.turn
  · exact absurd hi hs
  · exact hstage.symm

theorem persist_ok (h : World.Answers answer) {before status : EnvironmentStatus}
    (he : w.store.stored? .environment key = some e) (hne : status ≠ before)
    (hp : (persist key before status now).run answer w = (.ok (), w')) :
    w'.store.stored? .environment key =
      some { e with status := some { status with lastUpdated := some now } } := by
  rcases (persist_cases h he hp : _ ∧ (none : Option StoreError) = none ∧ _ ∨ _) with
    ⟨hsame, _⟩ | ⟨_, hnone, _⟩ | ⟨_, _, hstored⟩
  · exact absurd hsame hne
  · exact absurd rfl hnone
  · exact hstored

/-- Where no ceiling is set, a step arrives where it leads. -/
theorem reached_of_no_ceiling (hceiling : m.stalls.ceiling = none) :
    reached key m t = { t.status with stage := t.next } := by
  rw [reached, m.stalls.escalate_of_no_ceiling hceiling key.text t.next]

theorem Dispatches.unique {stage stage' : Stage} {c' : Collection} {t' : Transition} {w₁' : World}
    (hd : Dispatches answer settings key w c stage t w₁)
    (hd' : Dispatches answer settings key w c' stage' t' w₁') :
    c = c' ∧ stage = stage' ∧ t = t' ∧ w₁ = w₁' := by
  obtain ⟨w₀, hc, hstep⟩ := hd.step
  obtain ⟨w₀', hc', hstep'⟩ := hd'.step
  cases hc.symm.trans hc'
  cases hd.turn.symm.trans hd'.turn
  cases hstep.symm.trans hstep'
  exact ⟨rfl, rfl, rfl, rfl⟩

theorem Dispatches.closes (h : World.Answers answer) {stage : Stage}
    (hd : Dispatches answer settings key w c stage t w₁) (hceiling : m.stalls.ceiling = none)
    (hwritable : refusal answer settings now key m w = none) :
    (persist key c.status { t.status with stage := t.next } now).run answer w₁ =
      (.ok (), ((run settings now key m).run answer w).2) ∧
    ((run settings now key m).run answer w).1.1 =
      t.error.elim (.ok (.ofStage settings t.next)) .error := by
  have hcourse := course h settings now key m w
  rw [hd.led_eq, hwritable] at hcourse
  obtain ⟨c', stage', t', w₁', hd', hp, hr⟩ := hcourse.closes
  obtain ⟨rfl, rfl, rfl, rfl⟩ := hd.unique hd'
  rw [reached_of_no_ceiling hceiling] at hp hr
  exact ⟨hp, hr⟩

theorem Dispatches.verifies (h : World.Answers answer)
    (hd : Dispatches answer settings key w c .deployVerify t w₁) :
    c.snapshot.Reflects settings.configNamespace settings.defaults key w.store ∧ w.Same w₁ ∧
      t = c.verifyDeployment c.status := by
  obtain ⟨w₀, hc, hstep⟩ := hd.step
  have hsame : { c.status with stage := .deployVerify } = c.status := by
    rw [← hd.stage_eq nofun]
  obtain ⟨hfound, hkept⟩ := h.collected hc
  rw [hsame] at hstep
  cases hstep
  exact ⟨hfound.1, hkept, rfl⟩

/-- Where the rollout is complete, the status is stored as that of a deployed revision. -/
theorem Dispatches.deployed (h : World.Answers answer)
    (hd : Dispatches answer settings key w c .deployVerify t w₁)
    (hceiling : m.stalls.ceiling = none) (hwritable : refusal answer settings now key m w = none)
    (he : w.store.stored? .environment key = some e)
    (hout : w.store.RolledOut settings.defaults key e) :
    ((run settings now key m).run answer w).1.1 = .ok .deployed ∧
    ((run settings now key m).run answer w).2.store.stored? .environment key = some { e with
      status := some { e.statusOrInitial with
        stage := .deployed, deployedRevision := e.spec.revision, lastUpdated := some now } } := by
  obtain ⟨e', he', hstatus, hrevision, he₁⟩ := hd.exists_environment h
  cases he.symm.trans he'
  obtain ⟨hx, _, ht⟩ := hd.verifies h
  rw [Collection.verifyDeployment_of_rolledOut hx he hout] at ht
  obtain ⟨hp, hr⟩ := hd.closes h hceiling hwritable
  subst ht
  refine ⟨hr, ?_⟩
  rw [persist_ok h he₁ ?_ hp, ← hstatus, ← hrevision]
  · rfl
  · intro hsame
    have hstage := congrArg EnvironmentStatus.stage hsame
    rw [hd.stage_eq nofun] at hstage
    cases hstage

/-- Where the rollout is not complete, a pass comes again and leaves everything as it is. -/
theorem Dispatches.waits (h : World.Answers answer)
    (hd : Dispatches answer settings key w c .deployVerify t w₁)
    (hceiling : m.stalls.ceiling = none) (hwritable : refusal answer settings now key m w = none)
    (he : w.store.stored? .environment key = some e)
    (hout : ¬ w.store.RolledOut settings.defaults key e) :
    ((run settings now key m).run answer w).1.1 = .ok (.requeue settings.requeueDelay) ∧
    (run settings now key m).writes answer w = [] ∧
    ((run settings now key m).run answer w).2.store = w.store := by
  obtain ⟨hx, hsame, ht⟩ := hd.verifies h
  rw [Collection.verifyDeployment_of_not_rolledOut hx he hout] at ht
  obtain ⟨hp, hr⟩ := hd.closes h hceiling hwritable
  have hstage := hd.stage_eq nofun
  have hreached : { t.status with stage := t.next } = c.status := by
    rw [ht, ← hstage]
    rfl
  obtain ⟨w₀, _, _, hwrites⟩ := hd.writes h now m
  rw [hreached, persist, if_pos rfl] at hp
  refine ⟨?_, ?_, ?_⟩
  · rw [hr, ht]
    rfl
  · rw [hwrites, reached_of_no_ceiling hceiling, hreached, if_pos rfl]
    rfl
  · have hkept : w₁ = ((run settings now key m).run answer w).2 := congrArg Prod.snd hp
    rw [← hkept]
    exact hsame.1

/-- Whatever is stored and whatever a registry answers: a pass that follows a rollout, without a
ceiling and where the status can be written, reports the end of the pipeline exactly where the
rollout is complete. The revision that is asked for then counts as deployed. Otherwise the pass asks
to be run again, writes nothing, and leaves the store as it was. -/
theorem deployed_iff_rolledOut (settings : Settings) (now : Instant) (key : ObjectKey)
    (m : PassMemory) (tags : String → String → Except RegistryError (List String)) {w w₁ : World}
    {c : Collection} {t : Transition}
    (hd : Dispatches (World.answering tags) settings key w c .deployVerify t w₁)
    (hceiling : m.stalls.ceiling = none)
    (hwritable : refusal (World.answering tags) settings now key m w = none) :
    let ended := (run settings now key m).run (World.answering tags) w
    ∃ e, w.store.stored? .environment key = some e ∧
      (w.store.RolledOut settings.defaults key e ↔
        ended.1.1 = .ok .deployed ∧ ended.2.store.stored? .environment key = some { e with
          status := some { e.statusOrInitial with
            stage := .deployed, deployedRevision := e.spec.revision, lastUpdated := some now } }) ∧
      (¬ w.store.RolledOut settings.defaults key e →
        ended.1.1 = .ok (.requeue settings.requeueDelay) ∧
        (run settings now key m).writes (World.answering tags) w = [] ∧
        ended.2.store = w.store) := by
  intro ended
  have h : World.Answers (World.answering tags) := World.answers_answering tags
  obtain ⟨e, he, _⟩ := hd.exists_environment h
  refine ⟨e, he, ⟨fun hout => hd.deployed h hceiling hwritable he hout, ?_⟩,
    fun hout => hd.waits h hceiling hwritable he hout⟩
  rintro ⟨hended, _⟩
  by_contra hout
  have hwaits : ended.1.1 = .ok (.requeue settings.requeueDelay) :=
    (hd.waits h hceiling hwritable he hout).1
  cases hended.symm.trans hwaits

end Pass

def Sample.scaled (updated : Int32) : Moment where
  memory := { stalls := { ceiling := none } }
  world := { store := { objects := .ofList [
    (⟨.environment, key⟩, Environment.codec.encode { environment with
      spec := { environment.spec with replicas := some 2 }
      status := some { stage := .deployVerify, expectedRevision := some "1" } }),
    (⟨.environmentConfig, ⟨"kiln-system", "web"⟩⟩, EnvironmentConfig.codec.encode config),
    (⟨.deployment, key⟩, Deployment.codec.encode {
      metadata := { name := some "web", ns := some "dev", generation := some 4,
                    annotations := some (.ofList [(Naming.revisionAnnotation, "1")]) }
      status := some { availableReplicas := some 3, updatedReplicas := some updated,
                       observedGeneration := some 4 } })] } }

set_option maxRecDepth 100000 in
theorem Sample.dispatches_scaled (updated : Int32) (hupdated : updated = 1 ∨ updated = 2) :
    (∃ c t w₁, Pass.Dispatches (World.answering fun _ _ => .error .unreachable) {} key
      (scaled updated).world c
      .deployVerify t w₁) ∧
    Pass.refusal (World.answering fun _ _ => .error .unreachable) {} .epoch key
      (scaled updated).memory
      (scaled updated).world = none := by
  let answer := World.answering fun _ _ => .error .unreachable
  let collecting := (Collection.collect "kiln-system" {} key).run.run answer (scaled updated).world
  have hturn : (collecting.1.toOption.join.bind fun c => c.status.turn c.snapshot.revision) =
      some .deployVerify := by
    rcases hupdated with rfl | rfl <;> decide +kernel
  obtain ⟨c, hc, hturn⟩ := Option.bind_eq_some_iff.mp hturn
  have hfound : collecting.1 = .ok (some c) := Except.ok_of_toOption (Option.join_eq_some_iff.mp hc)
  refine ⟨⟨c, _, _, hturn, collecting.2, Prod.ext hfound rfl, rfl⟩, ?_⟩
  rcases hupdated with rfl | rfl <;> decide +kernel

set_option maxRecDepth 100000 in
/-- It is not enough that three replicas are available; two of them have to be up to date. -/
theorem Pass.deployed_iff_rolledOut_scaled :
    ((Pass.run {} .epoch Sample.key (Sample.scaled 1).memory).run
      (World.answering fun _ _ => .error .unreachable) (Sample.scaled 1).world).1.1 =
        .ok (.requeue ({} : Settings).requeueDelay) ∧
    ((Pass.run {} .epoch Sample.key (Sample.scaled 2).memory).run
      (World.answering fun _ _ => .error .unreachable) (Sample.scaled 2).world).1.1 =
        .ok .deployed := by
  obtain ⟨⟨c, t, w₁, hd⟩, hwritable⟩ := Sample.dispatches_scaled 1 (.inl rfl)
  obtain ⟨⟨c', t', w₁', hd'⟩, hwritable'⟩ := Sample.dispatches_scaled 2 (.inr rfl)
  obtain ⟨e, he, _, hwaits⟩ := Pass.deployed_iff_rolledOut {} .epoch Sample.key _ _ hd rfl hwritable
  obtain ⟨e', he', hends, _⟩ :=
    Pass.deployed_iff_rolledOut {} .epoch Sample.key _ _ hd' rfl hwritable'
  have hout : ¬ (Sample.scaled 1).world.store.RolledOut {} Sample.key e := by
    have hnot : (((Sample.scaled 1).world.store.stored? .environment Sample.key).map fun e =>
      decide ((Sample.scaled 1).world.store.RolledOut {} Sample.key e)) = some false := by
        decide +kernel
    rw [he] at hnot
    simpa using hnot
  have hout' : (Sample.scaled 2).world.store.RolledOut {} Sample.key e' := by
    have hall : (((Sample.scaled 2).world.store.stored? .environment Sample.key).map fun e =>
      decide ((Sample.scaled 2).world.store.RolledOut {} Sample.key e)) = some true := by
        decide +kernel
    rw [he'] at hall
    simpa using hall
  exact ⟨(hwaits hout).1, (hends.mp hout').1⟩

end EnvOperator
