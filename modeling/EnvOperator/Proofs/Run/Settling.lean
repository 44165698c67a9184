import EnvOperator.Proofs.Pass.Quiet
import EnvOperator.Proofs.Run.Restarting

/-! # Settling

Passes of an environment come to an end of what there is to do if nobody else does anything. The
stages form a graph with cycles, but which way is taken from a stage that follows the build depends
on the job, and only making a job changes that. So every stage has a bound on how many passes may
still write, and each that does makes it smaller.
-/
namespace EnvOperator

namespace Stage
variable {job : Option Job} {stage : Stage}

def followed : Option Job → Stage
  | none => .buildImage
  | some job =>
    match job.status with
    | none => .buildImageWait
    | some s => (Collection.followJob {} s).next

theorem next_followJob (status : EnvironmentStatus) (s : JobStatus) :
    (Collection.followJob status s).next = (Collection.followJob {} s).next := by
  unfold Collection.followJob
  split
  · rfl
  · split
    · rfl
    · split <;> rfl

theorem next_waitForBuild (c : Collection) (status : EnvironmentStatus) :
    (c.waitForBuild status).next = followed c.snapshot.job := by
  unfold Collection.waitForBuild followed
  cases c.snapshot.job with
  | none => rfl
  | some job =>
    dsimp only
    cases job.status with
    | none => rfl
    | some s => exact next_followJob status s

theorem followed_mem (job : Option Job) : followed job ∈ buildImageWait.successors := by
  unfold followed
  split
  · simp [successors]
  · split
    · simp [successors]
    · unfold Collection.followJob
      split
      · simp [Transition.move, successors]
      · split
        · simp [Transition.move, successors]
        · split <;> simp [Transition.move, Transition.fail, successors]

def following (job : Option Job) (stage : Stage) : Nat :=
  if followed job = stage then 0
  else if followed job = .buildImageVerify then 4
  else if followed job = .buildImage then 2
  else 1

/-- How many passes may still write from a stage, if nobody else does anything. A job that is there
can be of the right shape, so that the whole rollout follows; one that is made then stays without a
status. -/
def remaining (job : Option Job) : Stage → Nat
  | .initial => 4
  | .buildImage => if job.isSome then 3 else 1
  | .buildImageWait => following job .buildImageWait
  | .buildImageFailing => following job .buildImageFailing
  | .buildImageVerify => 3
  | .deploy => 2
  | .deployVerify => 1
  | .deployed | .buildImageFailed | .deploymentFailed | .failed => 0

theorem following_le : following job stage ≤ 4 := by
  unfold following
  split
  · omega
  · split
    · omega
    · split <;> omega

theorem remaining_le (job : Option Job) (stage : Stage) : stage.remaining job ≤ 4 := by
  cases stage with
  | buildImage => simp only [remaining]; split <;> omega
  | buildImageWait | buildImageFailing => exact following_le
  | initial | buildImageVerify | deploy | deployVerify | deployed | buildImageFailed
  | deploymentFailed | failed => simp [remaining]

theorem remaining_buildImage_pos (job : Option Job) : 0 < remaining job .buildImage := by
  simp only [remaining]
  split <;> omega

theorem remaining_buildImage_lt (job : Option Job) : remaining job .buildImage < 4 := by
  simp only [remaining]
  split <;> omega

theorem remaining_followed_lt (h : followed job ≠ stage) :
    remaining job (followed job) < following job stage := by
  have hmem := followed_mem job
  unfold following
  rw [if_neg h]
  simp only [successors, List.mem_cons, List.not_mem_nil, or_false] at hmem
  rcases hmem with hf | hf | hf | hf | hf
  · -- Only a job that is absent leads back to its making.
    have hnone : job = none := by
      cases job with
      | none => rfl
      | some j =>
        unfold followed Collection.followJob at hf
        split at hf
        · cases ‹some j = none›
        · split at hf
          · cases hf
          · split at hf
            · cases hf
            · split at hf
              · cases hf
              · split at hf <;> cases hf
    rw [hf, hnone]
    decide
  · simp [hf, remaining, following]
  · simp [hf, remaining, following]
  · simp [hf, remaining]
  · simp [hf, remaining]

end Stage

def MemoryStore.remaining (s : MemoryStore) (key : ObjectKey) : Nat :=
  match s.stored? .environment key with
  | none => 0
  | some e =>
    match e.statusOrInitial.turn e.spec.revision with
    | none => 0
    | some stage => stage.remaining (s.stored? .job (key.own .job))

theorem MemoryStore.remaining_le (s : MemoryStore) (key : ObjectKey) : s.remaining key ≤ 4 := by
  unfold remaining
  split
  · omega
  · split
    · omega
    · exact Stage.remaining_le _ _

namespace Pass.Takes
variable {settings : Settings} {key : ObjectKey} {w w₁ : World} {e : Environment} {c : Collection}
  {stage : Stage} {t : Transition}

theorem status_eq (ht : Takes settings key w e c stage t w₁) (hs : stage ≠ .initial)
    (hn : t.next = stage) (hst : t.status = { e.statusOrInitial with stage }) :
    { t.status with stage := t.next } = e.statusOrInitial := by
  obtain ⟨_, hstage, _⟩ := ht.of_ne_initial hs
  rw [hst, hn, ← hstage]

/-- A step to another status leads to where less is left to do. -/
theorem remaining_lt (ht : Takes settings key w e c stage t w₁)
    (hchanged : { t.status with stage := t.next } ≠ e.statusOrInitial)
    (hnext : stage = .buildImage ∨ stage = .deploy → t.next ≠ stage) :
    t.next.remaining (w₁.store.stored? .job (key.own .job)) <
      stage.remaining (w.store.stored? .job (key.own .job)) := by
  have hbuilt := ht.built
  have hstay := ht.status_eq
  have hkept := ht.stored_eq (k := .job)
  have hjob : w.store.stored? .job (key.own .job) = c.snapshot.job :=
    ht.reflects.stored_eq (k := .job) (.inl rfl)
  rw [hjob]
  cases ht.steps.leads with
  | begin => exact Stage.remaining_buildImage_lt _
  | skip hj => simp [Transition.move, Stage.remaining, hj]
  | stuck => exact absurd rfl (hnext (.inl rfl))
  | @build answer =>
    rcases answer with x | v
    · cases x with
      | alreadyExists => exact absurd rfl (hnext (.inl rfl))
      | notFound | conflict | invalid | serialization | api =>
        exact Stage.remaining_buildImage_pos _
    · rw [hbuilt rfl rfl, ht.target]
      exact Stage.remaining_buildImage_pos _
  | wait hs =>
    have hmakes : ¬ stage.Makes .job := by rcases hs with rfl | rfl <;> exact id
    have hinitial : stage ≠ .initial := by rcases hs with rfl | rfl <;> decide
    have hfollowed := Stage.next_waitForBuild c { e.statusOrInitial with stage }
    have hleft : Stage.followed c.snapshot.job ≠ stage := fun hsame =>
      hchanged (hstay hinitial (hfollowed.trans hsame) Collection.waitForBuild_status)
    have hlt := Stage.remaining_followed_lt hleft
    rw [hkept hmakes, hjob, hfollowed]
    rcases hs with rfl | rfl
    · exact hlt
    · exact hlt
  | verified | unverified => simp [Transition.move, Transition.fail, Stage.remaining]
  | @deploy answer =>
    rcases answer with x | _
    · unfold Collection.afterApply at hnext ⊢
      split at hnext
      · simp [Transition.move, Stage.remaining]
      · exact absurd rfl (hnext (.inr rfl))
      · simp [Transition.fail, Stage.remaining]
    · simp [Collection.afterApply, Transition.move, Stage.remaining]
  | verify =>
    rcases Collection.verifyDeployment_cases c
      { e.statusOrInitial with stage := .deployVerify } with hv | ⟨_, hv⟩
    · rw [hv] at hchanged hstay
      exact absurd (hstay (by decide) rfl rfl) hchanged
    · simp [hv, Transition.move, Stage.remaining]
  | rest hs =>
    have hinitial : stage ≠ .initial := by
      rintro rfl
      rcases hs with hs | hs <;> cases hs
    exact absurd (hstay hinitial rfl rfl) hchanged

end Pass.Takes

namespace Moment
variable {settings : Settings} {now now' : Instant} {key : ObjectKey} {m : Moment}

def Quiet (settings : Settings) (now : Instant) (key : ObjectKey) (m : Moment) : Prop :=
  (Pass.run settings now key m.memory).Quiet m.world

instance : Decidable (m.Quiet settings now key) :=
  inferInstanceAs (Decidable ((Pass.run settings now key m.memory).Quiet m.world))

def passes (settings : Settings) (key : ObjectKey) (times : Nat → Instant) (m : Moment) :
    Nat → Moment
  | 0 => m
  | n + 1 => ((m.passes settings key times n).pass settings (times n) key).2

structure Steady (m : Moment) : Prop where
  ceiling : m.memory.stalls.ceiling = none
  calm : m.world.Calm
  keyed : m.world.store.WellKeyed

namespace Steady

theorem pass (h : m.Steady) (settings : Settings) (now : Instant) (key : ObjectKey) :
    (m.pass settings now key).2.Steady where
  ceiling := (ceiling_pass settings now key m).trans h.ceiling
  calm := (Dialogue.subsides_inWorld _ m.world).calm h.calm
  keyed := Dialogue.wellKeyed_inWorld _ h.keyed

theorem passes (h : m.Steady) (settings : Settings) (key : ObjectKey) (times : Nat → Instant)
    (n : Nat) : (m.passes settings key times n).Steady := by
  induction n with
  | zero => exact h
  | succ n ih => exact ih.pass settings (times n) key

/-- A pass that writes leaves less to do. -/
theorem remaining_pass_lt (h : m.Steady) (hwrites : ¬ m.Quiet settings now key) :
    (m.pass settings now key).2.world.store.remaining key < m.world.store.remaining key := by
  obtain ⟨e, c, stage, t, w₁, ht, hchanged, hnext, ho⟩ :=
    Pass.stored_of_not_quiet h.ceiling h.calm h.keyed hwrites
  have hlt := ht.remaining_lt hchanged hnext
  have hbefore : m.world.store.remaining key =
      stage.remaining (m.world.store.stored? .job (key.own .job)) := by
    simp [MemoryStore.remaining, ht.environment, ht.turn]
  have henvironment : (m.pass settings now key).2.world.store.stored? .environment key = some _ :=
    MemoryStore.stored?_of_insert (k := .environment) ho
  have hjob : (m.pass settings now key).2.world.store.stored? .job (key.own .job) =
      w₁.store.stored? .job (key.own .job) :=
    MemoryStore.stored?_of_insert_of_ne ho (ObjectId.ne_of_kind (by decide) _ _)
  have hafter : (m.pass settings now key).2.world.store.remaining key ≤
      t.next.remaining (w₁.store.stored? .job (key.own .job)) := by
    rw [MemoryStore.remaining, henvironment]
    dsimp only
    split
    · omega
    · rename_i stage' hturn
      obtain ⟨r, hr, ⟨hne, _⟩ | ⟨_, _, hstage⟩⟩ := EnvironmentStatus.turn_eq_some hturn
      · exact absurd (ht.expectedRevision.trans hr) hne
      · obtain rfl : stage' = t.next := hstage
        exact Nat.le_of_eq (congrArg t.next.remaining hjob)
  omega

/-- After a pass that writes nothing the world is as it was, and the next pass writes nothing either
and comes to the same. -/
theorem quiet_pass (h : m.Steady) (hq : m.Quiet settings now key) (now' : Instant) :
    (m.pass settings now key).2.world = m.world ∧
    (m.pass settings now key).2.Quiet settings now' key ∧
    ((m.pass settings now key).2.pass settings now' key).1 = (m.pass settings now key).1 := by
  have hworld : (m.pass settings now key).2.world = m.world := Dialogue.inWorld_of_quiet h.calm hq
  obtain ⟨hquiet, hresult⟩ := Pass.run_of_quiet now' hq
  have hceiling := (h.pass settings now key).ceiling
  obtain ⟨hsame, _⟩ := pass_of_no_ceiling settings now' key h.ceiling hceiling hworld
  refine ⟨hworld, ?_, hsame.trans hresult⟩
  have hasked :=
    congrArg (·.asked World.answer m.world) (Pass.run_fst settings now' key h.ceiling hceiling)
  simp only [Dialogue.asked_map] at hasked
  unfold Quiet Dialogue.Quiet
  rw [hworld, hasked]
  exact hquiet

variable (settings key) (times : Nat → Instant) in
theorem countP_add_remaining_le (h : m.Steady) (n : Nat) :
    ((List.range n).countP fun i => ¬ (m.passes settings key times i).Quiet settings
      (times i) key) +
      (m.passes settings key times n).world.store.remaining key ≤ m.world.store.remaining key := by
  induction n with
  | zero => simp [Moment.passes]
  | succ n ih =>
    rw [List.range_succ, List.countP_append, List.countP_singleton]
    have hn := h.passes settings key times n
    by_cases hq : (m.passes settings key times n).Quiet settings (times n) key
    · have hsame : (m.passes settings key times (n + 1)).world =
          (m.passes settings key times n).world :=
        (hn.quiet_pass hq (times n)).1
      simpa [hq, hsame] using ih
    · have hlt : (m.passes settings key times (n + 1)).world.store.remaining key < _ :=
        hn.remaining_pass_lt hq
      simp only [hq, not_false_eq_true, decide_true, if_true]
      omega

theorem quiet_passes (h : m.Steady) {times : Nat → Instant} {i j : Nat}
    (hq : (m.passes settings key times i).Quiet settings (times i) key) (hij : i ≤ j) :
    (m.passes settings key times j).Quiet settings (times j) key ∧
    (m.passes settings key times (j + 1)).world = (m.passes settings key times i).world ∧
    ((m.passes settings key times j).pass settings (times j) key).1 =
      ((m.passes settings key times i).pass settings (times i) key).1 := by
  induction hij with
  | refl => exact ⟨hq, ((h.passes settings key times i).quiet_pass hq (times i)).1, rfl⟩
  | @step j _ ih =>
    obtain ⟨hquiet, hworld, hresult⟩ := ih
    have hj := h.passes settings key times j
    obtain ⟨_, hquiet', hresult'⟩ := hj.quiet_pass hquiet (times (j + 1))
    have hkept := ((hj.pass settings (times j) key).quiet_pass hquiet' (times (j + 1))).1
    exact ⟨hquiet', hkept.trans hworld, hresult'.trans hresult⟩

end Steady

/-- Without a ceiling, in a calm world of well-keyed objects that nobody else changes: at most four
passes of an environment write anything, whatever is stored. Once one has written nothing, no later
one does, and all of them leave the world as it is and come to the same. -/
theorem passes_settle (settings : Settings) (key : ObjectKey) (times : Nat → Instant)
    (hceiling : m.memory.stalls.ceiling = none) (hcalm : m.world.Calm)
    (hkeys : m.world.store.WellKeyed) :
    (∀ n,
      ((List.range n).countP fun i => ¬ (m.passes settings key times i).Quiet settings
        (times i) key) ≤ 4) ∧
    ∀ i, (m.passes settings key times i).Quiet settings (times i) key → ∀ j, i ≤ j →
      (m.passes settings key times j).Quiet settings (times j) key ∧
      (m.passes settings key times (j + 1)).world = (m.passes settings key times i).world ∧
      ((m.passes settings key times j).pass settings (times j) key).1 =
        ((m.passes settings key times i).pass settings (times i) key).1 := by
  have hm : m.Steady := ⟨hceiling, hcalm, hkeys⟩
  refine ⟨fun n => ?_, fun i hq j hij => hm.quiet_passes hq hij⟩
  have hcount := hm.countP_add_remaining_le settings key times n
  have hfour := m.world.store.remaining_le key
  omega

end Moment

set_option maxRecDepth 100000 in
/-- Two passes make the build job and wait for it, and the third one does nothing more, like all
that follow it. -/
theorem Moment.passes_settle_first :
    Sample.first.memory.stalls.ceiling = none ∧ Sample.first.world.Calm ∧
    Sample.first.world.store.WellKeyed ∧
    ((List.range 3).countP fun i =>
      ¬ (Sample.first.passes {} Sample.key (fun _ => .epoch) i).Quiet {} .epoch Sample.key) = 2 ∧
    ∀ j, 2 ≤ j → (Sample.first.passes {} Sample.key (fun _ => .epoch) j).Quiet
      {} .epoch Sample.key := by
  have hcalm : Sample.first.world.Calm := ⟨rfl, rfl⟩
  have hsettle := Moment.passes_settle {} Sample.key (fun _ => .epoch) (m := Sample.first) rfl hcalm
    Sample.wellKeyed_first
  have hcount : ((List.range 3).countP fun i =>
      ¬ (Sample.first.passes {} Sample.key (fun _ => .epoch) i).Quiet {} .epoch Sample.key) =
        2 := by decide +kernel
  have hquiet : (Sample.first.passes {} Sample.key (fun _ => .epoch) 2).Quiet
      {} .epoch Sample.key := by
    decide +kernel
  exact ⟨rfl, hcalm, Sample.wellKeyed_first, hcount, fun j hj => (hsettle.2 2 hquiet j hj).1⟩

end EnvOperator
