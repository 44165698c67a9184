import EnvOperator.Proofs.Pass.Quiet

/-! # Making build jobs

A pass asks for its build job to be made or removed only where it has found none of the right shape.
Making it is the last thing that it asks about jobs, and once it is made it is stored as it is
wanted.
-/
namespace EnvOperator

namespace Query

def job? : Query → Option ObjectKey
  | .store (.create .job job) => (Kind.job.keyOf job).toOption
  | .store (.delete .job key) => some key
  | _ => none

def made? : (q : Query) × q.Answer → Option ObjectKey
  | ⟨.store (.create .job job), .ok _⟩ => (Kind.job.keyOf job).toOption
  | _ => none

theorem job?_of_made? {x : (q : Query) × q.Answer} {key : ObjectKey} (h : made? x = some key) :
    x.1.job? = some key := by
  unfold made? at h
  split at h
  · exact h
  · cases h

theorem job?_of_collects {key : ObjectKey} {q : Query} (h : key.Collects q) : q.job? = none := by
  cases q with
  | tags => rfl
  | store r => cases r <;> first | rfl | cases h

theorem made?_of_job? {x : (q : Query) × q.Answer} (h : x.1.job? = none) : made? x = none := by
  cases hx : made? x with
  | none => rfl
  | some key =>
    rw [job?_of_made? hx] at h
    cases h

end Query

/-- After a job has been made, nothing asks for it to be made or removed. -/
def MadeLast (key : ObjectKey) (xs : List ((q : Query) × q.Answer)) : Prop :=
  xs.Pairwise fun x y => Query.made? x = some key → y.1.job? ≠ some key

namespace MadeLast
variable {key : ObjectKey} {xs ys : List ((q : Query) × q.Answer)}

theorem append (hx : MadeLast key xs) (hy : MadeLast key ys)
    (h : (∃ x ∈ xs, Query.made? x = some key) → ∀ y ∈ ys, y.1.job? ≠ some key) :
    MadeLast key (xs ++ ys) := by
  refine List.pairwise_append.mpr ⟨hx, hy, fun x hmem y hmem' hmade => ?_⟩
  exact h ⟨x, hmem, hmade⟩ y hmem'

theorem of_none (h : ∀ x ∈ xs, Query.made? x = none) : MadeLast key xs := by
  induction xs with
  | nil => exact .nil
  | cons x xs ih =>
    refine .cons (fun y _ hmade => ?_) (ih fun y hy => h y (List.mem_cons_of_mem _ hy))
    cases (h x List.mem_cons_self).symm.trans hmade

theorem countP_le_one (h : MadeLast key xs) :
    xs.countP (fun x => Query.made? x = some key) ≤ 1 := by
  induction xs with
  | nil => exact Nat.zero_le 1
  | cons x xs ih =>
    obtain ⟨hx, hxs⟩ := List.pairwise_cons.mp h
    rw [List.countP_cons]
    by_cases hmade : Query.made? x = some key
    · have hnone : xs.countP (fun x => Query.made? x = some key) = 0 := by
        rw [List.countP_eq_zero]
        intro y hy hy'
        exact hx y hy hmade (Query.job?_of_made? (of_decide_eq_true hy'))
      simp [hmade, hnone]
    · have hrest := ih hxs
      simpa [hmade] using hrest

end MadeLast

def Snapshot.Unbuilt (x : Snapshot) : Prop :=
  ∀ job, x.job = some job → job.sameShape x.target.job = false

namespace Collection
variable {c : Collection} {status : EnvironmentStatus} {stage : Stage} {w : World} {q : Query}
  {key : ObjectKey} {x : (q : Query) × q.Answer}

theorem Asks.eq_buildImage (h : c.Asks stage q) (hq : q.job? ≠ none) : stage = .buildImage := by
  have hmakes : stage.Makes .job := by
    cases h with
    | @create k _ hk =>
      cases k with
      | job => exact hk
      | environment | environmentConfig | secret | deployment | service | ingress =>
        exact absurd rfl hq
    | @delete k _ _ hk =>
      cases k with
      | job => exact hk
      | environment | environmentConfig | secret | deployment | service | ingress =>
        exact absurd rfl hq
    | replace | tags => exact absurd rfl hq
  exact hmakes.stage_eq_of_job

theorem made?_of_deleteStaleJob {job : Job}
    (hx : x ∈ (deleteStaleJob job).exchanged World.answer w) :
    Query.made? x = none := by
  unfold deleteStaleJob at hx
  split at hx
  · cases hx
  · rename_i key _
    rw [Dialogue.exchanged_bind] at hx
    rcases List.mem_append.mp hx with hx | hx
    · obtain rfl := List.mem_singleton.mp hx
      rfl
    · split at hx <;> cases hx

/-- What is exchanged where a job is made: the removal of a stale one, and the creation. -/
theorem exchanged_buildImage (c : Collection) (status : EnvironmentStatus) (w : World) :
    ∃ xs ys, (c.buildImage status).exchanged World.answer w = xs ++ ys ∧
      (∀ x ∈ xs, Query.made? x = none) ∧
      (ys = [] ∨ ∃ w₁, ys = (c.createJob status).exchanged World.answer w₁ ∧
        (c.buildImage status).inWorld w = (c.createJob status).inWorld w₁) := by
  unfold buildImage
  split
  · exact ⟨[], _, rfl, List.forall_mem_nil _, .inr ⟨w, rfl, rfl⟩⟩
  · rename_i job _
    split
    · exact ⟨[], [], rfl, List.forall_mem_nil _, .inl rfl⟩
    · rcases hdelete : (deleteStaleJob job).run World.answer w with ⟨r, w₁⟩
      rw [Dialogue.exchanged_bind, hdelete]
      refine ⟨_, _, rfl, fun x => made?_of_deleteStaleJob, ?_⟩
      cases r with
      | error e => exact .inl rfl
      | ok u => exact .inr ⟨w₁, rfl, Dialogue.inWorld_bind hdelete⟩

theorem madeLast_step (c : Collection) (status : EnvironmentStatus) (stage : Stage) (w : World)
    (key : ObjectKey) : MadeLast key ((c.step status stage).exchanged World.answer w) := by
  by_cases hstage : stage = .buildImage
  · subst hstage
    obtain ⟨xs, ys, hexchanged, hxs, hys⟩ := exchanged_buildImage c status w
    change MadeLast key ((c.buildImage status).exchanged World.answer w)
    rw [hexchanged]
    refine .append (.of_none hxs) ?_ ?_
    · rcases hys with rfl | ⟨w₁, rfl, _⟩
      · exact .nil
      · exact List.pairwise_singleton _ _
    · rintro ⟨x, hx, hmade⟩
      cases (hxs x hx).symm.trans hmade
  · refine .of_none fun x hx => Query.made?_of_job? ?_
    exact Classical.not_not.mp fun hq =>
      hstage ((Pass.asked_step (Dialogue.mem_asked hx)).eq_buildImage hq)

theorem next_of_made (hx : x ∈ (c.step status stage).exchanged World.answer w)
    (hmade : Query.made? x = some key) :
    stage = .buildImage ∧ ((c.step status stage).inWorld w).1.next = .buildImageWait := by
  have hasks := Pass.asked_step (Dialogue.mem_asked hx)
  obtain rfl := hasks.eq_buildImage (by simp [Query.job?_of_made? hmade])
  obtain ⟨xs, ys, hexchanged, hxs, hys⟩ := exchanged_buildImage c status w
  change x ∈ (c.buildImage status).exchanged World.answer w at hx
  change _ ∧ ((c.buildImage status).inWorld w).1.next = .buildImageWait
  rw [hexchanged] at hx
  rcases List.mem_append.mp hx with hx | hx
  · cases (hxs x hx).symm.trans hmade
  · rcases hys with rfl | ⟨w₁, rfl, hrun⟩
    · cases hx
    · obtain rfl := List.mem_singleton.mp hx
      rcases ha : w₁.request (.create .job c.target.job) with ⟨e | v, w₂⟩
      · have hrefused : (World.answer (.store (.create .job c.target.job)) w₁).1 = .error e :=
          congrArg Prod.fst ha
        rw [hrefused] at hmade
        cases hmade
      · have hcreate : (c.createJob status).inWorld w₁ = (afterCreate status (.ok v), w₂) :=
          Dialogue.inWorld_bind ha
        rw [hrun, hcreate]
        exact ⟨rfl, rfl⟩

/-- A job is made or removed only where none of the right shape has been found. -/
theorem unbuilt_of_asked (hq : q ∈ (c.step status stage).asked World.answer w)
    (hjob : q.job? ≠ none) :
    stage = .buildImage ∧ ∀ job, c.snapshot.job = some job → job.sameShape c.target.job =
      false := by
  obtain rfl := (Pass.asked_step hq).eq_buildImage hjob
  refine ⟨rfl, fun job hj => Bool.eq_false_iff.mpr fun hshape => ?_⟩
  rw [step_of_sameShape hj hshape] at hq
  cases hq

end Collection

namespace Pass
variable {settings : Settings} {now : Instant} {key : ObjectKey} {m : PassMemory} {w : World}
  {q : Query} {x : (q : Query) × q.Answer}

theorem job?_of_finish {before : EnvironmentStatus} {t : Transition}
    (hx : x ∈ (finish settings now key before m t).exchanged World.answer w) : x.1.job? = none := by
  obtain ⟨st, hst⟩ := asked_finish (Dialogue.mem_asked hx)
  rw [hst]
  rfl

theorem job?_of_collect
    (hx : x ∈ (Collection.collect settings.configNamespace settings.defaults key).run.exchanged
    World.answer w) : x.1.job? = none :=
  Query.job?_of_collects (World.answers_answer.asked_collect (Dialogue.mem_asked hx))

variable (settings now key m w) in
/-- Within a pass nothing is asked about a job after it has been made. -/
theorem madeLast (key' : ObjectKey) :
    MadeLast key' ((run settings now key m).exchanged World.answer w) := by
  have hcollect :
      ∀ x ∈ (Collection.collect settings.configNamespace settings.defaults key).run.exchanged
      World.answer w, Query.made? x = none := fun x hx => Query.made?_of_job? (job?_of_collect hx)
  rcases parts settings now key m w with hnone | ⟨c, stage, t, w₀, w₁, _, _, hexchanged⟩
  · rw [hnone]
    exact .of_none hcollect
  · rw [hexchanged]
    refine .append (.of_none hcollect) (.append (c.madeLast_step _ stage w₀ key') ?_ ?_) ?_
    · exact .of_none fun x hx => Query.made?_of_job? (job?_of_finish hx)
    · intro _ y hy hjob
      cases (job?_of_finish hy).symm.trans hjob
    · rintro ⟨x, hx, hmade⟩
      cases (hcollect x hx).symm.trans hmade

/-- What a pass asks about jobs is asked by its step, while it builds and has found no job of the
right shape. -/
theorem unbuilt_of_exchanged (hx : x ∈ (run settings now key m).exchanged World.answer w)
    (hjob : x.1.job? ≠ none) :
    ∃ e c, Finds settings key w e c .buildImage ∧ c.Asks .buildImage x.1 ∧ c.snapshot.Unbuilt := by
  rcases parts settings now key m w with hnone | ⟨c, stage, t, w₀, w₁, hd, hstep, hexchanged⟩
  · rw [hnone] at hx
    exact absurd (job?_of_collect hx) hjob
  · rw [hexchanged] at hx
    rcases List.mem_append.mp hx with hx | hx
    · exact absurd (job?_of_collect hx) hjob
    · rcases List.mem_append.mp hx with hx | hx
      · have hq := Dialogue.mem_asked hx
        obtain ⟨rfl, hunbuilt⟩ := Collection.unbuilt_of_asked hq hjob
        obtain ⟨e, ht, _⟩ := hd.takes
        refine ⟨e, c, ht.toFinds, asked_step hq, ?_⟩
        rw [ht.target] at hunbuilt
        exact hunbuilt
      · exact absurd (job?_of_finish hx) hjob

theorem stored_of_made {key' : ObjectKey}
    (hx : x ∈ (run settings now key m).exchanged World.answer w)
    (hmade : Query.made? x = some key') : ∃ y : Snapshot,
      y.Reflects settings.configNamespace settings.defaults key w.store ∧ key' = key.own .job ∧
      ((run settings now key m).inWorld w).2.store.stored? .job key' = some y.target.job := by
  have hjob := Query.job?_of_made? hmade
  rcases parts settings now key m w with hnone | ⟨c, stage, t, w₀, w₁, hd, hstep, hexchanged⟩
  · rw [hnone] at hx
    cases (job?_of_collect hx).symm.trans hjob
  · rw [hexchanged] at hx
    rcases List.mem_append.mp hx with hx | hx
    · cases (job?_of_collect hx).symm.trans hjob
    · rcases List.mem_append.mp hx with hx | hx
      · obtain ⟨rfl, hnext⟩ := Collection.next_of_made hx hmade
        rw [hstep] at hnext
        obtain ⟨e, ht, _⟩ := hd.takes
        have hbuilt := ht.built rfl hnext
        obtain ⟨_, _, hstores, _⟩ := finish_stores (hd.inWorld_run now m).symm
        have hkey : key' = key.own .job := by
          obtain ⟨q, a⟩ := x
          cases asked_step (Dialogue.mem_asked hx) with
          | @create k o hk ho =>
            obtain rfl : k = .job := hk
            have hown : Kind.job.keyOf o = .ok (key.own .job) := ht.keyOf_wanted ho
            have htold : (Kind.job.keyOf o).toOption = some key' := hjob
            rw [hown] at htold
            exact (Option.some.inj htold).symm
          | delete => cases hmade
          | replace | tags => cases hjob
        refine ⟨c.snapshot, ht.reflects, hkey, ?_⟩
        rw [hkey, ← ht.target, ← hbuilt]
        exact MemoryStore.stored?_congr (hstores.frame (by decide) _)
      · cases (job?_of_finish hx).symm.trans hjob

theorem stored?_job_of_unasked {key' : ObjectKey}
    (h : ∀ x ∈ (run settings now key m).exchanged World.answer w, x.1.job? ≠ some key') :
    ((run settings now key m).inWorld w).2.store.stored? .job key' = w.store.stored? .job key' := by
  refine MemoryStore.stored?_congr (Dialogue.get?_inWorld fun r hr hwrite hid => ?_)
  have hunasked : (Query.store r).job? ≠ some key' := by
    rw [← Dialogue.map_exchanged] at hr
    obtain ⟨x, hx, heq⟩ := List.mem_map.mp hr
    rw [← heq]
    exact h x hx
  cases asks hr with
  | collect hcollects => cases hcollects.not_isWrite.symm.trans hwrite
  | step _ hasks =>
    cases hasks with
    | @create k o =>
      obtain ⟨key'', htold, heq⟩ := Option.map_eq_some_iff.mp hid
      cases heq
      exact hunasked htold
    | @replace k o _ hne =>
      obtain ⟨key'', _, heq⟩ := Option.map_eq_some_iff.mp hid
      cases heq
      exact hne rfl
    | delete =>
      cases hid
      exact hunasked rfl
  | status => cases hid

end Pass
end EnvOperator
