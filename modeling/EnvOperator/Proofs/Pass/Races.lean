import EnvOperator.Proofs.Pass.Applying
import EnvOperator.Proofs.Run.Basic

/-! # Races

Somebody may change objects between the time when they are collected and the time when a step is
taken. The build takes this as it comes. A workload, however, is given up if an object that is
wanted has been made or removed in between.
-/
namespace EnvOperator

theorem MemoryStore.create_error_of_open {s s' : MemoryStore} {k : Kind} {key : ObjectKey}
    {o : k.Object} {e : StoreError} (hkey : k.keyOf o = .ok key) (hopen : k ∉ s.failingWrites)
    (h : s.create k o = (.error e, s')) : ∃ what, e = .alreadyExists what := by
  cases s.creation k o with
  | nameless hnone => cases hnone.symm.trans hkey
  | failing _ hk => exact absurd hk hopen
  | present _ _ _ hc =>
    cases hc.symm.trans h
    exact ⟨_, rfl⟩
  | made _ _ _ hc => cases hc.symm.trans h

theorem World.answer_of_not_onWorkload {w w' : World} {r : Request} {a : r.Answer}
    (hw : w.Contended) (hr : ¬ r.method.OnWorkload) (h : w.request r = (a, w')) :
    w.store.answer r = (a, w'.store) := by
  rw [request_of_contended hw hr] at h
  cases h
  rfl

namespace Collection
variable {configNamespace : String} {defaults : Defaults} {key : ObjectKey} {c : Collection}
  {w w₁ : World} {status : EnvironmentStatus}

theorem Found.keyed {s : MemoryStore} (h : Found configNamespace defaults key s (some c))
    (hs : s.WellKeyed) : c.Keyed key := by
  intro k hk
  have hown := own_of_makes hk key
  refine ⟨fun o ho => ?_, fun o ho => ?_⟩
  · have hstored := h.1.stored_eq hk.isMade
    rw [← hown]
    exact hs.keyOf_stored (hstored.trans ho)
  · rw [keyOf_wanted h.2 ho, h.1.key_eq, hown]

theorem createJob_next (htarget : c.target = c.snapshot.target) (hw : w.Contended)
    (hopen : w.store.failingWrites = []) :
    ((c.createJob status).inWorld w).1.next ∈ [.buildImage, .buildImageWait, .deploy] := by
  have hkey : Kind.job.keyOf c.target.job = .ok _ := keyOf_wanted htarget rfl
  rcases ha : w.request (.create .job c.target.job) with ⟨e | v, w'⟩
  · have hcreate : (c.createJob status).inWorld w = (afterCreate status (.error e), w') :=
      Dialogue.inWorld_bind ha
    have hstore := World.answer_of_not_onWorkload hw
      (by simp [Method.OnWorkload, Request.method, Stage.Makes]) ha
    obtain ⟨what, rfl⟩ := MemoryStore.create_error_of_open hkey (by simp [hopen]) hstore
    rw [hcreate]
    simp [afterCreate, Transition.move]
  · have hcreate : (c.createJob status).inWorld w = (afterCreate status (.ok v), w') :=
      Dialogue.inWorld_bind ha
    rw [hcreate]
    simp [afterCreate, Transition.move]

/-- A stale job is gone after it has been deleted, whoever has deleted it. -/
theorem deleteStaleJob_inWorld {job : Job} {key' : ObjectKey} (hkey : Kind.job.keyOf job = .ok key')
    (hw : w.Contended) : ∃ w', (deleteStaleJob job).inWorld w = (.ok (), w') ∧ w.Subsides w' ∧
      w'.store.objects.get? ⟨.job, key'⟩ = none := by
  have hofMeta : ObjectKey.ofMeta job.metadata = .ok key' := hkey
  have hsub := World.subsides_request (.delete .job key') w
  unfold deleteStaleJob
  rw [hofMeta]
  rcases ha : w.request (.delete .job key') with ⟨e | u, w'⟩ <;> rw [ha] at hsub
  · have hstore := World.answer_of_not_onWorkload hw
      (by simp [Method.OnWorkload, Request.method, Stage.Makes]) ha
    obtain ⟨hgone, habsent⟩ := MemoryStore.delete_error hstore
    have hasked : (Dialogue.request (.delete .job key')).inWorld w = (.error e, w') := ha
    refine ⟨w', (Dialogue.inWorld_bind hasked).trans ?_, hsub, ?_⟩
    · dsimp only
      rw [hgone]
      rfl
    · rw [World.objects_of_error ha]
      exact habsent
  · have hasked : (Dialogue.request (.delete .job key')).inWorld w = (.ok u, w') := ha
    refine ⟨w', Dialogue.inWorld_bind hasked, hsub, ?_⟩
    rw [World.delete_ok ha]
    simp

/-- Building goes on whatever others have done to the job. -/
theorem buildImage_next (htarget : c.target = c.snapshot.target)
    (hjob : ∀ job, c.snapshot.job = some job → ∃ key', Kind.job.keyOf job = .ok key')
    (hw : w.Contended) (hopen : w.store.failingWrites = []) :
    ((c.buildImage status).inWorld w).1.next ∈ [.buildImage, .buildImageWait, .deploy] := by
  unfold buildImage
  split
  · exact createJob_next htarget hw hopen
  · rename_i job hj
    split
    · exact List.mem_cons_of_mem _ (List.mem_cons_of_mem _ List.mem_cons_self)
    · obtain ⟨key', hkey⟩ := hjob job hj
      obtain ⟨w', hdeleted, hsub, _⟩ := deleteStaleJob_inWorld hkey hw
      rw [Dialogue.inWorld_bind hdeleted]
      exact createJob_next htarget (hsub.contended hw) (hsub.failingWrites.trans hopen)

/-- An object of the workload is wanted that has come or gone since it was looked for. -/
def Overtaken (c : Collection) (key : ObjectKey) (s : MemoryStore) : Prop :=
  ∃ k, Stage.deploy.Makes k ∧ (c.wanted k).isSome ∧ (c.snapshot.found k).isSome ≠
    s.objects.contains ⟨k, key⟩

theorem not_overtaken (hopen : w.store.failingWrites = []) : ¬ c.Overtaken key w.store ↔
    ∀ k, Stage.deploy.Makes k → w.store.Admits k key (c.snapshot.found k) (c.wanted k) := by
  simp [Overtaken, MemoryStore.Admits, hopen]

/-- A workload is given up where it has been overtaken, and applied otherwise. -/
theorem deploy_next (hkeyed : c.Keyed key) (hw : w.Calm) (hopen : w.store.failingWrites = []) :
    c.Overtaken key w.store ∧ ((c.deploy status).inWorld w).1.next = .deploymentFailed ∨
      ¬ c.Overtaken key w.store ∧ ((c.deploy status).inWorld w).1.next = .deployVerify := by
  rcases h : (c.applyAll workloadKinds).run.inWorld w with ⟨r, w'⟩
  rw [deploy_inWorld status h]
  cases (applyAll_applied hw.contended hkeyed (fun k => mem_workloadKinds.mp) (by decide) h).1 with
  | done ha =>
    have hnot := (not_overtaken hopen).mpr fun k hk => ha k (mem_workloadKinds.mpr hk)
    exact .inr ⟨hnot, rfl⟩
  | lost _ hcalm => exact absurd hw hcalm
  | @refused e k hk hc ha =>
    have hover : c.Overtaken key w.store := by
      apply Classical.not_not.mp
      intro hnot
      exact ha ((not_overtaken hopen).mp hnot k (mem_workloadKinds.mp hk))
    refine .inl ⟨hover, ?_⟩
    cases e with
    | conflict => cases hc
    | notFound | alreadyExists | invalid | serialization | api => rfl

/-- However the world has changed since an environment was collected from a store of well-keyed
documents, as long as nothing fails by itself: building goes on, and the workload is applied, unless
an object that is wanted has come or gone in the meantime. In that case it is given up. -/
theorem step_after_race {w₀ w₀' : World} (hkeys : w₀.store.WellKeyed)
    (hcollect : (collect configNamespace defaults key).run.inWorld w₀ = (.ok (some c), w₀'))
    (hcalm : w.Calm) (hopen : w.store.failingWrites = []) (status : EnvironmentStatus) :
    ((c.step status .buildImage).inWorld w).1.next ∈ [.buildImage, .buildImageWait, .deploy] ∧
    (c.Overtaken key w.store ∧ ((c.step status .deploy).inWorld w).1.next = .deploymentFailed ∨
      ¬ c.Overtaken key w.store ∧ ((c.step status .deploy).inWorld w).1.next = .deployVerify) := by
  obtain ⟨hfound, _⟩ := World.collect_effect hcollect
  refine ⟨buildImage_next hfound.2 (fun job hj => ?_) hcalm.contended hopen,
    deploy_next (hfound.keyed hkeys) hcalm hopen⟩
  have hstored := hfound.1.stored_eq (k := .job) (.inl rfl)
  exact ⟨_, hkeys.keyOf_stored (hstored.trans hj)⟩

end Collection

namespace Sample

theorem wellKeyed_first : first.world.store.WellKeyed := by
  let s : MemoryStore :=
    { objects := .ofList [(⟨.environment, key⟩, Environment.codec.encode environment)] }
  have henvironment : ({} : MemoryStore).put .environment .environment environment = .ok s := rfl
  have hconfig : s.put .environmentConfig .environmentConfig config = .ok first.world.store := rfl
  exact (MemoryStore.wellKeyed_empty.put henvironment).put hconfig

def collecting : Except PassError (Option Collection) × World :=
  (Collection.collect "kiln-system" {} key).run.inWorld first.world

def make (k : Kind) (key : ObjectKey) (o : k.Object) (w : World) : World :=
  { w with store.objects := w.store.objects.insert ⟨k, key⟩ (k.codec.encode o) }

/-- Somebody makes the job and a service that nobody wants. -/
def crowded : World :=
  make .service key { metadata := { name := some "web", ns := some "dev" } }
    (make .job (key.own .job) { metadata := { name := some "web-build", ns := some "dev" } }
      first.world)

def overtaken : World :=
  make .deployment key { metadata := { name := some "web", ns := some "dev" } } first.world

end Sample

set_option maxRecDepth 100000 in
/-- A job that has come in the meantime is met again by the next pass, and a service does no
harm. -/
theorem Collection.step_after_race_crowded : ∃ c w₀', Sample.first.world.store.WellKeyed ∧
    Sample.collecting = (.ok (some c), w₀') ∧ Sample.crowded.Calm ∧
    Sample.crowded.store.failingWrites = [] ∧
    ((c.step {} .buildImage).inWorld Sample.crowded).1.next ∈
      [.buildImage, .buildImageWait, .deploy] ∧
    ¬ c.Overtaken Sample.key Sample.crowded.store ∧
    ((c.step {} .deploy).inWorld Sample.crowded).1.next = .deployVerify := by
  have hnext : (Sample.collecting.1.toOption.join.map fun c =>
      ((c.step {} .deploy).inWorld Sample.crowded).1.next) =
      some .deployVerify := by decide +kernel
  obtain ⟨c, hc, hdeploy⟩ := Option.map_eq_some_iff.mp hnext
  have hcollected : Sample.collecting.1 = .ok (some c) :=
    Except.ok_of_toOption (Option.join_eq_some_iff.mp hc)
  have hcollect : Sample.collecting = (.ok (some c), Sample.collecting.2) := Prod.ext hcollected rfl
  obtain ⟨hbuild, hover | hnot⟩ :=
    step_after_race (w := Sample.crowded) Sample.wellKeyed_first hcollect ⟨rfl, rfl⟩ rfl {}
  · rw [hdeploy] at hover
    cases hover.2
  · exact ⟨c, _, Sample.wellKeyed_first, hcollect, ⟨rfl, rfl⟩, rfl, hbuild, hnot⟩

set_option maxRecDepth 100000 in
/-- A deployment that has come in the meantime ends the pipeline. -/
theorem Collection.given_up_after_race : ∃ c w₀', Sample.first.world.store.WellKeyed ∧
    Sample.collecting = (.ok (some c), w₀') ∧ c.snapshot.revision = some "1" ∧
    Sample.overtaken.Calm ∧
    Sample.overtaken.store.failingWrites = [] ∧
    ((c.step {} .deploy).inWorld Sample.overtaken).1.next = .deploymentFailed := by
  have hnext : (Sample.collecting.1.toOption.join.map fun c =>
      (c.snapshot.revision, ((c.step {} .deploy).inWorld Sample.overtaken).1.next)) =
      some (some "1", .deploymentFailed) := by decide +kernel
  obtain ⟨c, hc, hstep⟩ := Option.map_eq_some_iff.mp hnext
  have hcollected : Sample.collecting.1 = .ok (some c) :=
    Except.ok_of_toOption (Option.join_eq_some_iff.mp hc)
  exact ⟨c, _, Sample.wellKeyed_first, Prod.ext hcollected rfl, congrArg Prod.fst hstep,
    ⟨rfl, rfl⟩, rfl, congrArg Prod.snd hstep⟩

end EnvOperator
