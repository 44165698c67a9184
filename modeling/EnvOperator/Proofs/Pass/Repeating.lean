import EnvOperator.Proofs.Pass.Course
import EnvOperator.Proofs.Pass.Interrupted

/-! # Steps that are taken again

When a pass cannot store its status, its step is taken again by the next one. Nothing is in the way
of what has been made by then, so that where nothing fails the step leads where it has led before,
or beyond the build job that it made.
-/
namespace EnvOperator

/-- Waiting begins after a job or a deployment has been made, and goes on by looking. -/
theorem Stage.waiting_of_mem_successors {stage next : Stage} (h : next ∈ stage.successors)
    (hw : next.isWaiting = true) : stage = .buildImage ∧ next = .buildImageWait ∨
      stage = .deploy ∧ next = .deployVerify ∨ stage ≠ .buildImage ∧ stage.isWaiting = true := by
  cases next <;> cases hw <;> cases stage <;> simp_all [successors, isWaiting]

structure World.Working (w : World) : Prop where
  calm : w.Calm
  failingWrites : w.store.failingWrites = []

theorem World.Working.subsides {w w' : World} (h : w.Working) (hs : w.Subsides w') : w'.Working :=
  ⟨hs.calm h.calm, hs.failingWrites.trans h.failingWrites⟩

theorem Dialogue.subsides_inWorld {α : Type} (d : Dialogue α) (w : World) :
    w.Subsides (d.inWorld w).2 := by
  induction d generalizing w with
  | done a => exact .refl w
  | ask q next ih =>
    refine World.Subsides.trans ?_ (ih _ _)
    cases q with
    | store r => exact World.subsides_request r w
    | tags => exact .refl w

theorem World.Working.answer {w w' : World} {r : Request} {a : r.Answer} (h : w.Working)
    (ha : w.request r = (a, w')) : w.store.answer r = (a, w'.store) := by
  rw [World.request_of_calm h.calm] at ha
  cases ha
  rfl

namespace Writing
variable {k : Kind} {key : ObjectKey} {found wanted : Option k.Object} {o existing : k.Object}
  {w w' : World}

theorem delete_ok (h : (delete k existing).run.inWorld w = (.ok (), w')) :
    ∃ key', k.keyOf existing = .ok key' ∧
    (w'.store.objects = w.store.objects ∨ w'.store.objects = w.store.objects.erase ⟨k, key'⟩) := by
  cases hkey : k.keyOf existing with
  | error e =>
    unfold delete at h
    rw [hkey] at h
    cases h
  | ok key' =>
    refine ⟨key', rfl, ?_⟩
    have hrun := (delete_inWorld hkey w).symm.trans h
    rcases ha : w.request (.delete k key') with ⟨e | u, w₁⟩ <;> rw [ha] at hrun
    · cases congrArg Prod.snd hrun
      exact .inl (World.objects_of_error ha)
    · cases hrun
      exact .inr (World.delete_ok ha)

/-- What applying an object has left when it has succeeded, whatever may have failed: what was found
or what is wanted, and every object of another kind. -/
structure Left (k : Kind) (key : ObjectKey) (found wanted : Option k.Object) (w w' : World) :
    Prop where
  frame : ∀ k' ≠ k, ∀ key', w'.store.objects.get? ⟨k', key'⟩ = w.store.objects.get? ⟨k', key'⟩
  read : ∃ found', w'.store.read k key = .ok found' ∧ (found' = found ∨ found' = wanted)
  keyed : wanted = none → ∀ o, found = some o → ∃ key', k.keyOf o = .ok key'

theorem left_of_insert (hkey : k.keyOf o = .ok key) {key' : ObjectKey}
    (hkey' : k.keyOf o = .ok key')
    (ho : w'.store.objects = w.store.objects.insert ⟨k, key'⟩ (k.codec.encode o)) :
    Left k key found (some o) w w' where
  frame k' hk' key'' := by simp [ho, ObjectId.ne_of_kind hk' key'' key']
  read := by
    cases hkey.symm.trans hkey'
    exact ⟨some o, MemoryStore.read_eq_some.mpr (MemoryStore.stored?_of_insert ho), .inr rfl⟩
  keyed := nofun

theorem apply_left (hread : w.store.read k key = .ok found)
    (hwanted : ∀ o, wanted = some o → k.keyOf o = .ok key)
    (h : (apply k found wanted).run.inWorld w = (.ok (), w')) : Left k key found wanted w w' := by
  cases wanted with
  | some o =>
    cases found with
    | none =>
      obtain ⟨v, hv⟩ := request_ok h
      obtain ⟨key', hkey', ho⟩ := World.create_ok hv
      exact left_of_insert (hwanted o rfl) hkey' ho
    | some existing =>
      obtain ⟨v, hv⟩ := request_ok h
      obtain ⟨key', hkey', ho⟩ := World.replace_ok hv
      exact left_of_insert (hwanted o rfl) hkey' ho
  | none =>
    cases found with
    | none =>
      cases h
      exact ⟨fun _ _ _ => rfl, ⟨none, hread, .inl rfl⟩, nofun⟩
    | some existing =>
      obtain ⟨key', hkey', ho⟩ := delete_ok h
      refine ⟨fun k' hk' key'' => ?_, ?_, fun _ o ho' => ?_⟩
      · rcases ho with ho | ho <;> simp [ho, ObjectId.ne_of_kind hk' key'' key']
      · rcases ho with ho | ho
        · exact ⟨some existing, by rwa [MemoryStore.read_congr (s := w.store) (by rw [ho])],
            .inl rfl⟩
        · by_cases hkey : key = key'
          · exact ⟨none, MemoryStore.read_eq_none.mpr (by simp [ho, hkey]), .inr rfl⟩
          · refine ⟨some existing, ?_, .inl rfl⟩
            rwa [MemoryStore.read_congr (s := w.store) (by simp [ho, hkey])]
      · cases ho'
        exact ⟨key', hkey'⟩

theorem request_of_working {q : Request} (hw : w.Working)
    (hq : ∀ e s', w.store.answer q ≠ (.error e, s')) :
    ∃ w', (request q).run.inWorld w = (.ok (), w') ∧ w'.Working := by
  have hsub := World.subsides_request q w
  rcases ha : w.request q with ⟨e | v, w₁⟩
  · exact absurd (hw.answer ha) (hq e _)
  · rw [ha] at hsub
    exact ⟨w₁, by rw [request_inWorld, ha]; rfl, hw.subsides hsub⟩

theorem apply_of_working (hw : w.Working) (hread : w.store.read k key = .ok found)
    (hwanted : ∀ o, wanted = some o → k.keyOf o = .ok key)
    (hkeyed : wanted = none → ∀ o, found = some o → ∃ key', k.keyOf o = .ok key') :
    ∃ w', (apply k found wanted).run.inWorld w = (.ok (), w') ∧ w'.Working := by
  have hadmits : w.store.Admits k key found wanted := fun _ =>
    ⟨by simp [hw.failingWrites], MemoryStore.isSome_of_read hread⟩
  cases wanted with
  | some o =>
    cases found with
    | none =>
      exact request_of_working hw fun e s' h =>
        (MemoryStore.create_error (hwanted o rfl) h).2 hadmits
    | some existing =>
      refine request_of_working hw fun e s' h => ?_
      rcases MemoryStore.replace_error existing (hwanted o rfl) h with ⟨_, hconflicts⟩ | ⟨_, hnot⟩
      · exact hconflicts hw.calm.conflicts
      · exact hnot hadmits
  | none =>
    cases found with
    | none => exact ⟨w, rfl, hw⟩
    | some existing =>
      obtain ⟨key', hkey'⟩ := hkeyed rfl existing rfl
      have hsub := World.subsides_request (.delete k key') w
      have hrun := delete_inWorld hkey' w
      rcases ha : w.request (.delete k key') with ⟨e | u, w₁⟩ <;> rw [ha] at hsub hrun
      · refine ⟨w₁, hrun.trans ?_, hw.subsides hsub⟩
        rw [deleted, (MemoryStore.delete_error (hw.answer ha)).1]
        rfl
      · exact ⟨w₁, hrun, hw.subsides hsub⟩

end Writing

namespace Collection
variable {c : Collection} {key : ObjectKey} {ks : List Kind} {w w' : World}

/-- What applying objects of some kinds has left when it has succeeded. -/
theorem applyAll_left (hnodup : ks.Nodup)
    (hread : ∀ k ∈ ks, w.store.read k key = .ok (c.snapshot.found k))
    (hwanted : ∀ k ∈ ks, ∀ o, c.wanted k = some o → k.keyOf o = .ok key)
    (h : (c.applyAll ks).run.inWorld w = (.ok (), w')) :
    (∀ k ∉ ks, ∀ key', w'.store.objects.get? ⟨k, key'⟩ = w.store.objects.get? ⟨k, key'⟩) ∧
    ∀ k ∈ ks, (∃ found, w'.store.read k key = .ok found ∧
      (found = c.snapshot.found k ∨ found = c.wanted k)) ∧
      (c.wanted k = none → ∀ o, c.snapshot.found k = some o → ∃ key', k.keyOf o = .ok key') := by
  induction ks generalizing w with
  | nil =>
    cases h
    exact ⟨fun _ _ _ => rfl, nofun⟩
  | cons k ks ih =>
    obtain ⟨hk, hnodup⟩ := List.nodup_cons.mp hnodup
    rcases applyAll_cons h with ⟨e, he, _⟩ | ⟨w₁, ha, hb⟩
    · cases he
    · have hleft :=
        Writing.apply_left (hread k List.mem_cons_self) (hwanted k List.mem_cons_self) ha
      have hread' (k' : Kind) (hk' : k' ∈ ks) :
          w₁.store.read k' key = .ok (c.snapshot.found k') := by
        rw [MemoryStore.read_congr (hleft.frame k' (ne_of_mem_of_not_mem hk' hk) key)]
        exact hread k' (List.mem_cons_of_mem _ hk')
      obtain ⟨hframe, hkinds⟩ :=
        ih hnodup hread' (fun k' hk' => hwanted k' (List.mem_cons_of_mem _ hk')) hb
      refine ⟨fun k' hk' key' => ?_, fun k' hk' => ?_⟩
      · obtain ⟨hne, hk'⟩ := not_or.mp (mt List.mem_cons.mpr hk')
        rw [hframe k' hk', hleft.frame k' hne]
      · rcases List.mem_cons.mp hk' with rfl | hk'
        · obtain ⟨found, hfound, hcases⟩ := hleft.read
          exact ⟨⟨found, by rwa [MemoryStore.read_congr (hframe k' hk key)], hcases⟩, hleft.keyed⟩
        · exact hkinds k' hk'

theorem applyAll_of_working (hw : w.Working) (hnodup : ks.Nodup)
    (hread : ∀ k ∈ ks, w.store.read k key = .ok (c.snapshot.found k))
    (hwanted : ∀ k ∈ ks, ∀ o, c.wanted k = some o → k.keyOf o = .ok key)
    (hkeyed : ∀ k ∈ ks, c.wanted k = none → ∀ o, c.snapshot.found k = some o →
      ∃ key', k.keyOf o = .ok key') :
    ∃ w', (c.applyAll ks).run.inWorld w = (.ok (), w') := by
  induction ks generalizing w with
  | nil => exact ⟨w, rfl⟩
  | cons k ks ih =>
    obtain ⟨hk, hnodup⟩ := List.nodup_cons.mp hnodup
    have hk' (k' : Kind) (hk' : k' ∈ ks) := List.mem_cons_of_mem k hk'
    obtain ⟨w₁, ha, hw₁⟩ :=
      Writing.apply_of_working hw (hread k List.mem_cons_self) (hwanted k List.mem_cons_self)
      (hkeyed k List.mem_cons_self)
    have hleft := Writing.apply_left (hread k List.mem_cons_self) (hwanted k List.mem_cons_self) ha
    have hread' (k' : Kind) (hk' : k' ∈ ks) : w₁.store.read k' key = .ok (c.snapshot.found k') := by
      rw [MemoryStore.read_congr (hleft.frame k' (ne_of_mem_of_not_mem hk' hk) key)]
      exact hread k' (List.mem_cons_of_mem _ hk')
    obtain ⟨w', hb⟩ := ih hw₁ hnodup hread' (fun k' hk => hwanted k' (hk' k' hk)) fun k' hk =>
      hkeyed k' (hk' k' hk)
    exact ⟨w', (Dialogue.inWorld_bind ha).trans hb⟩

theorem step_of_waiting {stage : Stage} (h : stage.isWaiting = true) (c : Collection)
    (status : EnvironmentStatus) : ∃ t, c.step status stage = pure t := by
  cases stage <;> cases h <;> exact ⟨_, rfl⟩

theorem eq_ok_of_afterApply {status : EnvironmentStatus} {a : Except PassError Unit}
    (h : (afterApply status a).next.isWaiting = true) : a = .ok () := by
  unfold afterApply at h
  split at h
  · rfl
  · cases h
  · cases h

theorem step_of_sameShape {job : Job} (hj : c.snapshot.job = some job)
    (hs : job.sameShape c.target.job = true) (status : EnvironmentStatus) :
    c.step status .buildImage = pure (.move status .deploy) := by
  change c.buildImage status = _
  unfold buildImage
  rw [hj]
  exact if_pos hs

end Collection

namespace Pass
variable {settings : Settings} {key : ObjectKey} {w w₁ w₂ : World} {c : Collection} {stage : Stage}
  {t : Transition}

theorem Dispatches.subsides (hd : Dispatches World.answer settings key w c stage t w₁) :
    w.Subsides w₁ := by
  obtain ⟨w₀, hcollect, hstep⟩ := hd.step
  have hs := Dialogue.subsides_inWorld
    (Collection.collect settings.configNamespace settings.defaults key).run w
  have hs' := Dialogue.subsides_inWorld (c.step { c.status with stage } stage) w₀
  rw [show Dialogue.inWorld _ w = _ from hcollect] at hs
  rw [show Dialogue.inWorld _ w₀ = _ from hstep] at hs'
  exact hs.trans hs'

theorem led_of_reflects {x : Snapshot} (hw : w.Contended)
    (hx : x.Reflects settings.configNamespace settings.defaults key w.store)
    (hturn : x.environment.statusOrInitial.turn x.revision = some stage) :
    led World.answer settings key w =
      some (((Collection.mk x x.target).step { x.environment.statusOrInitial with stage }
        stage).inWorld w).1.next := by
  have hcollect : (Collection.collect settings.configNamespace settings.defaults key).run.run
      World.answer w =
      (.ok (some ⟨x, x.target⟩), w) := collect_of_reflects hw hx
  unfold led
  rw [hcollect]
  dsimp only [Collection.status]
  rw [hturn]
  rfl

theorem Dispatches.steps (hd : Dispatches World.answer settings key w c stage t w₁) :
    c.snapshot.Reflects settings.configNamespace settings.defaults key w.store ∧
    c = ⟨c.snapshot, c.snapshot.target⟩ ∧
    c.Steps { c.status with stage } stage w t w₁ ∧
    ∃ w₀, w.Same w₀ ∧ (c.step { c.status with stage } stage).inWorld w₀ = (t, w₁) := by
  obtain ⟨w₀, hcollect, hstep⟩ := hd.step
  obtain ⟨⟨hx, htarget⟩, hs⟩ := World.answers_answer.collected hcollect
  refine ⟨hx, ?_, (Collection.steps htarget hstep).of_same hs, w₀, hs, hstep⟩
  rw [← htarget]

section
variable {x : Snapshot} {status : EnvironmentStatus}
  (hx : x.Reflects settings.configNamespace settings.defaults key w.store)
  (hturn : x.environment.statusOrInitial.turn x.revision = some stage)
  (hw : w₂.Working)
include hx hturn hw

/-- A step that only looks leads to the same again. -/
theorem led_again_of_pure (ho : w₂.store.objects = w.store.objects)
    (hstep : (Collection.mk x x.target).step { x.environment.statusOrInitial with stage } stage =
      pure t) :
    led World.answer settings key w₂ = some t.next := by
  have hx₂ : x.Reflects settings.configNamespace settings.defaults key w₂.store :=
    hx.of_made (fun _ _ => by rw [ho]) fun hk => by
      rw [MemoryStore.read_congr (s := w.store) (by rw [ho])]
      exact hx.found hk
  rw [led_of_reflects hw.calm.contended hx₂ hturn, hstep]
  rfl

/-- A build job that has been made is found and skipped. -/
theorem led_again_of_built (hstage : stage = .buildImage)
    (hsteps : (Collection.mk x x.target).Steps status stage w t w₁) (hn : t.next = .buildImageWait)
    (ho : w₂.store.objects = w₁.store.objects) :
    led World.answer settings key w₂ = some .deploy := by
  have hbuilt := hsteps.built hstage hn
  have hframe {k : Kind} (hk : ¬ stage.Makes k) (key' : ObjectKey) :
      w₂.store.objects.get? ⟨k, key'⟩ = w.store.objects.get? ⟨k, key'⟩ := by
    rw [ho]
    exact hsteps.changed.frame hk key'
  subst hstage
  have hx₂ : { x with job := some x.target.job }.Reflects settings.configNamespace settings.defaults
      key w₂.store := by
    refine hx.of_made (fun hk => hframe fun hm => hk hm.isMade) fun {k} hk => ?_
    by_cases hjob : k = .job
    · subst hjob
      rw [MemoryStore.read_congr (s := w₁.store) (by rw [ho])]
      have hkey : x.key = key := hx.key_eq
      rw [← hkey]
      exact MemoryStore.read_eq_some.mpr hbuilt
    · rw [MemoryStore.read_congr (hframe (k := k) hjob _)]
      have hfound := hx.found hk
      rcases hk with rfl | rfl | rfl | rfl
      · exact absurd rfl hjob
      · exact hfound
      · exact hfound
      · exact hfound
  have hsame : x.target.job.sameShape { x with job := some x.target.job }.target.job = true :=
    beq_self_eq_true x.target.job.shape
  rw [led_of_reflects hw.calm.contended hx₂ hturn, Collection.step_of_sameShape rfl hsame]
  rfl

end

/-- A workload that has been applied is applied again. -/
theorem led_again_of_applied {x : Snapshot}
    (hx : x.Reflects settings.configNamespace settings.defaults key w.store)
    (hturn : x.environment.statusOrInitial.turn x.revision = some .deploy) (hw : w₂.Working)
    (ha : ((Collection.mk x x.target).applyAll Collection.workloadKinds).run.inWorld w =
      (.ok (), w₁))
    (ho : w₂.store.objects = w₁.store.objects) :
    led World.answer settings key w₂ = some .deployVerify := by
  have hwanted (k : Kind) (hk : k ∈ Collection.workloadKinds) (o : k.Object)
      (hwants : (Collection.mk x x.target).wanted k = some o) : k.keyOf o = .ok key := by
    rw [Collection.keyOf_wanted rfl hwants,
      Collection.own_of_makes (Collection.mem_workloadKinds.mp hk)]
    exact congrArg _ hx.key_eq
  obtain ⟨hframe, hkinds⟩ :=
    Collection.applyAll_left (by decide) (fun _ => hx.found_workload) hwanted ha
  have hkept {k : Kind} (hk : k ∉ Collection.workloadKinds) (key' : ObjectKey) :
      w₂.store.objects.get? ⟨k, key'⟩ = w.store.objects.get? ⟨k, key'⟩ := by
    rw [ho]
    exact hframe k hk key'
  have hread {k : Kind} (hk : k ∈ Collection.workloadKinds) :
      ∃ found, w₂.store.read k key = .ok found ∧
      (found = x.found k ∨ found = (Collection.mk x x.target).wanted k) := by
    rw [MemoryStore.read_congr (s := w₁.store) (by rw [ho])]
    exact (hkinds k hk).1
  obtain ⟨deployment, hdeployment, hd⟩ := hread (k := .deployment) (by decide)
  obtain ⟨service, hservice, hs⟩ := hread (k := .service) (by decide)
  obtain ⟨ingress, hingress, hi⟩ := hread (k := .ingress) (by decide)
  let y : Snapshot := { x with deployment, service, ingress }
  have hy : y.Reflects settings.configNamespace settings.defaults key w₂.store := by
    refine hx.of_made (fun hk => hkept fun hmem => hk (Collection.mem_workloadKinds.mp hmem).isMade)
      fun {k} hk => ?_
    rcases hk with rfl | rfl | rfl | rfl
    · rw [MemoryStore.read_congr (hkept (by decide) _)]
      exact hx.found (.inl rfl)
    · exact hdeployment
    · exact hservice
    · exact hingress
  have hfollows : x.Follows y := by
    refine ⟨rfl, rfl, rfl, fun hk => ?_⟩
    rcases hk with rfl | rfl | rfl
    · exact hd
    · exact hs
    · exact hi
  have hwants {k : Kind} (hk : k ∈ Collection.workloadKinds) :
      (Collection.mk y y.target).wanted k = (Collection.mk x x.target).wanted k :=
    hfollows.wanted_eq (Collection.mem_workloadKinds.mp hk)
  obtain ⟨w', happlied⟩ : ∃ w',
    ((Collection.mk y y.target).applyAll Collection.workloadKinds).run.inWorld w₂ =
      (.ok (), w') := by
    refine Collection.applyAll_of_working hw (by decide) (fun _ => hy.found_workload)
      (fun k hk o ho => hwanted k hk o ((hwants hk).symm.trans ho)) fun k hk hnone o hfound => ?_
    rw [hwants hk] at hnone
    rcases hfollows.found (Collection.mem_workloadKinds.mp hk) with hkept | hdone
    · exact (hkinds k hk).2 hnone o (hkept.symm.trans hfound)
    · cases hfound.symm.trans (hdone.trans hnone)
  rw [led_of_reflects hw.calm.contended hy hturn]
  exact congrArg (fun p => some (Prod.fst p).next) (Collection.deploy_inWorld _ happlied)

/-- Where nothing fails by itself, a step that has led to waiting leads there again, unless it has
made a build job, which is found then. -/
theorem led_again (hd : Dispatches World.answer settings key w c stage t w₁)
    (hwaiting : t.next.isWaiting = true) (hw : w₂.Working)
    (ho : w₂.store.objects = w₁.store.objects) :
    led World.answer settings key w₂ = some (if stage = .buildImage then .deploy else t.next) := by
  obtain ⟨hx, hc, hsteps, w₀, hs, hstep⟩ := hd.steps
  have hturn := hd.turn
  obtain ⟨x, target⟩ := c
  obtain rfl : target = x.target := congrArg Collection.target hc
  change x.environment.statusOrInitial.turn x.revision = some stage at hturn
  rcases Stage.waiting_of_mem_successors hsteps.leads.next_mem hwaiting with
    ⟨rfl, hn⟩ | ⟨rfl, hn⟩ | ⟨hstage, hlooks⟩
  · exact led_again_of_built hx hturn hw rfl hsteps hn ho
  · rcases ha : ((Collection.mk x x.target).applyAll Collection.workloadKinds).run.inWorld w₀ with
      ⟨a, w'⟩
    cases (Collection.deploy_inWorld _ ha).symm.trans hstep
    obtain rfl := Collection.eq_ok_of_afterApply hwaiting
    exact led_again_of_applied (hs.1 ▸ hx) hturn hw ha ho
  · obtain ⟨t', ht'⟩ := (Collection.mk x x.target).step_of_waiting hlooks
      { x.environment.statusOrInitial with stage }
    have hdone := (congrArg (·.inWorld w₀) ht').symm.trans hstep
    cases hdone
    rw [if_neg hstage]
    exact led_again_of_pure hx hturn hw (by rw [ho, hs.1]) ht'

theorem Course.error?_eq_none {now : Instant} {m : PassMemory} {r : Result} {w' : World}
    {stage? : Option Stage} {error? : Option StoreError}
    (hc : Course World.answer settings now key m w r w' stage? error?)
    (hw : w.Contended) : error? = none := by
  cases hc with
  | failed | gone | idle | stored => rfl
  | @refused c stage next stalls t w₁ _ e hd _ hp =>
    obtain ⟨x, _, _, _, hx⟩ := hd.exists_environment World.answers_answer
    unfold persist at hp
    split at hp
    · cases hp
    · change w₁.request (.updateStatus key _) = _ at hp
      rw [World.request_of_contended (hd.subsides.contended hw) id] at hp
      rw [MemoryStore.answer, MemoryStore.updateStatus_of_stored hx] at hp
      cases hp

end Pass
end EnvOperator
