import EnvOperator.Proofs.Target.Ownership

/-! # What a pass does to a world

A step changes objects of its stage's kinds only, and what it leaves of them was there before or is
what the target wants. Then the status is written, or it is not. `Pass.Comes` says all of this about
a whole pass.
-/
namespace EnvOperator

namespace Collection
variable {c : Collection} {stage : Stage} {w w' w'' : World}

structure Changed (c : Collection) (stage : Stage) (w w' : World) : Prop where
  registry : w'.registry = w.registry
  frame {k : Kind} :
    ¬ stage.Makes k → ∀ key, w'.store.objects.get? ⟨k, key⟩ = w.store.objects.get? ⟨k, key⟩
  stored {k : Kind} {key : ObjectKey} {o : k.Object} : w'.store.stored? k key = some o →
    w.store.stored? k key = some o ∨ stage.Makes k ∧ c.wanted k = some o ∧ k.keyOf o = .ok key
  kept {key : ObjectKey} {d : Deployment} : w.store.stored? .deployment key = some d →
    ∃ d', w'.store.stored? .deployment key = some d'

namespace Changed

theorem of_objects (hr : w'.registry = w.registry) (ho : w'.store.objects = w.store.objects) :
    c.Changed stage w w' where
  registry := hr
  frame _ key := by rw [ho]
  stored h := .inl (by rwa [MemoryStore.stored?, ho] at h)
  kept h := ⟨_, by rwa [MemoryStore.stored?, ho]⟩

theorem trans (h : c.Changed stage w w') (h' : c.Changed stage w' w'') : c.Changed stage w w'' where
  registry := h'.registry.trans h.registry
  frame hk key := (h'.frame hk key).trans (h.frame hk key)
  stored ho := (h'.stored ho).elim h.stored .inr
  kept hd := (h.kept hd).elim fun _ hd => h'.kept hd

theorem of_insert {k : Kind} {o : k.Object} {key : ObjectKey} (hr : w'.registry = w.registry)
    (hk : stage.Makes k) (hw : c.wanted k = some o) (hkey : k.keyOf o = .ok key)
    (ho : w'.store.objects = w.store.objects.insert ⟨k, key⟩ (k.codec.encode o)) :
    c.Changed stage w w' where
  registry := hr
  frame {k'} hk' key' := by
    have hne : k' ≠ k := by
      rintro rfl
      exact hk' hk
    simp [ho, ObjectId.ne_of_kind hne key' key]
  stored {k' key' o'} h := by
    by_cases hid : (⟨k', key'⟩ : ObjectId) = ⟨k, key⟩
    · cases hid
      rw [MemoryStore.stored?_of_insert ho] at h
      cases h
      exact .inr ⟨hk, hw, hkey⟩
    · exact .inl (by rwa [MemoryStore.stored?_congr (s := w.store) (by simp [ho, hid])] at h)
  kept {key' d} h := by
    by_cases hid : (⟨.deployment, key'⟩ : ObjectId) = ⟨k, key⟩
    · cases hid
      exact ⟨o, MemoryStore.stored?_of_insert ho⟩
    · exact ⟨d, by rwa [MemoryStore.stored?_congr (s := w.store) (by simp [ho, hid])]⟩

theorem of_erase {k : Kind} {key : ObjectKey} (hr : w'.registry = w.registry) (hk : stage.Makes k)
    (hd : k ≠ .deployment) (ho : w'.store.objects = w.store.objects.erase ⟨k, key⟩) :
    c.Changed stage w w' where
  registry := hr
  frame {k'} hk' key' := by
    have hne : k' ≠ k := by
      rintro rfl
      exact hk' hk
    simp [ho, ObjectId.ne_of_kind hne key' key]
  stored {k' key' o'} h := by
    by_cases hid : (⟨k', key'⟩ : ObjectId) = ⟨k, key⟩
    · simp [MemoryStore.stored?, ho, hid] at h
    · exact .inl (by rwa [MemoryStore.stored?_congr (s := w.store) (by simp [ho, hid])] at h)
  kept {key' d} h := by
    have hid := ObjectId.ne_of_kind hd.symm key' key
    exact ⟨d, by rwa [MemoryStore.stored?_congr (s := w.store) (by simp [ho, hid])]⟩

end Changed

/-- A request that fails changes nothing, so that only its success has to be looked at. -/
theorem changed_request {r : Request}
    (h : ∀ v w', w.request r = (.ok v, w') → w'.registry = w.registry → c.Changed stage w w') :
    c.Changed stage w (World.answer (.store r) w).2 := by
  change c.Changed stage w (w.request r).2
  have hr := World.registry_request r w
  rcases ha : w.request r with ⟨e | v, w'⟩
  · rw [ha] at hr
    exact .of_objects hr (World.objects_of_error ha)
  · rw [ha] at hr
    exact h v w' ha hr

/-- A question of a step makes no other change than its stage may make. -/
theorem changed_answer {q : Query} (hq : c.Asks stage q) (w : World) :
    c.Changed stage w (World.answer q w).2 := by
  cases hq with
  | tags => exact .of_objects rfl rfl
  | create hk hw =>
    apply changed_request
    intro v w' ha hr
    obtain ⟨key, hkey, ho⟩ := World.create_ok ha
    exact .of_insert hr hk hw hkey ho
  | replace hk _ hw =>
    apply changed_request
    intro v w' ha hr
    obtain ⟨key, hkey, ho⟩ := World.replace_ok ha
    exact .of_insert hr hk hw hkey ho
  | @delete k o key hk hw hf hkey =>
    have hd : k ≠ .deployment := by
      rintro rfl
      rcases hw with hw | hw <;> cases hw
    exact changed_request fun v w' ha hr => .of_erase hr hk hd (World.delete_ok ha)

theorem gives_registry {q : Query} {registry : RegistryDouble} (h : w.registry = registry) :
    registry.Gives q (World.answer q w).1 := by
  cases q with
  | store r => trivial
  | tags url repository => exact congrArg (·.listTags url repository) h

theorem changed_of_obeys {α : Type} {d : Dialogue α} {a : α} {Q : α → Prop}
    (h : d.Obeys w.registry.Gives (c.Asks stage) Q) (hd : d.inWorld w = (a, w')) :
    Q a ∧ c.Changed stage w w' := by
  have answers (q : Query) (v : World) (hq : c.Asks stage q) (hv : c.Changed stage w v) :
      w.registry.Gives q (World.answer q v).1 ∧ c.Changed stage w (World.answer q v).2 :=
    ⟨gives_registry hv.registry, hv.trans (changed_answer hq v)⟩
  have hr := h.inWorld (.of_objects rfl rfl) answers
  rwa [hd] at hr

/-- What a step comes to: where it leads, what it changes, and what is there when its work is
done. -/
structure Steps (c : Collection) (status : EnvironmentStatus) (stage : Stage) (w : World)
    (t : Transition) (w' : World) : Prop where
  leads : c.Leads w.registry status stage t
  changed : c.Changed stage w w'
  built : stage = .buildImage → t.next = .buildImageWait →
    w'.store.stored? .job (c.snapshot.key.own .job) = some c.target.job
  applied : stage = .deploy → t.next = .deployVerify →
    w'.store.stored? .deployment c.snapshot.key = some c.target.deployment

theorem createJob_stored {status : EnvironmentStatus} {t : Transition}
    (hc : c.target = c.snapshot.target) (h : (c.createJob status).inWorld w = (t, w'))
    (hn : t.next = .buildImageWait) :
    w'.store.stored? .job (c.snapshot.key.own .job) = some c.target.job := by
  obtain ⟨a, w₁, ha, hb⟩ := Dialogue.inWorld_bind_iff.mp h
  cases hb
  rcases a with e | v
  · cases e <;> cases hn
  · obtain ⟨key, hkey, ho⟩ := World.create_ok ha
    have hown : Kind.job.keyOf c.target.job = .ok (c.snapshot.key.own .job) := keyOf_wanted hc rfl
    rw [hown] at hkey
    cases hkey
    exact MemoryStore.stored?_of_insert ho

theorem buildImage_stored {status : EnvironmentStatus} {t : Transition}
    (hc : c.target = c.snapshot.target) (h : (c.buildImage status).inWorld w = (t, w'))
    (hn : t.next = .buildImageWait) :
    w'.store.stored? .job (c.snapshot.key.own .job) = some c.target.job := by
  unfold buildImage at h
  split at h
  · exact createJob_stored hc h hn
  · split at h
    · cases h
      cases hn
    · obtain ⟨r, w₁, _, hb⟩ := Dialogue.inWorld_bind_iff.mp h
      rcases r with e | u
      · cases hb
        cases hn
      · exact createJob_stored hc hb hn

end Collection

namespace Writing
variable {w w' : World} {k : Kind} {o : k.Object} {key : ObjectKey}

theorem request_ok {r : Request} (h : (request r).run.inWorld w = (.ok (), w')) :
    ∃ v, w.request r = (.ok v, w') := by
  obtain ⟨a, w₁, ha, hb⟩ := Dialogue.inWorld_bind_iff.mp h
  rcases a with e | v
  · cases hb
  · cases hb
    exact ⟨v, ha⟩

theorem apply_stored {found : Option k.Object} (hkey : k.keyOf o = .ok key)
    (h : (apply k found (some o)).run.inWorld w = (.ok (), w')) :
    w'.store.stored? k key = some o := by
  cases found with
  | none =>
    obtain ⟨v, hv⟩ := request_ok h
    obtain ⟨key', hkey', ho⟩ := World.create_ok hv
    cases hkey.symm.trans hkey'
    exact MemoryStore.stored?_of_insert ho
  | some _ =>
    obtain ⟨v, hv⟩ := request_ok h
    obtain ⟨key', hkey', ho⟩ := World.replace_ok hv
    cases hkey.symm.trans hkey'
    exact MemoryStore.stored?_of_insert ho

theorem bind_ok {α β : Type} {x : Writing α} {f : α → Writing β} {b : β}
    (h : (x >>= f).run.inWorld w = (.ok b, w')) :
    ∃ a w₁, x.run.inWorld w = (.ok a, w₁) ∧ (f a).run.inWorld w₁ = (.ok b, w') := by
  obtain ⟨r, w₁, hr, hb⟩ := Dialogue.inWorld_bind_iff.mp h
  rcases r with e | a
  · cases hb
  · exact ⟨a, w₁, hr, hb⟩

end Writing

namespace Collection
variable {c : Collection} {stage : Stage} {w w' : World}

theorem Changed.stored_deployment (h : c.Changed stage w w') {key : ObjectKey}
    (hd : w.store.stored? .deployment key = some c.target.deployment) :
    w'.store.stored? .deployment key = some c.target.deployment := by
  obtain ⟨d, hd'⟩ := h.kept hd
  rcases h.stored hd' with ho | ⟨_, hw, _⟩
  · exact hd'.trans (ho.symm.trans hd)
  · exact hd'.trans hw.symm

theorem applyWorkload_stored (hc : c.target = c.snapshot.target)
    (h : c.applyWorkload.run.inWorld w = (.ok (), w')) :
    w'.store.stored? .deployment c.snapshot.key = some c.target.deployment := by
  obtain ⟨_, w₁, h₁, h⟩ := Writing.bind_ok h
  obtain ⟨_, w₂, h₂, h₃⟩ := Writing.bind_ok h
  have hkey : Kind.deployment.keyOf c.target.deployment = .ok c.snapshot.key := keyOf_wanted hc rfl
  have hd := Writing.apply_stored hkey h₁
  have hservice : c.Changed .deploy w₁ w₂ :=
    (changed_of_obeys (obeys_apply Stage.deploy_makes_service (by decide)) h₂).2
  have hingress : c.Changed .deploy w₂ w' :=
    (changed_of_obeys (obeys_apply Stage.deploy_makes_ingress (by decide)) h₃).2
  exact (hservice.trans hingress).stored_deployment hd

theorem deploy_stored {status : EnvironmentStatus} {t : Transition}
    (hc : c.target = c.snapshot.target) (h : (c.deploy status).inWorld w = (t, w'))
    (hn : t.next = .deployVerify) :
    w'.store.stored? .deployment c.snapshot.key = some c.target.deployment := by
  obtain ⟨r, w₁, hr, hb⟩ := Dialogue.inWorld_bind_iff.mp h
  cases hb
  rcases r with e | u
  · unfold afterApply at hn
    split at hn <;> cases hn
    rename_i he
    cases he
  · exact applyWorkload_stored hc hr

theorem steps {status : EnvironmentStatus} {t : Transition} (hc : c.target = c.snapshot.target)
    (h : (c.step status stage).inWorld w = (t, w')) : c.Steps status stage w t w' := by
  obtain ⟨hl, hch⟩ := changed_of_obeys (obeys_step w.registry c status stage) h
  refine ⟨hl, hch, ?_, ?_⟩
  · rintro rfl
    exact buildImage_stored hc h
  · rintro rfl
    exact deploy_stored hc h

end Collection
end EnvOperator
