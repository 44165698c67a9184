import EnvOperator.Proofs.Pass.Contention
import EnvOperator.Proofs.Pass.Effects

/-! # Applying a workload

A workload is applied object by object until a write fails. Among conflicts an object can be brought
to what is wanted unless its kind is closed to writes or somebody has made or removed the object
since it was found.
-/
namespace EnvOperator

namespace MemoryStore
variable {s s' : MemoryStore} {k : Kind} {key : ObjectKey} {o v : k.Object} {e : StoreError}

/-- An object can still be brought from what was found to what is wanted. -/
def Admits (s : MemoryStore) (k : Kind) (key : ObjectKey) (found wanted : Option k.Object) : Prop :=
  wanted.isSome → k ∉ s.failingWrites ∧ found.isSome = s.objects.contains ⟨k, key⟩

theorem create_admits (hkey : k.keyOf o = .ok key) (h : s.create k o = (.ok v, s')) :
    s.Admits k key none (some o) := by
  cases s.creation k o with
  | nameless _ hc | failing _ _ hc | present _ _ _ hc => cases hc.symm.trans h
  | made hkey' hopen hnew =>
    cases hkey.symm.trans hkey'
    exact fun _ => ⟨hopen, hnew.symm⟩

theorem create_error (hkey : k.keyOf o = .ok key) (h : s.create k o = (.error e, s')) :
    e.isConflict = false ∧ ¬ s.Admits k key none (some o) := by
  cases s.creation k o with
  | nameless hnone => cases hnone.symm.trans hkey
  | failing _ hclosed hc =>
    cases hc.symm.trans h
    exact ⟨rfl, fun ha => (ha rfl).1 hclosed⟩
  | present hkey' _ hold hc =>
    cases hkey.symm.trans hkey'
    cases hc.symm.trans h
    exact ⟨rfl, fun ha => Bool.noConfusion ((ha rfl).2.trans hold)⟩
  | made _ _ _ hc => cases hc.symm.trans h

theorem replace_admits (existing : k.Object) (hkey : k.keyOf o = .ok key)
    (h : s.replace k o = (.ok v, s')) : s.Admits k key (some existing) (some o) := by
  cases s.replacement k o with
  | nameless _ hc | failing _ _ hc | conflicting _ _ _ hc | absent _ _ _ _ hc =>
    cases hc.symm.trans h
  | made hkey' hopen _ hold =>
    cases hkey.symm.trans hkey'
    exact fun _ => ⟨hopen, hold.symm⟩

theorem replace_error (existing : k.Object) (hkey : k.keyOf o = .ok key)
    (h : s.replace k o = (.error e, s')) :
    e.isConflict = true ∧ s.conflicts ≠ [] ∨
      e.isConflict = false ∧ ¬ s.Admits k key (some existing) (some o) := by
  cases s.replacement k o with
  | nameless hnone => cases hnone.symm.trans hkey
  | failing _ hclosed hc =>
    cases hc.symm.trans h
    exact .inr ⟨rfl, fun ha => (ha rfl).1 hclosed⟩
  | conflicting _ _ hconflict hc =>
    cases hc.symm.trans h
    exact .inl ⟨rfl, List.ne_nil_of_mem hconflict⟩
  | absent hkey' _ _ hnew hc =>
    cases hkey.symm.trans hkey'
    cases hc.symm.trans h
    exact .inr ⟨rfl, fun ha => Bool.noConfusion ((ha rfl).2.trans hnew)⟩
  | made _ _ _ _ hc => cases hc.symm.trans h

theorem delete_error (h : s.delete k key = (.error e, s')) :
    e.isNotFound = true ∧ s.objects.get? ⟨k, key⟩ = none := by
  cases s.deletion k key with
  | absent hid hc =>
    cases hc.symm.trans h
    exact ⟨rfl, Option.isSome_eq_false_iff.mp hid |> Option.isNone_iff_eq_none.mp⟩
  | made _ hc => cases hc.symm.trans h

end MemoryStore

theorem World.answer_of_contended {w w' : World} {r : Request} {a : r.Answer} (hw : w.Contended)
    (h : w.request r = (a, w')) :
    (∃ e, a = .error e ∧ e.isConflict = true ∧ ¬ w.Calm ∧ w'.store = w.store) ∨
      w.store.answer r = (a, w'.store) := by
  rcases request_contended hw r with ⟨e, he, hc, _, hcalm, hs⟩ | hstore
  · rw [h] at he hs
    exact .inl ⟨e, he, hc, hcalm, hs.1⟩
  · rw [h] at hstore
    cases hstore
    exact .inr rfl

namespace Writing
variable {k : Kind} {key : ObjectKey} {found wanted : Option k.Object} {o existing : k.Object}
  {w w' : World} {r : Except PassError Unit}

inductive Applied (k : Kind) (key : ObjectKey) (found wanted : Option k.Object) (w w' : World) :
    Except PassError Unit → Prop
  | done (ha : w.store.Admits k key found wanted)
      (ho : w'.store.objects.get? ⟨k, key⟩ = wanted.map k.codec.encode ∨
        found = none ∧ wanted = none ∧ w'.store.objects = w.store.objects) :
          Applied k key found wanted w w' (.ok ())
  | lost {e : StoreError} (hc : e.isConflict = true) (hw : ¬ w.Calm)
      (ho : w'.store.objects = w.store.objects) :
      Applied k key found wanted w w' (.error (.store e))
  | refused {e : StoreError} (hc : e.isConflict = false) (ha : ¬ w.store.Admits k key found wanted)
      (ho : w'.store.objects = w.store.objects) :
        Applied k key found wanted w w' (.error (.store e))

theorem request_inWorld (q : Request) (w : World) :
    (request q).run.inWorld w =
      (((w.request q).1.map fun _ => ()).mapError .store, (w.request q).2) := rfl

theorem applied_of_error {q : Request} {e : StoreError} (hw : w.Contended)
    (ha : w.request q = (.error e, w'))
    (hanswer : w.store.answer q = (.error e, w'.store) → e.isConflict = true ∧
      w.store.conflicts ≠ [] ∨
      e.isConflict = false ∧ ¬ w.store.Admits k key found wanted) :
    Applied k key found wanted w w' (.error (.store e)) := by
  have ho := World.objects_of_error ha
  rcases World.answer_of_contended hw ha with ⟨_, he, hc, hcalm, _⟩ | hstore
  · cases he
    exact .lost hc hcalm ho
  · rcases hanswer hstore with ⟨hc, hconflicts⟩ | ⟨hc, hadmits⟩
    · exact .lost hc (fun hcalm => hconflicts hcalm.conflicts) ho
    · exact .refused hc hadmits ho

theorem applied_create (hw : w.Contended) (hkey : k.keyOf o = .ok key)
    (h : (apply k none (some o)).run.inWorld w = (r, w')) : Applied k key none (some o) w w' r := by
  change (request (.create k o)).run.inWorld w = (r, w') at h
  rcases ha : w.request (.create k o) with ⟨e | v, w₁⟩ <;> rw [request_inWorld, ha] at h <;> cases h
  · exact applied_of_error hw ha fun hstore => .inr (MemoryStore.create_error hkey hstore)
  · obtain ⟨key', hkey', ho⟩ := World.create_ok ha
    cases hkey.symm.trans hkey'
    exact .done (MemoryStore.create_admits hkey (World.request_ok ha).1) (.inl (by simp [ho]))

theorem applied_replace (hw : w.Contended) (hkey : k.keyOf o = .ok key)
    (h : (apply k (some existing) (some o)).run.inWorld w = (r, w')) :
    Applied k key (some existing) (some o) w w' r := by
  change (request (.replace k o)).run.inWorld w = (r, w') at h
  rcases ha : w.request (.replace k o) with ⟨e | v, w₁⟩ <;> rw [request_inWorld, ha] at h <;>
    cases h
  · exact applied_of_error hw ha (MemoryStore.replace_error existing hkey)
  · obtain ⟨key', hkey', ho⟩ := World.replace_ok ha
    cases hkey.symm.trans hkey'
    exact .done (MemoryStore.replace_admits existing hkey (World.request_ok ha).1)
      (.inl (by simp [ho]))

theorem delete_inWorld (hkey : k.keyOf existing = .ok key) (w : World) :
    (delete k existing).run.inWorld w =
      (deleted (w.request (.delete k key)).1, (w.request (.delete k key)).2) := by
  rw [run_delete hkey]
  rfl

theorem applied_delete (hw : w.Contended) (hkey : k.keyOf existing = .ok key)
    (h : (apply k (some existing) none).run.inWorld w = (r, w')) :
    Applied k key (some existing) none w w' r := by
  have hadmits : w.store.Admits k key (some existing) none := nofun
  have hrun := (delete_inWorld hkey w).symm.trans h
  rcases ha : w.request (.delete k key) with ⟨e | v, w₁⟩ <;> rw [ha] at hrun
  · have ho := World.objects_of_error ha
    rcases World.answer_of_contended hw ha with ⟨_, he, hc, hcalm, _⟩ | hstore
    · cases he
      have hfound : e.isNotFound = false := by
        cases e <;> first | rfl | cases hc
      rw [deleted, hfound] at hrun
      cases hrun
      exact .lost hc hcalm ho
    · obtain ⟨hgone, hnone⟩ := MemoryStore.delete_error hstore
      rw [deleted, hgone] at hrun
      cases hrun
      exact .done hadmits (.inl (by rw [ho, hnone, Option.map_none]))
  · cases hrun
    have ho := World.delete_ok ha
    exact .done hadmits (.inl (by simp [ho]))

/-- Applying an object comes to one of the cases, whatever is found and whatever is wanted. -/
theorem applied (hw : w.Contended) (hfound : ∀ o, found = some o → k.keyOf o = .ok key)
    (hwanted : ∀ o, wanted = some o → k.keyOf o = .ok key)
    (h : (apply k found wanted).run.inWorld w = (r, w')) : Applied k key found wanted w w' r := by
  cases wanted with
  | some o =>
    cases found with
    | some existing => exact applied_replace hw (hwanted o rfl) h
    | none => exact applied_create hw (hwanted o rfl) h
  | none =>
    cases found with
    | some existing => exact applied_delete hw (hfound existing rfl) h
    | none =>
      cases h
      exact .done nofun (.inr ⟨rfl, rfl, rfl⟩)

/-- Writing by a single request about an object, with conflicts passed on. -/
def Single (id : ObjectId) (x : Writing Unit) (w : World) : Prop :=
  ∃ q : Request, q.id? = some id ∧ x.run.exchanged World.answer w = [⟨.store q, (w.request q).1⟩] ∧
    (x.run.inWorld w).2 = (w.request q).2 ∧
    ∀ what, (w.request q).1 = .error (.conflict what) → (x.run.inWorld w).1 =
      .error (.store (.conflict what))

theorem single_request {q : Request} {id : ObjectId} (hq : q.id? = some id) (w : World) :
    Single id (request q) w := by
  refine ⟨q, hq, rfl, rfl, fun what hwhat => ?_⟩
  rw [request_inWorld, hwhat]
  rfl

theorem single_delete (hkey : k.keyOf existing = .ok key) (w : World) :
    Single ⟨k, key⟩ (delete k existing) w := by
  refine ⟨.delete k key, rfl, ?_, ?_, fun what hwhat => ?_⟩
  · rw [run_delete hkey]
    rfl
  · rw [delete_inWorld hkey]
  · rw [delete_inWorld hkey, hwhat]
    rfl

/-- An object is applied by a single request, unless none is found and none is wanted. -/
theorem apply_single (hfound : ∀ o, found = some o → k.keyOf o = .ok key)
    (hwanted : ∀ o, wanted = some o → k.keyOf o = .ok key) (w : World) :
    apply k found wanted = pure () ∨ Single ⟨k, key⟩ (apply k found wanted) w := by
  cases wanted with
  | some o =>
    have hid : (k.keyOf o).toOption.map (ObjectId.mk k) = some ⟨k, key⟩ := by
      rw [hwanted o rfl]
      rfl
    cases found with
    | some existing => exact .inr (single_request (q := .replace k o) hid w)
    | none => exact .inr (single_request (q := .create k o) hid w)
  | none =>
    cases found with
    | some existing => exact .inr (single_delete (hfound existing rfl) w)
    | none => exact .inl rfl

theorem apply_frame (hfound : ∀ o, found = some o → k.keyOf o = .ok key)
    (hwanted : ∀ o, wanted = some o → k.keyOf o = .ok key)
    (h : (apply k found wanted).run.inWorld w = (r, w')) :
    w.Subsides w' ∧ ∀ id, id ≠ ⟨k, key⟩ → w'.store.objects.get? id = w.store.objects.get? id := by
  rcases apply_single hfound hwanted w with hpure | ⟨q, hid, _, hw', _⟩
  · rw [hpure] at h
    cases h
    exact ⟨.refl w, fun _ _ => rfl⟩
  · rw [h] at hw'
    subst hw'
    refine ⟨World.subsides_request q w, fun id hne => World.get?_request ?_⟩
    rw [hid]
    exact fun heq => hne (Option.some.inj heq).symm

theorem mem_exchanged_bind {α β : Type} {x : Writing α} {f : α → Writing β}
    {p : (q : Query) × q.Answer} (h : p ∈ (x >>= f).run.exchanged World.answer w) :
    p ∈ x.run.exchanged World.answer w ∨
      ∃ a w₁, x.run.inWorld w = (.ok a, w₁) ∧ p ∈ (f a).run.exchanged World.answer w₁ := by
  change p ∈ (x.run >>= ExceptT.bindCont f).exchanged World.answer w at h
  rw [Dialogue.exchanged_bind] at h
  rcases List.mem_append.mp h with h | h
  · exact .inl h
  · rcases hx : x.run.run World.answer w with ⟨e | a, w₁⟩ <;> rw [hx] at h
    · cases h
    · exact .inr ⟨a, w₁, hx, h⟩

end Writing

def Query.Conflicts (what : String) : (q : Query) × q.Answer → Prop
  | ⟨.store r, answer⟩ => r.method.OnWorkload ∧ answer = .error (.conflict what)
  | ⟨.tags _ _, _⟩ => False

instance (what : String) : DecidablePred (Query.Conflicts what)
  | ⟨.store r, .error (.conflict met)⟩ =>
    decidable_of_iff (r.method.OnWorkload ∧ met = what) (and_congr_right fun _ => by simp)
  | ⟨.store _, .ok _⟩ | ⟨.store _, .error (.notFound _)⟩ | ⟨.store _, .error (.alreadyExists _)⟩
  | ⟨.store _, .error (.invalid _)⟩ | ⟨.store _, .error .serialization⟩ | ⟨.store _,
    .error (.api _)⟩ =>
    .isFalse fun h => nomatch h.2
  | ⟨.tags _ _, _⟩ => .isFalse id

namespace Collection
variable {c : Collection} {key : ObjectKey} {ks : List Kind} {w w' : World}
  {r : Except PassError Unit}

/-- The objects that are found and wanted of a workload have the key of their environment. -/
def Keyed (c : Collection) (key : ObjectKey) : Prop := ∀ k, Stage.deploy.Makes k →
  (∀ o, c.snapshot.found k = some o → k.keyOf o = .ok key) ∧ ∀ o, c.wanted k = some o →
  k.keyOf o = .ok key

def applyAll (c : Collection) : List Kind → Writing Unit
  | [] => pure ()
  | k :: ks => do
    Writing.apply k (c.snapshot.found k) (c.wanted k)
    c.applyAll ks

def workloadKinds : List Kind := [.deployment, .service, .ingress]

theorem mem_workloadKinds {k : Kind} : k ∈ workloadKinds ↔ Stage.deploy.Makes k := by
  cases k <;> simp [workloadKinds, Stage.Makes]

theorem own_of_makes {k : Kind} (hk : Stage.deploy.Makes k) (key : ObjectKey) :
    key.own k = key := by
  rcases hk with rfl | rfl | rfl <;> rfl

theorem applyWorkload_eq (c : Collection) : c.applyWorkload = c.applyAll workloadKinds := by
  simp only [applyWorkload, applyAll, workloadKinds, bind_pure_unit]
  rfl

theorem deploy_inWorld (status : EnvironmentStatus)
    (h : (c.applyAll workloadKinds).run.inWorld w = (r, w')) :
    (c.deploy status).inWorld w = (afterApply status r, w') := by
  unfold deploy
  rw [applyWorkload_eq]
  exact Dialogue.inWorld_bind h

inductive Applied (c : Collection) (key : ObjectKey) (ks : List Kind) (w w' : World) :
    Except PassError Unit → Prop
  | done (ha : ∀ k ∈ ks, w.store.Admits k key (c.snapshot.found k) (c.wanted k))
      (ho : ∀ k ∈ ks, (c.snapshot.found k).isSome ∨ (c.wanted k).isSome →
        w'.store.objects.get? ⟨k, key⟩ = (c.wanted k).map k.codec.encode) :
          Applied c key ks w w' (.ok ())
  | lost {e : StoreError} (hc : e.isConflict = true) (hw : ¬ w.Calm) :
      Applied c key ks w w' (.error (.store e))
  | refused {e : StoreError} {k : Kind} (hk : k ∈ ks) (hc : e.isConflict = false)
      (ha : ¬ w.store.Admits k key (c.snapshot.found k) (c.wanted k)) :
        Applied c key ks w w' (.error (.store e))

/-- The change from one world to another is that some objects of some kinds have been applied. -/
structure PartlyApplied (c : Collection) (key : ObjectKey) (ks : List Kind) (w w' : World) :
    Prop where
  subsides : w.Subsides w'
  frame : ∀ id, (∀ k ∈ ks, id ≠ ⟨k, key⟩) → w'.store.objects.get? id = w.store.objects.get? id
  workload : ∀ k ∈ ks, w'.store.objects.get? ⟨k, key⟩ = w.store.objects.get? ⟨k, key⟩ ∨
    w'.store.objects.get? ⟨k, key⟩ = (c.wanted k).map k.codec.encode

theorem applyAll_cons {k : Kind} (h : (c.applyAll (k :: ks)).run.inWorld w = (r, w')) :
    (∃ e, r = .error e ∧ (Writing.apply k (c.snapshot.found k) (c.wanted k)).run.inWorld w =
      (.error e, w')) ∨
    ∃ w₁, (Writing.apply k (c.snapshot.found k) (c.wanted k)).run.inWorld w = (.ok (), w₁) ∧
      (c.applyAll ks).run.inWorld w₁ = (r, w') := by
  obtain ⟨a, w₁, ha, hb⟩ := Dialogue.inWorld_bind_iff.mp h
  rcases a with e | u
  · cases hb
    exact .inl ⟨e, rfl, ha⟩
  · exact .inr ⟨w₁, ha, hb⟩

theorem Applied.cons {k : Kind} {w₁ : World} (hk : k ∉ ks)
    (h : Writing.Applied k key (c.snapshot.found k) (c.wanted k) w w₁ (.ok ()))
    (hsub : w.Subsides w₁)
    (hframe : ∀ id, id ≠ ⟨k, key⟩ → w₁.store.objects.get? id = w.store.objects.get? id)
    (hrest : c.Applied key ks w₁ w' r) (hpartly : c.PartlyApplied key ks w₁ w') :
    c.Applied key (k :: ks) w w' r := by
  have hne {k' : Kind} (hk' : k' ∈ ks) : (⟨k', key⟩ : ObjectId) ≠ ⟨k, key⟩ :=
    ObjectId.ne_of_kind (ne_of_mem_of_not_mem hk' hk) key key
  have hadmits {k' : Kind} (hk' : k' ∈ ks) (found wanted : Option k'.Object) :
      w₁.store.Admits k' key found wanted ↔ w.store.Admits k' key found wanted := by
    rw [MemoryStore.Admits, MemoryStore.Admits, SortedMap.contains, hframe _ (hne hk'),
      hsub.failingWrites, SortedMap.contains]
  cases h with
  | done ha ho =>
    cases hrest with
    | done ha' ho' =>
      refine .done (fun k' hk' => ?_) fun k' hk' hsome => ?_ <;>
        rcases List.mem_cons.mp hk' with rfl | hk'
      · exact ha
      · exact (hadmits hk' _ _).mp (ha' k' hk')
      · rw [hpartly.frame _ fun k' hk' => (hne hk').symm]
        rcases ho with ho | ⟨hfound, hwanted, _⟩
        · exact ho
        · simp [hfound, hwanted] at hsome
      · exact ho' k' hk' hsome
    | lost hc hcalm => exact .lost hc fun h => hcalm (hsub.calm h)
    | refused hk' hc ha' =>
      exact .refused (List.mem_cons_of_mem _ hk') hc fun h => ha' ((hadmits hk' _ _).mpr h)

theorem PartlyApplied.cons {k : Kind} {w₁ : World} (hk : k ∉ ks)
    (h : Writing.Applied k key (c.snapshot.found k) (c.wanted k) w w₁ (.ok ()))
    (hsub : w.Subsides w₁)
    (hframe : ∀ id, id ≠ ⟨k, key⟩ → w₁.store.objects.get? id = w.store.objects.get? id)
    (hrest : c.PartlyApplied key ks w₁ w') : c.PartlyApplied key (k :: ks) w w' where
  subsides := hsub.trans hrest.subsides
  frame id hid := by
    rw [hrest.frame id fun k' hk' => hid k' (List.mem_cons_of_mem _ hk'),
      hframe id (hid k List.mem_cons_self)]
  workload k' hk' := by
    rcases List.mem_cons.mp hk' with rfl | hk'
    · have hkept := hrest.frame ⟨k', key⟩ fun k hk' => ObjectId.ne_of_kind
        (ne_of_mem_of_not_mem hk' hk).symm key key
      rw [hkept]
      cases h with
      | done _ ho =>
        rcases ho with ho | ⟨_, _, ho⟩
        · exact .inr ho
        · exact .inl (by rw [ho])
    · have hne : (⟨k', key⟩ : ObjectId) ≠ ⟨k, key⟩ :=
        ObjectId.ne_of_kind (ne_of_mem_of_not_mem hk' hk) key key
      rw [← hframe _ hne]
      exact hrest.workload k' hk'

theorem applyAll_applied (hw : w.Contended) (hkeyed : c.Keyed key)
    (hks : ∀ k ∈ ks, Stage.deploy.Makes k) (hnodup : ks.Nodup)
    (h : (c.applyAll ks).run.inWorld w = (r, w')) :
    c.Applied key ks w w' r ∧ c.PartlyApplied key ks w w' := by
  induction ks generalizing w with
  | nil =>
    cases h
    exact ⟨.done nofun nofun, .refl _, fun _ _ => rfl, nofun⟩
  | cons k ks ih =>
    obtain ⟨hfound, hwanted⟩ := hkeyed k (hks k List.mem_cons_self)
    obtain ⟨hk, hnodup⟩ := List.nodup_cons.mp hnodup
    rcases applyAll_cons h with ⟨e, rfl, ha⟩ | ⟨w₁, ha, hb⟩
    · obtain ⟨hsub, hframe⟩ := Writing.apply_frame hfound hwanted ha
      cases Writing.applied hw hfound hwanted ha with
      | lost hc hcalm ho =>
        exact ⟨.lost hc hcalm, hsub, fun id _ => by rw [ho], fun k _ => .inl (by rw [ho])⟩
      | refused hc hadmits ho =>
        exact ⟨.refused List.mem_cons_self hc hadmits, hsub, fun id _ => by rw [ho],
          fun k _ => .inl (by rw [ho])⟩
    · obtain ⟨hsub, hframe⟩ := Writing.apply_frame hfound hwanted ha
      obtain ⟨happlied, hpartly⟩ :=
        ih (hsub.contended hw) (fun k hk => hks k (List.mem_cons_of_mem _ hk)) hnodup hb
      have hone := Writing.applied hw hfound hwanted ha
      exact ⟨.cons hk hone hsub hframe happlied hpartly, .cons hk hone hsub hframe hpartly⟩

/-- A conflict that is met while objects are applied is what comes of it. -/
theorem applyAll_conflict {what : String} {x : (q : Query) × q.Answer} (hkeyed : c.Keyed key)
    (hks : ∀ k ∈ ks, Stage.deploy.Makes k) (hx : x ∈ (c.applyAll ks).run.exchanged World.answer w)
    (hconflict : Query.Conflicts what x) (h : (c.applyAll ks).run.inWorld w = (r, w')) :
    r = .error (.store (.conflict what)) := by
  induction ks generalizing w with
  | nil => cases hx
  | cons k ks ih =>
    obtain ⟨hfound, hwanted⟩ := hkeyed k (hks k List.mem_cons_self)
    rcases Writing.mem_exchanged_bind hx with hx | ⟨_, w₁, hdone, hx⟩
    · have hmet : ((Writing.apply k (c.snapshot.found k) (c.wanted k)).run.inWorld w).1 =
          .error (.store (.conflict what)) := by
        rcases Writing.apply_single hfound hwanted w with hpure | ⟨q, _, hexchanged, _, hpassed⟩
        · rw [hpure] at hx
          cases hx
        · rw [hexchanged] at hx
          cases List.mem_singleton.mp hx
          exact hpassed what hconflict.2
      rcases applyAll_cons h with ⟨e, rfl, ha⟩ | ⟨w₁, ha, _⟩ <;> rw [ha] at hmet <;> cases hmet
      rfl
    · rcases applyAll_cons h with ⟨e, _, ha⟩ | ⟨w₂, ha, hb⟩ <;> cases hdone.symm.trans ha
      exact ih (fun k hk => hks k (List.mem_cons_of_mem _ hk)) hx hb

end Collection
end EnvOperator
