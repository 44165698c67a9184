import EnvOperator.Proofs.Pass.Races
import EnvOperator.Proofs.Target.Settled

/-! # Interrupted workloads

A workload may be left half applied any number of times. What has been applied is found when the
environment is collected again, and its target is what it already is. So the targets stay the same
from one interruption to the next.
-/
namespace EnvOperator

theorem MemoryStore.read_congr {s t : MemoryStore} {k : Kind} {key : ObjectKey}
    (h : t.objects.get? ⟨k, key⟩ = s.objects.get? ⟨k, key⟩) : t.read k key = s.read k key := by
  simp only [read, h]

theorem MemoryStore.read_of_get? {s : MemoryStore} {k : Kind} {key : ObjectKey}
    {found : Option k.Object} (h : s.objects.get? ⟨k, key⟩ = found.map k.codec.encode) :
    s.read k key = .ok found := by
  cases found with
  | none => exact read_eq_none.mpr h
  | some o => simp [read, h, k.lawful.decode_encode]

theorem MemoryStore.isSome_of_read {s : MemoryStore} {k : Kind} {key : ObjectKey}
    {found : Option k.Object} (h : s.read k key = .ok found) :
    found.isSome = s.objects.contains ⟨k, key⟩ := by
  unfold SortedMap.contains
  cases found with
  | none => rw [read_eq_none.mp h]; rfl
  | some o =>
    have hstored := stored?_of_read h
    unfold stored? at hstored
    obtain ⟨document, hdocument, _⟩ := Option.bind_eq_some_iff.mp hstored
    rw [hdocument]
    rfl

namespace Snapshot.Reflects
variable {configNamespace : String} {defaults : Defaults} {key : ObjectKey} {s t : MemoryStore}
  {x y : Snapshot}

theorem unique (hx : x.Reflects configNamespace defaults key s)
    (hy : y.Reflects configNamespace defaults key s) : x = y := by
  have hfound {k : Kind} (hk : k.IsMade) : x.found k = y.found k :=
    Except.ok.inj ((hx.found hk).symm.trans (hy.found hk))
  have henvironment : x.environment = y.environment := by
    obtain ⟨e, he, hxe⟩ := hx.environment
    obtain ⟨e', he', hye⟩ := hy.environment
    cases he.symm.trans he'
    rw [hxe, hye]
  have hconfig : x.config = y.config := by
    obtain ⟨g, hg, hxg⟩ := hx.config
    obtain ⟨g', hg', hyg⟩ := hy.config
    rw [henvironment] at hg
    cases hg.symm.trans hg'
    rw [hxg, hyg]
  have hstorage : x.storageCredentials = y.storageCredentials := by
    have hx := hx.storageCredentials
    have hy := hy.storageCredentials
    unfold Credentials at hx hy
    rw [hconfig] at hx
    cases hsecret : y.config.spec.storage.credentialsSecret with
    | none =>
      rw [hsecret] at hx hy
      exact hx.trans hy.symm
    | some name =>
      rw [hsecret] at hx hy
      exact Option.some.inj (hx.symm.trans hy)
  have hcredentials : x.credentials = y.credentials :=
    Except.ok.inj (hx.credentials.symm.trans hy.credentials)
  have hkey : x.key = y.key := hx.key_eq.trans hy.key_eq.symm
  have hjob : x.job = y.job := hfound (k := .job) (.inl rfl)
  have hdeployment : x.deployment = y.deployment := hfound (k := .deployment) (.inr (.inl rfl))
  have hservice : x.service = y.service := hfound (k := .service) (.inr (.inr (.inl rfl)))
  have hingress : x.ingress = y.ingress := hfound (k := .ingress) (.inr (.inr (.inr rfl)))
  cases x
  cases y
  simp_all only

theorem found_workload (hx : x.Reflects configNamespace defaults key s) {k : Kind}
    (hk : k ∈ Collection.workloadKinds) : s.read k key = .ok (x.found k) := by
  have hmakes := Collection.mem_workloadKinds.mp hk
  have hfound := hx.found hmakes.isMade
  rwa [Collection.own_of_makes hmakes key] at hfound

/-- A store in which only objects that passes make have changed is shown by the snapshot in which
these have been looked for anew. -/
theorem of_made (hx : x.Reflects configNamespace defaults key s)
    (hframe : ∀ {k : Kind}, ¬ k.IsMade → ∀ key', t.objects.get? ⟨k, key'⟩ =
      s.objects.get? ⟨k, key'⟩)
    {job : Option Job} {deployment : Option Deployment} {service : Option Service}
    {ingress : Option Ingress} (hfound : ∀ {k : Kind}, k.IsMade →
      t.read k (key.own k) = .ok ({ x with job, deployment, service, ingress }.found k)) :
    { x with job, deployment, service, ingress }.Reflects configNamespace defaults key t := by
  have henvironment : ¬ Kind.environment.IsMade := by simp [Kind.IsMade]
  have hconfig : ¬ Kind.environmentConfig.IsMade := by simp [Kind.IsMade]
  have hsecret : ¬ Kind.secret.IsMade := by simp [Kind.IsMade]
  obtain ⟨e, he, hxe⟩ := hx.environment
  obtain ⟨g, hg, hxg⟩ := hx.config
  refine ⟨hx.key_eq, ⟨e, ?_, hxe⟩, ⟨g, ?_, hxg⟩, ?_, hfound, ?_⟩
  · rwa [MemoryStore.stored?_congr (hframe henvironment _)]
  · rwa [MemoryStore.stored?_congr (hframe hconfig _)]
  · exact hx.storageCredentials.congr fun _ => MemoryStore.stored?_congr (hframe hsecret _)
  · rw [MemoryStore.read_congr (hframe hsecret _)]
    exact hx.credentials

theorem of_frame (hx : x.Reflects configNamespace defaults key s)
    (hframe : ∀ id, (∀ k ∈ Collection.workloadKinds, id ≠ ⟨k, key⟩) →
      t.objects.get? id = s.objects.get? id)
    {deployment : Option Deployment} {service : Option Service} {ingress : Option Ingress}
    (hdeployment : t.read .deployment key = .ok deployment)
    (hservice : t.read .service key = .ok service) (hingress : t.read .ingress key = .ok ingress) :
    { x with deployment, service, ingress }.Reflects configNamespace defaults key t := by
  have hkept {k : Kind} (hk : k ∉ Collection.workloadKinds) (key' : ObjectKey) :
      t.objects.get? ⟨k, key'⟩ = s.objects.get? ⟨k, key'⟩ :=
    hframe _ fun k' hk' => ObjectId.ne_of_kind (ne_of_mem_of_not_mem hk' hk).symm key' key
  refine hx.of_made (fun hk => hkept fun hmem => hk (Collection.mem_workloadKinds.mp hmem).isMade)
    fun {k} hk => ?_
  rcases hk with rfl | rfl | rfl | rfl
  · rw [MemoryStore.read_congr (hkept (by decide) _)]
    exact hx.found (.inl rfl)
  · exact hdeployment
  · exact hservice
  · exact hingress

end Snapshot.Reflects

namespace World
variable {settings : Settings} {key : ObjectKey} {first w w' : World}

/-- A world that differs from a first one at most in conflicts to come, and in objects of a workload
that have been brought to their targets. -/
structure Interrupted (settings : Settings) (key : ObjectKey) (first w : World) : Prop where
  contended : w.Contended
  failingWrites : w.store.failingWrites = first.store.failingWrites
  frame : ∀ id, (∀ k ∈ Collection.workloadKinds, id ≠ ⟨k, key⟩) →
    w.store.objects.get? id = first.store.objects.get? id
  workload : ∀ k ∈ Collection.workloadKinds,
    w.store.objects.get? ⟨k, key⟩ = first.store.objects.get? ⟨k, key⟩ ∨
      ∃ x, x.Reflects settings.configNamespace settings.defaults key first.store ∧
        w.store.objects.get? ⟨k, key⟩ = ((Collection.mk x x.target).wanted k).map k.codec.encode

theorem Interrupted.refl (h : first.Calm) : first.Interrupted settings key first :=
  ⟨h.contended, rfl, fun _ _ => rfl, fun _ _ => .inl rfl⟩

namespace Interrupted
variable {x y : Snapshot}

/-- What has been found at first is followed by what is found after interruptions. -/
theorem reflects (h : first.Interrupted settings key w)
    (hx : x.Reflects settings.configNamespace settings.defaults key first.store) :
    ∃ y, y.Reflects settings.configNamespace settings.defaults key w.store ∧ x.Follows y := by
  have read (k : Kind) (hk : k ∈ Collection.workloadKinds) :
      ∃ found, w.store.read k key = .ok found ∧
      (found = x.found k ∨ found = (Collection.mk x x.target).wanted k) := by
    rcases h.workload k hk with hkept | ⟨x', hx', happlied⟩
    · rw [MemoryStore.read_congr hkept]
      exact ⟨_, hx.found_workload hk, .inl rfl⟩
    · cases hx'.unique hx
      exact ⟨_, MemoryStore.read_of_get? happlied, .inr rfl⟩
  obtain ⟨deployment, hdeployment, hd⟩ := read .deployment (by decide)
  obtain ⟨service, hservice, hs⟩ := read .service (by decide)
  obtain ⟨ingress, hingress, hi⟩ := read .ingress (by decide)
  refine ⟨_, hx.of_frame h.frame hdeployment hservice hingress, rfl, rfl, rfl, fun hk => ?_⟩
  rcases hk with rfl | rfl | rfl
  · exact hd
  · exact hs
  · exact hi

/-- What is found after interruptions follows what would have been found at first. -/
theorem reflected (h : first.Interrupted settings key w)
    (hy : y.Reflects settings.configNamespace settings.defaults key w.store) :
    ∃ x : Snapshot, x.Reflects settings.configNamespace settings.defaults key first.store ∧
    x.Follows y := by
  by_cases hchanged : ∃ k ∈ Collection.workloadKinds,
      w.store.objects.get? ⟨k, key⟩ ≠ first.store.objects.get? ⟨k, key⟩
  · obtain ⟨k, hk, hne⟩ := hchanged
    obtain ⟨x, hx, _⟩ := (h.workload k hk).resolve_left hne
    obtain ⟨y', hy', hfollows⟩ := h.reflects hx
    cases hy'.unique hy
    exact ⟨x, hx, hfollows⟩
  · have read {k : Kind} (hk : k ∈ Collection.workloadKinds) :
        first.store.read k key = .ok (y.found k) := by
      have hkept := Classical.not_not.mp fun hne => hchanged ⟨k, hk, hne⟩
      rw [MemoryStore.read_congr hkept.symm]
      exact hy.found_workload hk
    have hframe (id : ObjectId) (hid : ∀ k ∈ Collection.workloadKinds, id ≠ ⟨k, key⟩) :
        first.store.objects.get? id = w.store.objects.get? id := (h.frame id hid).symm
    have hx := hy.of_frame hframe (read (k := .deployment) (by decide))
      (read (k := .service) (by decide))
      (read (k := .ingress) (by decide))
    exact ⟨y, hx, .refl y⟩

theorem stored?_environment (h : first.Interrupted settings key w) :
    w.store.stored? .environment key = first.store.stored? .environment key := by
  refine MemoryStore.stored?_congr (h.frame _ fun k hk => ?_)
  exact ObjectId.ne_of_kind (ne_of_mem_of_not_mem hk (by decide)).symm key key

theorem keyed (h : first.Interrupted settings key w) (hkeys : first.store.WellKeyed)
    (hy : y.Reflects settings.configNamespace settings.defaults key w.store) :
    (Collection.mk y y.target).Keyed key := by
  obtain ⟨x, hx, hfollows⟩ := h.reflected hy
  have hkeyed : (Collection.mk x x.target).Keyed key := Collection.Found.keyed ⟨hx, rfl⟩ hkeys
  intro k hk
  obtain ⟨hfound, hwanted⟩ := hkeyed k hk
  refine ⟨fun o ho => ?_, fun o ho => hwanted o ((hfollows.wanted_eq hk).symm.trans ho)⟩
  rcases hfollows.found hk with hkept | happlied
  · exact hfound o (hkept.symm.trans ho)
  · exact hwanted o (happlied.symm.trans ho)

/-- Applying the workload, as far as it goes, is one more interruption. -/
theorem applyAll {a : Except PassError Unit} (h : first.Interrupted settings key w)
    (hkeys : first.store.WellKeyed)
    (hy : y.Reflects settings.configNamespace settings.defaults key w.store)
    (ha : ((Collection.mk y y.target).applyAll Collection.workloadKinds).run.inWorld w = (a, w')) :
    first.Interrupted settings key w' := by
  obtain ⟨_, hpartly⟩ := Collection.applyAll_applied h.contended (h.keyed hkeys hy)
    (fun k => Collection.mem_workloadKinds.mp) (by decide) ha
  refine ⟨hpartly.subsides.contended h.contended,
    hpartly.subsides.failingWrites.trans h.failingWrites, fun id hid => (hpartly.frame id hid).trans
      (h.frame id hid), fun k hk => ?_⟩
  rcases hpartly.workload k hk with hkept | happlied
  · rw [hkept]
    exact h.workload k hk
  · obtain ⟨x, hx, hfollows⟩ := h.reflected hy
    rw [hfollows.wanted_eq (Collection.mem_workloadKinds.mp hk)] at happlied
    exact .inr ⟨x, hx, happlied⟩

end Interrupted
end World

/-! ## Workloads that can be applied -/

namespace Collection
variable {configNamespace : String} {defaults : Defaults} {key : ObjectKey} {w w' : World}
  {x y : Snapshot}

/-- No kind is closed to writes of which an object of the workload is wanted. -/
def Writable (c : Collection) (s : MemoryStore) : Prop :=
  ∀ k ∈ workloadKinds, (c.wanted k).isSome → k ∉ s.failingWrites

theorem writable_congr (h : x.Follows y) (hw : w'.store.failingWrites = w.store.failingWrites) :
    (Collection.mk y y.target).Writable w'.store ↔ (Collection.mk x x.target).Writable w.store := by
  unfold Writable
  rw [hw]
  refine forall₂_congr fun k hk => ?_
  rw [h.wanted_eq (mem_workloadKinds.mp hk)]

theorem admits_iff (hx : x.Reflects configNamespace defaults key w.store) {k : Kind}
    (hk : k ∈ workloadKinds) (wanted : Option k.Object) :
    w.store.Admits k key (x.found k) wanted ↔ (wanted.isSome → k ∉ w.store.failingWrites) := by
  have hpresent : (x.found k).isSome = w.store.objects.contains ⟨k, key⟩ :=
    MemoryStore.isSome_of_read (hx.found_workload hk)
  simp only [MemoryStore.Admits, hpresent, and_true]

/-- As long as no write meets a conflict, a workload is applied if it can be written. -/
theorem applyAll_of_writable (hw : w.Calm) (hx : x.Reflects configNamespace defaults key w.store)
    (hkeyed : (Collection.mk x x.target).Keyed key)
    (hwritable : (Collection.mk x x.target).Writable w.store) :
    ∃ w', ((Collection.mk x x.target).applyAll workloadKinds).run.inWorld w = (.ok (), w') := by
  rcases h : ((Collection.mk x x.target).applyAll workloadKinds).run.inWorld w with ⟨r, w'⟩
  cases (applyAll_applied hw.contended hkeyed (fun k => mem_workloadKinds.mp) (by decide) h).1 with
  | done => exact ⟨w', rfl⟩
  | lost _ hcalm => exact absurd hw hcalm
  | refused hk _ ha => exact absurd ((admits_iff hx hk _).mpr (hwritable _ hk)) ha

theorem applyAll_ok (hw : w.Contended) (hx : x.Reflects configNamespace defaults key w.store)
    (hkeyed : (Collection.mk x x.target).Keyed key)
    (h : ((Collection.mk x x.target).applyAll workloadKinds).run.inWorld w = (.ok (), w')) :
    (Collection.mk x x.target).Writable w.store ∧ ∀ k ∈ workloadKinds,
      w'.store.objects.get? ⟨k, key⟩ =
        ((Collection.mk x x.target).wanted k).map k.codec.encode := by
  obtain ⟨happlied, hpartly⟩ :=
    applyAll_applied hw hkeyed (fun k => mem_workloadKinds.mp) (by decide) h
  cases happlied with
  | done ha ho =>
    refine ⟨fun k hk => (admits_iff hx hk _).mp (ha k hk), fun k hk => ?_⟩
    rcases hpartly.workload k hk with hkept | happlied
    · by_cases hsome : (x.found k).isSome ∨ ((Collection.mk x x.target).wanted k).isSome
      · exact ho k hk hsome
      · simp only [not_or, Option.not_isSome_iff_eq_none] at hsome
        have hread := hx.found_workload hk
        rw [hsome.1] at hread
        rw [hkept, hsome.2, MemoryStore.read_eq_none.mp hread, Option.map_none]
    · exact happlied

end Collection
end EnvOperator
