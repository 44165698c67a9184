import EnvOperator.Proofs.Pass.Interrupted

/-! # What a collection is made from

Collecting looks at the environment, at the configuration that the environment resolves to, at the
secret which this configuration names, and at the objects under the environment's own names. It
changes nothing, its errors tell exactly what is missing, and whatever else a store holds has no
part in what is collected: no other secret reaches the build.
-/
namespace EnvOperator

theorem World.request_get {w : World} (hw : w.faults = []) (k : Kind) (key : ObjectKey) :
    w.request (.get k key) = (w.store.read k key, w) := by
  have htake : Fault.take? (Request.get k key).method w.faults = none := by
    rw [hw]
    rfl
  simp only [request, htake, MemoryStore.answer]

/-- A dialogue that only reads comes to the same in every world that holds what it reads, and leaves
it as it is. -/
theorem Dialogue.inWorld_of_reads {α : Type} {d : Dialogue α} {w w' : World} (hw : w.faults = [])
    (hw' : w'.faults = [])
    (h : ∀ q ∈ d.asked World.answer w, ∃ id, q = .store (.get id.kind id.key) ∧
      w'.store.objects.get? id = w.store.objects.get? id) :
    d.inWorld w' = ((d.inWorld w).1, w') := by
  induction d with
  | done a => rfl
  | ask q next ih =>
    obtain ⟨id, rfl, hid⟩ := h q List.mem_cons_self
    have hanswer : World.answer (.store (.get id.kind id.key)) w =
        (w.store.read id.kind id.key, w) :=
      World.request_get hw _ _
    have hanswer' : World.answer (.store (.get id.kind id.key)) w' =
        (w.store.read id.kind id.key, w') := by
      rw [← MemoryStore.read_congr hid]
      exact World.request_get hw' _ _
    have hrest := ih (w.store.read id.kind id.key) fun q hq =>
      h q (List.mem_cons_of_mem _ (by rwa [hanswer]))
    change (next (World.answer _ w').1).inWorld (World.answer _ w').2 =
      (((next (World.answer _ w).1).inWorld (World.answer _ w).2).1, w')
    rw [hanswer, hanswer']
    exact hrest

/-- A secret that is a source lies beside the configuration, or is the environment's own. -/
theorem Snapshot.Source.of_secret {configNamespace : String} {key m : ObjectKey} {s : MemoryStore}
    (h : Source configNamespace key s ⟨.secret, m⟩) :
    m.ns = configNamespace ∨ m = key.sibling (Naming.credentialsSecretName key.name) := by
  generalize hid : (⟨.secret, m⟩ : ObjectId) = id at h
  cases h with
  | environment | config => cases hid
  | storageCredentials =>
    cases hid
    exact .inl rfl
  | own hk =>
    cases hid
    simp [Kind.IsMade] at hk
  | credentials =>
    cases hid
    exact .inr rfl

namespace Collection
variable {configNamespace : String} {defaults : Defaults} {key : ObjectKey} {s t : MemoryStore}

def collected (configNamespace : String) (defaults : Defaults) (key : ObjectKey) (s : MemoryStore) :
    Except PassError (Option Collection) :=
  ((collect configNamespace defaults key).run.inWorld { store := s }).1

theorem gives_of_asksSource {q : Query} {w : World}
    (hq : Snapshot.AsksSource configNamespace key s q) (hw : World.Same { store := s } w) :
    s.Gives q (World.answer q w).1 ∧ World.Same { store := s } (World.answer q w).2 :=
  World.answers_answer.gives hq.collects hw

theorem asksSource_of_asked {q : Query}
    (hq : q ∈ (collect configNamespace defaults key).run.asked World.answer { store := s }) :
    Snapshot.AsksSource configNamespace key s q :=
  (consults_collect configNamespace defaults key s).asked (World.Same.refl _)
    (fun _ _ => gives_of_asksSource) q hq

theorem collected_ends : Snapshot.Ends configNamespace key s (Found configNamespace defaults key s)
    (collected configNamespace defaults key s) :=
  ((consults_collect configNamespace defaults key s).run (World.Same.refl _) fun _ _ =>
    gives_of_asksSource).1

/-- Stores that hold the same sources come to the same. -/
theorem inWorld_collect
    (ht : ∀ id, Snapshot.Source configNamespace key s id → t.objects.get? id = s.objects.get? id) :
    (collect configNamespace defaults key).run.inWorld { store := t } =
      (collected configNamespace defaults key s, { store := t }) := by
  refine Dialogue.inWorld_of_reads (w := { store := s }) rfl rfl fun q hq => ?_
  obtain ⟨id, hid, rfl⟩ := asksSource_of_asked hq
  exact ⟨id, rfl, ht id hid⟩

theorem collected_congr
    (ht : ∀ id, Snapshot.Source configNamespace key s id → t.objects.get? id = s.objects.get? id) :
    collected configNamespace defaults key t = collected configNamespace defaults key s := by
  unfold collected
  rw [inWorld_collect ht]
  rfl

/-! ## What is missing -/

theorem collected_of_snapshot {r : Except PassError (Option Snapshot)}
    (h : (Snapshot.collect configNamespace defaults key).run.inWorld { store := s } =
      (r, { store := s })) :
    collected configNamespace defaults key s = r.map fun found => found.map fun x =>
      ⟨x, x.target⟩ := by
  have hcollect : (collect configNamespace defaults key).run.inWorld { store := s } = _ :=
    Dialogue.inWorld_bind h
  unfold collected
  rw [hcollect]
  cases r with
  | error e => rfl
  | ok found => rfl

theorem get_inWorld {k : Kind} {key' : ObjectKey} {found : Option k.Object}
    (h : s.read k key' = .ok found) :
    (Reading.get k key').run.inWorld { store := s } = (.ok found, { store := s }) :=
  Reading.get_inWorld (World.contended_of_no_faults rfl) h

theorem collected_gone (h : s.objects.get? ⟨.environment, key⟩ = none) :
    collected configNamespace defaults key s = .ok none := by
  have hread : s.read .environment key = .ok none := MemoryStore.read_eq_none.mpr h
  have hsnapshot : (Snapshot.collect configNamespace defaults key).run.inWorld { store := s } =
      (.ok none, { store := s }) := Reading.bind_inWorld (get_inWorld hread)
  exact collected_of_snapshot hsnapshot

theorem collected_missingConfig {m : ObjectKey}
    (h : Snapshot.Misses configNamespace key s (.missingConfig m)) :
    collected configNamespace defaults key s = .error (.missingConfig m) := by
  obtain ⟨e, he, rfl, hm⟩ := h
  have hconfig : s.read .environmentConfig ⟨configNamespace, e.configName⟩ = .ok none :=
    MemoryStore.read_eq_none.mpr hm
  have hsnapshot : (Snapshot.collect configNamespace defaults key).run.inWorld { store := s } =
      (.error (.missingConfig ⟨configNamespace, e.configName⟩), { store := s }) :=
    (Reading.bind_inWorld (get_inWorld (MemoryStore.read_eq_some.mpr he))).trans
      (Reading.bind_inWorld (get_inWorld hconfig))
  exact collected_of_snapshot hsnapshot

theorem collected_missingCredentials {m : ObjectKey}
    (h : Snapshot.Misses configNamespace key s (.missingCredentials m)) :
    collected configNamespace defaults key s = .error (.missingCredentials m) := by
  obtain ⟨e, g, name, he, hg, hname, rfl, hm⟩ := h
  have hsecret : s.read .secret ⟨configNamespace, name⟩ = .ok none :=
    MemoryStore.read_eq_none.mpr hm
  have hsame : (g.applyDefaults defaults).spec.storage.credentialsSecret = some name := hname
  have hcredentials : (Snapshot.storageCredentials? configNamespace
      (g.applyDefaults defaults)).run.inWorld
      { store := s } = (.error (.missingCredentials ⟨configNamespace, name⟩), { store := s }) := by
    unfold Snapshot.storageCredentials?
    rw [hsame]
    exact Reading.bind_inWorld (get_inWorld hsecret)
  have hsnapshot : (Snapshot.collect configNamespace defaults key).run.inWorld { store := s } =
      (.error (.missingCredentials ⟨configNamespace, name⟩), { store := s }) :=
    (Reading.bind_inWorld (get_inWorld (MemoryStore.read_eq_some.mpr he))).trans <|
      (Reading.bind_inWorld (get_inWorld (MemoryStore.read_eq_some.mpr hg))).trans <|
        Dialogue.inWorld_bind hcredentials
  exact collected_of_snapshot hsnapshot

/-- Collecting from a store asks only for its sources and changes nothing. It finds no environment,
no configuration or no storage credentials exactly where these are missing. What else a store holds
is all the same to it; so secrets that are no sources have no part in the build job. -/
theorem collected_from_sources (configNamespace : String) (defaults : Defaults) (key : ObjectKey)
    (s : MemoryStore) :
    (∀ q ∈ (collect configNamespace defaults key).run.asked World.answer { store := s },
      ∃ id, Snapshot.Source configNamespace key s id ∧ q = .store (.get id.kind id.key)) ∧
    ((collect configNamespace defaults key).run.inWorld { store := s }).2 = { store := s } ∧
    (collected configNamespace defaults key s = .ok none ↔ s.objects.get? ⟨.environment, key⟩ =
      none) ∧
    (∀ m, collected configNamespace defaults key s = .error (.missingConfig m) ↔
      ∃ e, s.stored? .environment key = some e ∧ m = ⟨configNamespace, e.configName⟩ ∧
        s.objects.get? ⟨.environmentConfig, m⟩ = none) ∧
    (∀ m, collected configNamespace defaults key s = .error (.missingCredentials m) ↔
      ∃ e g name, s.stored? .environment key = some e ∧
        s.stored? .environmentConfig ⟨configNamespace, e.configName⟩ = some g ∧
        g.spec.storage.credentialsSecret = some name ∧ m = ⟨configNamespace, name⟩ ∧
        s.objects.get? ⟨.secret, m⟩ = none) ∧
    (∀ t : MemoryStore,
      (∀ id, Snapshot.Source configNamespace key s id → t.objects.get? id = s.objects.get? id) →
      collected configNamespace defaults key t = collected configNamespace defaults key s) ∧
    ∀ t : MemoryStore, (∀ id, id.kind ≠ .secret → t.objects.get? id = s.objects.get? id) →
      (∀ m, Snapshot.Source configNamespace key s ⟨.secret, m⟩ →
        t.objects.get? ⟨.secret, m⟩ = s.objects.get? ⟨.secret, m⟩) →
      (collected configNamespace defaults key t).map (·.map (·.target.job)) =
        (collected configNamespace defaults key s).map (·.map (·.target.job)) := by
  have hends : Snapshot.Ends configNamespace key s (Found configNamespace defaults key s) _ :=
    collected_ends
  refine ⟨fun q => asksSource_of_asked, ?_, ⟨fun h => ?_, collected_gone⟩,
    fun m => ⟨fun h => ?_, collected_missingConfig⟩,
    fun m => ⟨fun h => ?_, collected_missingCredentials⟩, fun t => collected_congr,
    fun t hother hsecret => ?_⟩
  · rw [inWorld_collect fun _ _ => rfl]
  · rw [h] at hends
    exact MemoryStore.read_eq_none.mp hends
  · rw [h] at hends
    exact hends
  · rw [h] at hends
    exact hends
  · have hsources (id : ObjectId) (hid : Snapshot.Source configNamespace key s id) :
        t.objects.get? id = s.objects.get? id := by
      obtain ⟨k, m⟩ := id
      by_cases hk : k = .secret
      · subst hk
        exact hsecret m hid
      · exact hother _ hk
    rw [collected_congr hsources]

end Collection
namespace Sample

def borrower : Environment where
  metadata := { name := some "web", ns := some "dev" }
  spec := { config := some "shared" }

def lender : EnvironmentConfig where
  metadata := { name := some "shared", ns := some "kiln-system" }
  spec := { storage := { credentialsSecret := some "keys" } }

def keyless : MemoryStore where
  objects := ((∅ : SortedMap ObjectId Json).insert ⟨.environment, ⟨"dev", "web"⟩⟩
    (Environment.codec.encode borrower)).insert ⟨.environmentConfig, ⟨"kiln-system", "shared"⟩⟩
    (EnvironmentConfig.codec.encode lender)

/-- A secret of the same name in another namespace. -/
def misplaced : MemoryStore :=
  { keyless with objects := keyless.objects.insert ⟨.secret, ⟨"dev", "keys"⟩⟩ (.object []) }

theorem stored?_keyless : keyless.stored? .environment ⟨"dev", "web"⟩ = some borrower ∧
    keyless.stored? .environmentConfig ⟨"kiln-system", "shared"⟩ = some lender := by
  constructor
  · rw [MemoryStore.stored?_of_insert_of_ne (s := { objects := SortedMap.insert ∅ _ _ }) rfl
      (by decide)]
    exact MemoryStore.stored?_of_insert (s := {}) rfl
  · exact MemoryStore.stored?_of_insert (s := { objects := SortedMap.insert ∅ _ _ }) rfl

end Sample

/-- The credentials for the storage are missing, and a secret of their name elsewhere does not stand
in for them. -/
theorem Collection.collected_from_sources_keyless :
    collected "kiln-system" {} ⟨"dev", "web"⟩ Sample.keyless =
      .error (.missingCredentials ⟨"kiln-system", "keys"⟩) ∧
    collected "kiln-system" {} ⟨"dev", "web"⟩ Sample.misplaced =
      .error (.missingCredentials ⟨"kiln-system", "keys"⟩) := by
  obtain ⟨he, hg⟩ := Sample.stored?_keyless
  obtain ⟨_, _, _, _, hmissing, hsame, _⟩ :=
    Collection.collected_from_sources "kiln-system" {} ⟨"dev", "web"⟩ Sample.keyless
  have hkeyless := (hmissing ⟨"kiln-system", "keys"⟩).mpr
    ⟨Sample.borrower, Sample.lender, "keys", he, hg, rfl, rfl, by simp [Sample.keyless]⟩
  refine ⟨hkeyless, (hsame Sample.misplaced fun id hid => ?_).trans hkeyless⟩
  have hne : id ≠ ⟨.secret, ⟨"dev", "keys"⟩⟩ := by
    rintro rfl
    exact absurd hid.of_secret (by decide)
  simp [Sample.misplaced, hne]

end EnvOperator
