import EnvOperator.Proofs.Pass.Steps

/-! # Whose a target is

Every object of a target has the key under which the environment owns its kind, and carries the
revision that is asked for, whatever annotations were found on the object it replaces.
-/
namespace EnvOperator

def ObjectMeta.revision (m : ObjectMeta) : Option String :=
  m.annotations.bind (·.get? Naming.revisionAnnotation)

namespace ObjectMeta
variable {m : ObjectMeta}

theorem get?_mergeEntries (own : List String) (given found : StringMap) (k : String) :
    (mergeEntries own given found).get? k =
      if (own.contains k && given.contains k) = true then given.get? k
        else (found.get? k).or (given.get? k) := by
  have hfind : (mergeEntries own given found).get? k =
      (SortedMap.find k
        (found.entries.filter fun e => !(own.contains e.1 && given.contains e.1))).or
        (given.get? k) := SortedMap.get?_overlay given _ k
  rw [hfind, SortedMap.find_filter fun k => !(own.contains k && given.contains k)]
  cases own.contains k && given.contains k <;> rfl

theorem revision_mergeExisting {r : String} (h : m.revision = some r)
    (existing : Option ObjectMeta) : (m.mergeExisting existing).revision = some r := by
  cases existing with
  | none => exact h
  | some found =>
    obtain ⟨given, hgiven, hr⟩ := Option.bind_eq_some_iff.mp h
    cases hf : found.annotations with
    | none => simpa [revision, mergeExisting, mergeMap, hf] using h
    | some entries =>
      simp [revision, mergeExisting, mergeMap, hf, hgiven, get?_mergeEntries,
        SortedMap.contains, hr]

@[simp] theorem ofMeta_mergeExisting (m : ObjectMeta) (existing : Option ObjectMeta) :
    ObjectKey.ofMeta (m.mergeExisting existing) = ObjectKey.ofMeta m := by
  cases existing <;> rfl

end ObjectMeta

namespace Snapshot
variable {s : Snapshot}

@[simp] theorem ofMeta_ownedMeta (s : Snapshot) (name component : String) :
    ObjectKey.ofMeta (s.ownedMeta name component) = .ok (s.key.sibling name) := rfl

theorem revision_ownedMeta (s : Snapshot) (name component : String) :
    (s.ownedMeta name component).revision = some s.revisionText := by
  simp [ObjectMeta.revision, ownedMeta, revisionAnnotations, SortedMap.ofList]

theorem metadata_targetService {o : Service} (h : s.targetService = some o) :
    o.metadata = (s.ownedMeta s.key.name "network").mergeExisting (s.service.map (·.metadata)) := by
  obtain ⟨_, _, h⟩ := Option.bind_eq_some_iff.mp h
  obtain ⟨settings, _, h⟩ := Option.bind_eq_some_iff.mp h
  cases h
  rfl

theorem metadata_targetIngress {o : Ingress} (h : s.targetIngress = some o) :
    o.metadata = (s.ownedMeta s.key.name "network").mergeExisting (s.ingress.map (·.metadata)) := by
  obtain ⟨_, _, h⟩ := Option.bind_eq_some_iff.mp h
  obtain ⟨settings, _, h⟩ := Option.bind_eq_some_iff.mp h
  cases h
  rfl

end Snapshot

namespace Collection
variable {c : Collection} {k : Kind} {o : k.Object}

theorem metadata_wanted (hc : c.target = c.snapshot.target) (h : c.wanted k = some o) :
    ∃ component existing, k.metadata o =
      (c.snapshot.ownedMeta (c.snapshot.key.own k).name component).mergeExisting existing := by
  rw [wanted.eq_def, hc] at h
  cases k with
  | job => exact ⟨"build", none, by cases h; rfl⟩
  | deployment => exact ⟨"workload", c.snapshot.deployment.map (·.metadata), by cases h; rfl⟩
  | service => exact ⟨"network", _, Snapshot.metadata_targetService h⟩
  | ingress => exact ⟨"network", _, Snapshot.metadata_targetIngress h⟩
  | environment | environmentConfig | secret => cases h

theorem keyOf_wanted (hc : c.target = c.snapshot.target) (h : c.wanted k = some o) :
    k.keyOf o = .ok (c.snapshot.key.own k) := by
  obtain ⟨component, existing, hm⟩ := metadata_wanted hc h
  have hk : c.snapshot.key.sibling (c.snapshot.key.own k).name = c.snapshot.key.own k := by
    cases k <;> rfl
  rw [Kind.keyOf, hm, ObjectMeta.ofMeta_mergeExisting, Snapshot.ofMeta_ownedMeta, hk]

theorem revision_wanted (hc : c.target = c.snapshot.target) (h : c.wanted k = some o) :
    (k.metadata o).revision = some c.snapshot.revisionText := by
  obtain ⟨component, existing, hm⟩ := metadata_wanted hc h
  rw [hm]
  exact ObjectMeta.revision_mergeExisting (Snapshot.revision_ownedMeta _ _ _) existing

end Collection
end EnvOperator
