import EnvOperator.Proofs.Store.Effects

/-! # Stores that keep objects under their own keys

A document is kept under the kind and the key of the object that it stands for, as long as objects
are put into a store as what they are. Such a document can always be read.
-/
namespace EnvOperator

/-- Every document is an object of the kind and the key that it is stored under. -/
def MemoryStore.WellKeyed (s : MemoryStore) : Prop :=
  ∀ k key document, s.objects.get? ⟨k, key⟩ = some document →
  ∃ o : k.Object, k.keyOf o = .ok key ∧ document = k.codec.encode o

namespace MemoryStore
variable {s t : MemoryStore} {key : ObjectKey}

theorem wellKeyed_empty : ({} : MemoryStore).WellKeyed := fun _ _ _ h => absurd h nofun

theorem WellKeyed.of_objects (h : s.WellKeyed) (ho : t.objects = s.objects) : t.WellKeyed := by
  intro k key document hd
  rw [ho] at hd
  exact h k key document hd

theorem WellKeyed.insert (h : s.WellKeyed) {k : Kind} {o : k.Object} {key : ObjectKey}
    (hkey : k.keyOf o = .ok key) (ho : t.objects = s.objects.insert ⟨k, key⟩ (k.codec.encode o)) :
    t.WellKeyed := by
  intro k' key' document hd
  rw [ho, SortedMap.get?_insert] at hd
  split at hd
  · cases ‹(⟨k', key'⟩ : ObjectId) = ⟨k, key⟩›
    exact ⟨o, hkey, (Option.some.inj hd).symm⟩
  · exact h k' key' document hd

theorem WellKeyed.erase (h : s.WellKeyed) {id : ObjectId} (ho : t.objects = s.objects.erase id) :
    t.WellKeyed := by
  intro k key document hd
  rw [ho, SortedMap.get?_erase] at hd
  split at hd
  · cases hd
  · exact h k key document hd

theorem WellKeyed.put (h : s.WellKeyed) {k : Kind} {o : k.Object} (hp : s.put k k o = .ok t) :
    t.WellKeyed := by
  unfold MemoryStore.put at hp
  cases hkey : k.keyOf o with
  | error e =>
    rw [hkey] at hp
    cases hp
  | ok key =>
    rw [hkey] at hp
    cases hp
    exact h.insert hkey rfl

theorem WellKeyed.keyOf_stored (h : s.WellKeyed) {k : Kind} {key : ObjectKey} {o : k.Object}
    (ho : s.stored? k key = some o) : k.keyOf o = .ok key := by
  obtain ⟨document, hd, hdecode⟩ := Option.bind_eq_some_iff.mp ho
  obtain ⟨o', hkey, rfl⟩ := h k key document hd
  rw [k.lawful.decode_encode] at hdecode
  cases hdecode
  exact hkey

theorem WellKeyed.read_eq (h : s.WellKeyed) (k : Kind) (key : ObjectKey) :
    s.read k key = .ok (s.stored? k key) := by
  cases hd : s.objects.get? ⟨k, key⟩ with
  | none =>
    have hread := read_eq_none.mpr hd
    rw [hread, stored?_of_read hread]
  | some document =>
    obtain ⟨o, _, rfl⟩ := h k key document hd
    have hstored : s.stored? k key = some o := by simp [stored?, hd, k.lawful.decode_encode]
    rw [hstored, read_eq_some.mpr hstored]

/-- Whatever is requested of a well-keyed store, it stays so. -/
theorem WellKeyed.answer (h : s.WellKeyed) (r : Request) : (s.answer r).2.WellKeyed := by
  rcases ha : s.answer r with ⟨e | v, t⟩
  · exact h.of_objects (objects_of_error ha)
  · cases r with
    | get k key =>
      obtain rfl : s = t := congrArg Prod.snd ha
      exact h
    | create k o =>
      obtain ⟨key, hkey, ho⟩ := create_ok ha
      exact h.insert hkey ho
    | replace k o =>
      obtain ⟨key, hkey, ho⟩ := replace_ok ha
      exact h.insert hkey ho
    | delete k key => exact h.erase (delete_ok ha)
    | updateStatus key status =>
      obtain ⟨e, he, ho⟩ := updateStatus_ok ha
      have hkey := h.keyOf_stored (k := .environment) he
      exact h.insert (k := .environment) (o := { e with status := some status }) hkey ho

end MemoryStore
end EnvOperator
