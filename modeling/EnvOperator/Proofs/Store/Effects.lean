import EnvOperator.Pipeline.World
import EnvOperator.Proofs.Documents.Environment

/-! # Effects of requests

A request that fails leaves every object as it is. One that succeeds changes at most the object it
is about, and what it has written is read back. Of writes it is remembered that they have come, and
no more.
-/
namespace EnvOperator

theorem ObjectId.ne_of_kind {k k' : Kind} (h : k ≠ k') (key key' : ObjectKey) :
    (⟨k, key⟩ : ObjectId) ≠ ⟨k', key'⟩ := by
  intro he
  cases he
  exact h rfl

namespace MemoryStore
variable {s : MemoryStore} {k : Kind} {key : ObjectKey}

/-- The object of a kind that is stored under a key, if there is one that can be read. -/
def stored? (s : MemoryStore) (k : Kind) (key : ObjectKey) : Option k.Object :=
  (s.objects.get? ⟨k, key⟩).bind k.codec.decode

theorem read_eq_some {o : k.Object} : s.read k key = .ok (some o) ↔ s.stored? k key = some o := by
  unfold read stored?
  split
  · simp [*]
  · split <;> simp [*]

theorem read_eq_none : s.read k key = .ok none ↔ s.objects.get? ⟨k, key⟩ = none := by
  unfold read
  split
  · simp [*]
  · split <;> simp [*]

theorem stored?_of_read {found : Option k.Object} (h : s.read k key = .ok found) :
    s.stored? k key = found := by
  cases found with
  | none => simp [stored?, read_eq_none.mp h]
  | some o => exact read_eq_some.mp h

theorem stored?_congr {t : MemoryStore} (h : t.objects.get? ⟨k, key⟩ = s.objects.get? ⟨k, key⟩) :
    t.stored? k key = s.stored? k key := by
  simp only [stored?, h]

theorem stored?_of_insert {t : MemoryStore} {o : k.Object}
    (h : t.objects = s.objects.insert ⟨k, key⟩ (k.codec.encode o)) : t.stored? k key = some o := by
  simp [stored?, h, k.lawful.decode_encode]

theorem stored?_of_insert_of_ne {t : MemoryStore} {id : ObjectId} {document : Json}
    (h : t.objects = s.objects.insert id document) (hne : (⟨k, key⟩ : ObjectId) ≠ id) :
    t.stored? k key = s.stored? k key := stored?_congr (by simp [h, hne])

end MemoryStore

def StoreCall.id : StoreCall → ObjectId
  | create k key | replace k key | delete k key => ⟨k, key⟩
  | updateStatus key => ⟨.environment, key⟩

namespace Request

def id? : Request → Option ObjectId
  | .get k key => some ⟨k, key⟩
  | .create k object => (k.keyOf object).toOption.map (⟨k, ·⟩)
  | .replace k object => (k.keyOf object).toOption.map (⟨k, ·⟩)
  | .delete k key => some ⟨k, key⟩
  | .updateStatus key _ => some ⟨.environment, key⟩

def call? : Request → Option StoreCall
  | .get _ _ => none
  | .create k o => (k.keyOf o).toOption.map (.create k)
  | .replace k o => (k.keyOf o).toOption.map (.replace k)
  | .delete k key => some (.delete k key)
  | .updateStatus key _ => some (.updateStatus key)

/-- Only reads are about an object without being remembered. -/
theorem id?_cases (r : Request) : (∃ k key, r = .get k key) ∨ r.id? = r.call?.map StoreCall.id := by
  cases r with
  | get k key => exact .inl ⟨k, key, rfl⟩
  | create k o =>
    exact .inr
      (by cases hkey : k.keyOf o <;> simp [id?, call?, hkey, StoreCall.id, Except.toOption])
  | replace k o =>
    exact .inr
      (by cases hkey : k.keyOf o <;> simp [id?, call?, hkey, StoreCall.id, Except.toOption])
  | delete | updateStatus => exact .inr rfl

end Request

theorem Kind.keyOf_cases (k : Kind) (o : k.Object) :
    (∃ what, k.keyOf o = .error (.invalid what)) ∨ ∃ key, k.keyOf o = .ok key := by
  unfold keyOf ObjectKey.ofMeta
  split
  · exact .inr ⟨_, rfl⟩
  · exact .inl ⟨_, rfl⟩

namespace MemoryStore
variable {s s' : MemoryStore} {k : Kind} {key : ObjectKey} {status : EnvironmentStatus}

/-! ## Operations case by case

Each case has its condition, the answer, and the store that is left.
-/

inductive Creation (s : MemoryStore) (k : Kind) (o : k.Object) : Prop
  | nameless {what : String} (hkey : k.keyOf o = .error (.invalid what))
      (h : s.create k o = (.error (.invalid what), s))
  | failing {key : ObjectKey} {what : String} (hkey : k.keyOf o = .ok key)
      (hk : k ∈ s.failingWrites)
      (h : s.create k o = (.error (.api what), s.logged (.create k key)))
  | present {key : ObjectKey} {what : String} (hkey : k.keyOf o = .ok key)
      (hk : k ∉ s.failingWrites) (hid : s.objects.contains ⟨k, key⟩ = true)
      (h : s.create k o = (.error (.alreadyExists what), s.logged (.create k key)))
  | made {key : ObjectKey} (hkey : k.keyOf o = .ok key) (hk : k ∉ s.failingWrites)
      (hid : s.objects.contains ⟨k, key⟩ = false)
      (h : s.create k o = (.ok o, { s.logged (.create k key) with
        objects := s.objects.insert ⟨k, key⟩ (k.codec.encode o) }))

theorem creation (s : MemoryStore) (k : Kind) (o : k.Object) : s.Creation k o := by
  rcases k.keyOf_cases o with ⟨what, hkey⟩ | ⟨key, hkey⟩
  · exact .nameless hkey (by simp only [create, hkey])
  · by_cases hk : k ∈ s.failingWrites
    · exact .failing hkey hk (by simp only [create, hkey, logged, hk, if_true]; rfl)
    · cases hid : s.objects.contains ⟨k, key⟩ with
      | true => exact .present hkey hk hid (by simp [create, hkey, logged, hk, hid]; rfl)
      | false => exact .made hkey hk hid (by simp [create, hkey, logged, hk, hid])

inductive Replacement (s : MemoryStore) (k : Kind) (o : k.Object) : Prop
  | nameless {what : String} (hkey : k.keyOf o = .error (.invalid what))
      (h : s.replace k o = (.error (.invalid what), s))
  | failing {key : ObjectKey} {what : String} (hkey : k.keyOf o = .ok key)
      (hk : k ∈ s.failingWrites)
      (h : s.replace k o = (.error (.api what), s.logged (.replace k key)))
  | conflicting {key : ObjectKey} {what : String} (hkey : k.keyOf o = .ok key)
      (hk : k ∉ s.failingWrites) (hc : k ∈ s.conflicts)
      (h : s.replace k o = (.error (.conflict what), { s.logged (.replace k key) with
        conflicts := s.conflicts.erase k }))
  | absent {key : ObjectKey} {what : String} (hkey : k.keyOf o = .ok key)
      (hk : k ∉ s.failingWrites) (hc : k ∉ s.conflicts)
      (hid : s.objects.contains ⟨k, key⟩ = false)
      (h : s.replace k o = (.error (.notFound what), s.logged (.replace k key)))
  | made {key : ObjectKey} (hkey : k.keyOf o = .ok key) (hk : k ∉ s.failingWrites)
      (hc : k ∉ s.conflicts) (hid : s.objects.contains ⟨k, key⟩ = true)
      (h : s.replace k o = (.ok o, { s.logged (.replace k key) with
        objects := s.objects.insert ⟨k, key⟩ (k.codec.encode o) }))

theorem replacement (s : MemoryStore) (k : Kind) (o : k.Object) : s.Replacement k o := by
  rcases k.keyOf_cases o with ⟨what, hkey⟩ | ⟨key, hkey⟩
  · exact .nameless hkey (by simp only [replace, hkey])
  · by_cases hk : k ∈ s.failingWrites
    · exact .failing hkey hk (by simp only [replace, hkey, logged, hk, if_true]; rfl)
    · by_cases hc : k ∈ s.conflicts
      · exact .conflicting hkey hk hc (by simp [replace, hkey, logged, hk, hc]; rfl)
      · cases hid : s.objects.contains ⟨k, key⟩ with
        | true => exact .made hkey hk hc hid (by simp [replace, hkey, logged, hk, hc, hid])
        | false =>
          exact .absent hkey hk hc hid (by simp [replace, hkey, logged, hk, hc, hid]; rfl)

inductive Deletion (s : MemoryStore) (k : Kind) (key : ObjectKey) : Prop
  | absent {what : String} (hid : s.objects.contains ⟨k, key⟩ = false)
      (h : s.delete k key = (.error (.notFound what), s.logged (.delete k key)))
  | made (hid : s.objects.contains ⟨k, key⟩ = true)
      (h : s.delete k key = (.ok (), { s.logged (.delete k key) with
        objects := s.objects.erase ⟨k, key⟩ }))

theorem deletion (s : MemoryStore) (k : Kind) (key : ObjectKey) : s.Deletion k key := by
  cases hid : s.objects.contains ⟨k, key⟩ with
  | true => exact .made hid (by simp [delete, logged, hid])
  | false => exact .absent hid (by simp [delete, logged, hid]; rfl)

inductive StatusUpdate (s : MemoryStore) (key : ObjectKey) (status : EnvironmentStatus) : Prop
  | unreadable {e : StoreError} (hread : s.read .environment key = .error e)
      (h : s.updateStatus key status = (.error e, s.logged (.updateStatus key)))
  | absent {what : String} (hread : s.read .environment key = .ok none)
      (h : s.updateStatus key status = (.error (.notFound what), s.logged (.updateStatus key)))
  | made {e : Environment} (hread : s.read .environment key = .ok (some e))
      (h : s.updateStatus key status = (.ok (), { s.logged (.updateStatus key) with
        objects := s.objects.insert ⟨.environment, key⟩
          (Environment.codec.encode { e with status := some status }) }))

theorem statusUpdate (s : MemoryStore) (key : ObjectKey) (status : EnvironmentStatus) :
    s.StatusUpdate key status := by
  have hlogged : (s.logged (.updateStatus key)).read .environment key =
      s.read .environment key := rfl
  rcases hread : s.read .environment key with e | _ | e <;> rw [hread] at hlogged
  · exact .unreadable hread (by simp only [updateStatus, hlogged])
  · exact .absent hread (by simp only [updateStatus, hlogged]; rfl)
  · exact .made hread (by simp only [updateStatus, hlogged]; rfl)

/-! ## What is left of a request -/

theorem create_ok {o v : k.Object} (h : s.create k o = (.ok v, s')) :
    ∃ key, k.keyOf o = .ok key ∧ s'.objects = s.objects.insert ⟨k, key⟩ (k.codec.encode o) := by
  cases s.creation k o with
  | nameless _ hc | failing _ _ hc | present _ _ _ hc => cases hc.symm.trans h
  | made hkey _ _ hc =>
    cases hc.symm.trans h
    exact ⟨_, hkey, rfl⟩

theorem replace_ok {o v : k.Object} (h : s.replace k o = (.ok v, s')) :
    ∃ key, k.keyOf o = .ok key ∧ s'.objects = s.objects.insert ⟨k, key⟩ (k.codec.encode o) := by
  cases s.replacement k o with
  | nameless _ hc | failing _ _ hc | conflicting _ _ _ hc | absent _ _ _ _ hc =>
    cases hc.symm.trans h
  | made hkey _ _ _ hc =>
    cases hc.symm.trans h
    exact ⟨_, hkey, rfl⟩

theorem delete_ok (h : s.delete k key = (.ok (), s')) :
    s'.objects = s.objects.erase ⟨k, key⟩ := by
  cases s.deletion k key with
  | absent _ hc => cases hc.symm.trans h
  | made _ hc =>
    cases hc.symm.trans h
    rfl

theorem updateStatus_ok (h : s.updateStatus key status = (.ok (), s')) :
    ∃ e, s.stored? .environment key = some e ∧ s'.objects = s.objects.insert ⟨.environment, key⟩
      (Environment.codec.encode { e with status := some status }) := by
  cases s.statusUpdate key status with
  | unreadable _ hc | absent _ hc => cases hc.symm.trans h
  | @made e hread hc =>
    cases hc.symm.trans h
    exact ⟨e, read_eq_some.mp hread, rfl⟩

theorem updateStatus_of_stored {e : Environment} (he : s.stored? .environment key = some e)
    (status : EnvironmentStatus) :
    s.updateStatus key status = (.ok (), { s.logged (.updateStatus key) with
      objects := s.objects.insert ⟨.environment, key⟩
        (Environment.codec.encode { e with status := some status }) }) := by
  have hstored := read_eq_some.mpr he
  cases s.statusUpdate key status with
  | unreadable hread | absent hread => cases hread.symm.trans hstored
  | made hread hc =>
    cases hread.symm.trans hstored
    exact hc

theorem objects_of_error {r : Request} {e : StoreError} (h : s.answer r = (.error e, s')) :
    s'.objects = s.objects := by
  cases r with
  | get k key => exact (congrArg (·.2.objects) h).symm
  | create k o =>
    cases s.creation k o with
    | nameless _ hc | failing _ _ hc | present _ _ _ hc =>
      cases hc.symm.trans h
      rfl
    | made _ _ _ hc => cases hc.symm.trans h
  | replace k o =>
    cases s.replacement k o with
    | nameless _ hc | failing _ _ hc | conflicting _ _ _ hc | absent _ _ _ _ hc =>
      cases hc.symm.trans h
      rfl
    | made _ _ _ _ hc => cases hc.symm.trans h
  | delete k key =>
    cases s.deletion k key with
    | absent _ hc =>
      cases hc.symm.trans h
      rfl
    | made _ hc => cases hc.symm.trans h
  | updateStatus key status =>
    cases s.statusUpdate key status with
    | unreadable _ hc | absent _ hc =>
      cases hc.symm.trans h
      rfl
    | made _ hc => cases hc.symm.trans h

/-- A request changes no other object than the one it is about. -/
theorem get?_answer {r : Request} {id : ObjectId} (h : r.id? ≠ some id) :
    (s.answer r).2.objects.get? id = s.objects.get? id := by
  have hne (key : ObjectKey) (k : Kind) (e : some (ObjectId.mk k key) ≠ some id) : id ≠ ⟨k, key⟩ :=
    fun h => e (congrArg some h.symm)
  rcases ha : s.answer r with ⟨_ | v, s'⟩
  · rw [objects_of_error ha]
  · cases r with
    | get k key => exact (congrArg (·.2.objects.get? id) ha).symm
    | create k o =>
      obtain ⟨key, hk, ho⟩ := create_ok ha
      simp [Request.id?, hk, Except.toOption] at h
      simp [ho, Ne.symm h]
    | replace k o =>
      obtain ⟨key, hk, ho⟩ := replace_ok ha
      simp [Request.id?, hk, Except.toOption] at h
      simp [ho, Ne.symm h]
    | delete k key => simp [delete_ok ha, hne key k h]
    | updateStatus key status =>
      obtain ⟨e, _, ho⟩ := updateStatus_ok ha
      simp [ho, hne key _ h]

theorem get?_answer_of_call {r : Request} {id : ObjectId} (h : r.call?.map StoreCall.id ≠ some id) :
    (s.answer r).2.objects.get? id = s.objects.get? id := by
  rcases r.id?_cases with ⟨k, key, rfl⟩ | hid
  · rfl
  · exact get?_answer (hid ▸ h)

/-- A store remembers every write that tells the key of its object. -/
theorem calls_answer (s : MemoryStore) (r : Request) :
    (s.answer r).2.calls = s.calls ++ r.call?.toList := by
  cases r with
  | get => exact (List.append_nil _).symm
  | create k o =>
    cases s.creation k o with
    | nameless hkey hc => simp [answer, hc, Request.call?, hkey, Except.toOption]
    | failing hkey _ hc | present hkey _ _ hc | made hkey _ _ hc =>
      simp [answer, hc, Request.call?, hkey, Except.toOption, logged]
  | replace k o =>
    cases s.replacement k o with
    | nameless hkey hc => simp [answer, hc, Request.call?, hkey, Except.toOption]
    | failing hkey _ hc | conflicting hkey _ _ hc | absent hkey _ _ _ hc | made hkey _ _ _ hc =>
      simp [answer, hc, Request.call?, hkey, Except.toOption, logged]
  | delete k key =>
    cases s.deletion k key with
    | absent _ hc | made _ hc => simp [answer, hc, Request.call?, logged]
  | updateStatus key status =>
    cases s.statusUpdate key status with
    | unreadable _ hc | absent _ hc | made _ hc => simp [answer, hc, Request.call?, logged]

theorem failingWrites_answer (s : MemoryStore) (r : Request) :
    (s.answer r).2.failingWrites = s.failingWrites := by
  cases r with
  | get => rfl
  | create k o =>
    cases s.creation k o with
    | nameless _ hc | failing _ _ hc | present _ _ _ hc | made _ _ _ hc =>
      simp [answer, hc, logged]
  | replace k o =>
    cases s.replacement k o with
    | nameless _ hc | failing _ _ hc | conflicting _ _ _ hc | absent _ _ _ _ hc
    | made _ _ _ _ hc => simp [answer, hc, logged]
  | delete k key =>
    cases s.deletion k key with
    | absent _ hc | made _ hc => simp [answer, hc, logged]
  | updateStatus key status =>
    cases s.statusUpdate key status with
    | unreadable _ hc | absent _ hc | made _ hc => simp [answer, hc, logged]

/-- A conflict is used up by a replacement that tells the key of its object, if it is not failed
before. -/
theorem conflicts_replace (s : MemoryStore) (o : k.Object) : (s.replace k o).2.conflicts =
    if (k.keyOf o).isOk = true ∧ k ∉ s.failingWrites then s.conflicts.erase k
    else s.conflicts := by
  cases s.replacement k o with
  | nameless hkey hc => simp [hc, hkey, Except.isOk, Except.toBool]
  | failing hkey hk hc => simp [hc, hk, logged]
  | conflicting hkey hk _ hc => simp [hc, hkey, hk, Except.isOk, Except.toBool]
  | absent hkey hk hnot _ hc | made hkey hk hnot _ hc =>
    simp [hc, logged, List.erase_of_not_mem hnot]

theorem conflicts_answer_of_ne {r : Request} (h : ∀ k o, r ≠ .replace k o) :
    (s.answer r).2.conflicts = s.conflicts := by
  cases r with
  | get => rfl
  | replace k o => exact absurd rfl (h k o)
  | create k o =>
    cases s.creation k o with
    | nameless _ hc | failing _ _ hc | present _ _ _ hc | made _ _ _ hc =>
      simp [answer, hc, logged]
  | delete k key =>
    cases s.deletion k key with
    | absent _ hc | made _ hc => simp [answer, hc, logged]
  | updateStatus key status =>
    cases s.statusUpdate key status with
    | unreadable _ hc | absent _ hc | made _ hc => simp [answer, hc, logged]

end MemoryStore

namespace World
variable {w w' : World} {k : Kind} {key : ObjectKey}

def Same (w w' : World) : Prop := w'.store = w.store ∧ w'.registry = w.registry

theorem Same.refl (w : World) : w.Same w := ⟨rfl, rfl⟩

theorem Same.trans {w₁ w₂ w₃ : World} (h : w₁.Same w₂) (h' : w₂.Same w₃) : w₁.Same w₃ :=
  ⟨h'.1.trans h.1, h'.2.trans h.2⟩

theorem request_cases (r : Request) (w : World) :
    (∃ e, (w.request r).1 = .error e ∧ w.Same (w.request r).2) ∨
    (w.request r).1 = (w.store.answer r).1 ∧ (w.request r).2.store = (w.store.answer r).2 ∧
      (w.request r).2.registry = w.registry := by
  unfold request
  split
  · exact .inl ⟨_, rfl, rfl, rfl⟩
  · exact .inr ⟨rfl, rfl, rfl⟩

theorem request_ok {r : Request} {v : r.Result} (h : w.request r = (.ok v, w')) :
    w.store.answer r = (.ok v, w'.store) ∧ w'.registry = w.registry := by
  rcases request_cases r w with ⟨e, he, _⟩ | ⟨ha, hs, hr⟩
  · simp [h] at he
  · simp only [h] at ha hs hr
    exact ⟨Prod.ext ha.symm hs.symm, hr⟩

theorem objects_of_error {r : Request} {e : StoreError} (h : w.request r = (.error e, w')) :
    w'.store.objects = w.store.objects := by
  rcases request_cases r w with ⟨e, _, hs⟩ | ⟨ha, hs, _⟩
  · rw [h] at hs
    exact congrArg (·.objects) hs.1
  · simp only [h] at ha hs
    exact MemoryStore.objects_of_error (Prod.ext ha.symm hs.symm)

theorem registry_request (r : Request) (w : World) : (w.request r).2.registry = w.registry := by
  rcases request_cases r w with ⟨e, _, hs⟩ | ⟨_, _, hr⟩
  · exact hs.2
  · exact hr

theorem same_get (k : Kind) (key : ObjectKey) (w : World) : w.Same (w.request (.get k key)).2 := by
  rcases request_cases (.get k key) w with ⟨e, _, hs⟩ | ⟨_, hs, hr⟩
  · exact hs
  · exact ⟨hs, hr⟩

theorem create_ok {o v : k.Object} (h : w.request (.create k o) = (.ok v, w')) :
    ∃ key, k.keyOf o = .ok key ∧
    w'.store.objects = w.store.objects.insert ⟨k, key⟩ (k.codec.encode o) :=
  MemoryStore.create_ok (request_ok h).1

theorem replace_ok {o v : k.Object} (h : w.request (.replace k o) = (.ok v, w')) :
    ∃ key, k.keyOf o = .ok key ∧
    w'.store.objects = w.store.objects.insert ⟨k, key⟩ (k.codec.encode o) :=
  MemoryStore.replace_ok (request_ok h).1

theorem delete_ok (h : w.request (.delete k key) = (.ok (), w')) :
    w'.store.objects = w.store.objects.erase ⟨k, key⟩ :=
  MemoryStore.delete_ok (request_ok h).1

theorem updateStatus_ok {status : EnvironmentStatus}
    (h : w.request (.updateStatus key status) = (.ok (), w')) :
    ∃ e, w.store.stored? .environment key = some e ∧ w'.store.objects =
      w.store.objects.insert ⟨.environment, key⟩
        (Environment.codec.encode { e with status := some status }) :=
  MemoryStore.updateStatus_ok (request_ok h).1

end World
end EnvOperator
