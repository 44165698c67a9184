import EnvOperator.Proofs.Pass.Collecting
import EnvOperator.Proofs.Store.Keys

/-! # The footprint of an environment

A pass looks at its environment, at the objects that the environment owns, and at configurations and
secrets, and it changes only the first two. Worlds that agree on what it sees give the same answers
and go on to agree; what it does not own stays as it is.
-/
namespace EnvOperator

namespace ObjectKey
variable {key : ObjectKey}

def Sees (key : ObjectKey) (id : ObjectId) : Prop :=
  key.Owns id ∨ id.kind = .environmentConfig ∨ id.kind = .secret

def Touches (key : ObjectKey) : Query → Prop
  | .tags _ _ => True
  | .store (.get k key') => key.Sees ⟨k, key'⟩
  | .store (.create k o) => ∃ key', k.keyOf o = .ok key' ∧ key.Owns ⟨k, key'⟩
  | .store (.replace k o) => ∃ key', k.keyOf o = .ok key' ∧ key.Owns ⟨k, key'⟩
  | .store (.delete k key') => key.Owns ⟨k, key'⟩
  | .store (.updateStatus key' _) => key' = key

theorem owns_environment (key : ObjectKey) : key.Owns ⟨.environment, key⟩ := ⟨.inl rfl, rfl⟩

theorem owns_own {k : Kind} (hk : k.IsMade) : key.Owns ⟨k, key.own k⟩ := ⟨.inr hk, rfl⟩

/-- No object has two owners. -/
theorem Owns.unique {key' : ObjectKey} {id : ObjectId} (h : key.Owns id) (h' : key'.Owns id) :
    key = key' :=
  own_injective (h.2.symm.trans h'.2)

theorem Sees.not_owns {key' : ObjectKey} {id : ObjectId} (h : key.Sees id) (hne : key ≠ key') :
    ¬ key'.Owns id := by
  intro h'
  rcases h with h | h | h
  · exact hne (h.unique h')
  · rcases h' with ⟨hk | hk | hk | hk | hk, _⟩ <;> rw [h] at hk <;> cases hk
  · rcases h' with ⟨hk | hk | hk | hk | hk, _⟩ <;> rw [h] at hk <;> cases hk

end ObjectKey

namespace MemoryStore
variable {s t : MemoryStore} {key : ObjectKey}

/-- Two stores cannot be told apart by passes of an environment. -/
structure Agree (key : ObjectKey) (s t : MemoryStore) : Prop where
  objects : ∀ id, key.Sees id → t.objects.get? id = s.objects.get? id
  failingWrites : t.failingWrites = s.failingWrites
  conflicts : t.conflicts = s.conflicts

namespace Agree

theorem logged (h : s.Agree key t) (call : StoreCall) : (s.logged call).Agree key (t.logged call) :=
  ⟨h.objects, h.failingWrites, h.conflicts⟩

theorem contains (h : s.Agree key t) {id : ObjectId} (hid : key.Sees id) :
    t.objects.contains id = s.objects.contains id := by
  rw [SortedMap.contains, h.objects id hid]
  rfl

theorem insert (h : s.Agree key t) (id : ObjectId) (document : Json) :
    Agree key { s with objects := s.objects.insert id document }
      { t with objects := t.objects.insert id document } where
  objects id' hid' := by simp [h.objects id' hid']
  failingWrites := h.failingWrites
  conflicts := h.conflicts

theorem erase (h : s.Agree key t) (id : ObjectId) :
    Agree key { s with objects := s.objects.erase id }
      { t with objects := t.objects.erase id } where
  objects id' hid' := by simp [h.objects id' hid']
  failingWrites := h.failingWrites
  conflicts := h.conflicts

theorem read (h : s.Agree key t) {k : Kind} {key' : ObjectKey} (hid : key.Sees ⟨k, key'⟩) :
    t.read k key' = s.read k key' := by
  unfold MemoryStore.read
  rw [h.objects _ hid]

theorem create (h : s.Agree key t) {k : Kind} {o : k.Object} {key' : ObjectKey}
    (hkey : k.keyOf o = .ok key') (hown : key.Owns ⟨k, key'⟩) :
    (t.create k o).1 = (s.create k o).1 ∧ Agree key (s.create k o).2 (t.create k o).2 := by
  have hl := h.logged (.create k key')
  have hfail : k ∈ (t.logged (.create k key')).failingWrites ↔
      k ∈ (s.logged (.create k key')).failingWrites := by
    rw [hl.failingWrites]
  simp only [MemoryStore.create, hkey, hfail, hl.contains (.inl hown)]
  split
  · exact ⟨rfl, hl⟩
  · split
    · exact ⟨rfl, hl⟩
    · exact ⟨rfl, hl.insert _ _⟩

theorem replace (h : s.Agree key t) {k : Kind} {o : k.Object} {key' : ObjectKey}
    (hkey : k.keyOf o = .ok key') (hown : key.Owns ⟨k, key'⟩) :
    (t.replace k o).1 = (s.replace k o).1 ∧ Agree key (s.replace k o).2 (t.replace k o).2 := by
  have hl := h.logged (.replace k key')
  have hfail : k ∈ (t.logged (.replace k key')).failingWrites ↔
      k ∈ (s.logged (.replace k key')).failingWrites := by
    rw [hl.failingWrites]
  have hconf : k ∈ (t.logged (.replace k key')).conflicts ↔
      k ∈ (s.logged (.replace k key')).conflicts := by
    rw [hl.conflicts]
  simp only [MemoryStore.replace, hkey, hfail, hconf, hl.contains (.inl hown)]
  split
  · exact ⟨rfl, hl⟩
  · split
    · exact ⟨rfl, hl.objects, hl.failingWrites, congrArg (List.erase · k) hl.conflicts⟩
    · split
      · exact ⟨rfl, hl.insert _ _⟩
      · exact ⟨rfl, hl⟩

theorem delete (h : s.Agree key t) {k : Kind} {key' : ObjectKey} (hown : key.Owns ⟨k, key'⟩) :
    (t.delete k key').1 = (s.delete k key').1 ∧
    Agree key (s.delete k key').2 (t.delete k key').2 := by
  simp only [MemoryStore.delete, (h.logged _).contains (.inl hown)]
  split
  · exact ⟨rfl, (h.logged _).erase _⟩
  · exact ⟨rfl, h.logged _⟩

theorem updateStatus (h : s.Agree key t) (status : EnvironmentStatus) :
    (t.updateStatus key status).1 = (s.updateStatus key status).1 ∧
      Agree key (s.updateStatus key status).2 (t.updateStatus key status).2 := by
  simp only [MemoryStore.updateStatus, (h.logged _).read (.inl key.owns_environment)]
  split
  · exact ⟨rfl, h.logged _⟩
  · exact ⟨rfl, h.logged _⟩
  · exact ⟨rfl, (h.logged _).insert _ _⟩

/-- Stores that agree answer alike, and still agree. -/
theorem answer (h : s.Agree key t) {r : Request} (hr : key.Touches (.store r)) :
    (t.answer r).1 = (s.answer r).1 ∧ Agree key (s.answer r).2 (t.answer r).2 := by
  cases r with
  | get k key' => exact ⟨h.read hr, h⟩
  | create k o =>
    obtain ⟨key', hkey, hown⟩ := hr
    exact h.create hkey hown
  | replace k o =>
    obtain ⟨key', hkey, hown⟩ := hr
    exact h.replace hkey hown
  | delete k key' => exact h.delete hr
  | updateStatus key' status =>
    cases hr
    exact h.updateStatus status

end Agree

/-- Without conflicts to come there will be none after a request either. -/
theorem conflicts_answer (h : s.conflicts = []) (r : Request) : (s.answer r).2.conflicts = [] := by
  by_cases hr : ∃ k o, r = .replace k o
  · obtain ⟨k, o, rfl⟩ := hr
    rw [answer, conflicts_replace, h]
    split <;> rfl
  · rw [conflicts_answer_of_ne fun k o he => hr ⟨k, o, he⟩, h]

end MemoryStore

namespace World
variable {w w' w'' : World} {key : ObjectKey} {q : Query}

structure Calm (w : World) : Prop where
  faults : w.faults = []
  conflicts : w.store.conflicts = []

/-- Two worlds cannot be told apart by passes of an environment. -/
structure Agree (key : ObjectKey) (w w' : World) : Prop where
  store : w.store.Agree key w'.store
  registry : w'.registry = w.registry
  faults : w'.faults = w.faults

/-- Two calm worlds differ at most in what an environment owns. -/
structure Apart (key : ObjectKey) (w w' : World) : Prop where
  objects : ∀ id, ¬ key.Owns id → w'.store.objects.get? id = w.store.objects.get? id
  failingWrites : w'.store.failingWrites = w.store.failingWrites
  registry : w'.registry = w.registry
  calm : w.Calm
  calm' : w'.Calm

theorem Apart.refl (h : w.Calm) : w.Apart key w := ⟨fun _ _ => rfl, rfl, rfl, h, h⟩

theorem Apart.trans (h : w.Apart key w') (h' : w'.Apart key w'') : w.Apart key w'' where
  objects id hid := (h'.objects id hid).trans (h.objects id hid)
  failingWrites := h'.failingWrites.trans h.failingWrites
  registry := h'.registry.trans h.registry
  calm := h.calm
  calm' := h'.calm'

/-- What one environment changes, another one does not see. -/
theorem Apart.agree {key' : ObjectKey} (h : w.Apart key w') (hne : key' ≠ key) :
    w.Agree key' w' where
  store := ⟨fun id hid => h.objects id (hid.not_owns hne), h.failingWrites,
    h.calm'.conflicts.trans h.calm.conflicts.symm⟩
  registry := h.registry
  faults := h.calm'.faults.trans h.calm.faults.symm

theorem request_of_calm (h : w.Calm) (r : Request) :
    w.request r = ((w.store.answer r).1, { w with store := (w.store.answer r).2 }) := by
  simp only [request, h.faults, Fault.take?]

theorem apart_answer (h : w.Calm) (hq : key.Touches q) : w.Apart key (World.answer q w).2 := by
  cases q with
  | tags => exact .refl h
  | store r =>
    change w.Apart key (w.request r).2
    rw [request_of_calm h]
    refine ⟨?_, MemoryStore.failingWrites_answer _ r, rfl, h, h.faults,
      MemoryStore.conflicts_answer h.conflicts r⟩
    intro id hid
    have owned {id' : ObjectId} (hown : key.Owns id') : some id' ≠ some id := by
      intro he
      cases he
      exact hid hown
    cases r with
    | get => rfl
    | create k o =>
      obtain ⟨key', hkey, hown⟩ := hq
      exact MemoryStore.get?_answer (by rw [Request.id?, hkey]; exact owned hown)
    | replace k o =>
      obtain ⟨key', hkey, hown⟩ := hq
      exact MemoryStore.get?_answer (by rw [Request.id?, hkey]; exact owned hown)
    | delete k key' => exact MemoryStore.get?_answer (owned hq)
    | updateStatus key' status =>
      cases hq
      exact MemoryStore.get?_answer (owned key.owns_environment)

theorem Agree.answer (h : w.Agree key w') (hq : key.Touches q) :
    (World.answer q w').1 = (World.answer q w).1 ∧
    Agree key (World.answer q w).2 (World.answer q w').2 := by
  cases q with
  | tags url repository =>
    refine ⟨?_, h⟩
    simp only [World.answer, h.registry]
  | store r =>
    obtain ⟨ha, hs⟩ := h.store.answer hq
    simp only [World.answer, request, h.faults]
    split
    · exact ⟨rfl, h.store, h.registry, rfl⟩
    · exact ⟨ha, hs, h.registry, rfl⟩

end World

namespace Dialogue
variable {α : Type} {d : Dialogue α} {w w' : World} {key : ObjectKey}

/-- A dialogue about one environment leaves everything else as it is. -/
theorem apart_inWorld (hd : ∀ q ∈ d.asked World.answer w, key.Touches q) (h : w.Calm) :
    w.Apart key (d.inWorld w).2 := by
  induction d generalizing w with
  | done a => exact .refl h
  | ask q next ih =>
    have hq := World.apart_answer h (hd q List.mem_cons_self)
    exact hq.trans (ih _ (fun q hq => hd q (List.mem_cons_of_mem _ hq)) hq.calm')

/-- A dialogue about one environment cannot tell worlds apart that agree on it. -/
theorem agree_inWorld (hd : ∀ q ∈ d.asked World.answer w, key.Touches q) (h : w.Agree key w') :
    (d.inWorld w').1 = (d.inWorld w).1 ∧ (d.inWorld w).2.Agree key (d.inWorld w').2 := by
  induction d generalizing w w' with
  | done a => exact ⟨rfl, h⟩
  | ask q next ih =>
    obtain ⟨ha, hw⟩ := h.answer (hd q List.mem_cons_self)
    have hnext := ih _ (fun q hq => hd q (List.mem_cons_of_mem _ hq)) hw
    simp only [inWorld, run] at hnext ⊢
    rw [ha]
    exact hnext

theorem asked_of_agree (hd : ∀ q ∈ d.asked World.answer w, key.Touches q) (h : w.Agree key w') :
    d.asked World.answer w' = d.asked World.answer w := by
  induction d generalizing w w' with
  | done a => rfl
  | ask q next ih =>
    obtain ⟨ha, hw⟩ := h.answer (hd q List.mem_cons_self)
    have hnext := ih _ (fun q hq => hd q (List.mem_cons_of_mem _ hq)) hw
    simp only [asked] at hnext ⊢
    rw [ha, hnext]

end Dialogue
end EnvOperator
