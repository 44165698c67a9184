import EnvOperator.Proofs.Pass.Footprint
import EnvOperator.Proofs.Pass.Steps

/-! # Contention

Others who write to a workload can make the writes of a pass fail with conflicts. This strikes
nothing but writes to the workload: what is stored can still be collected, and a status can still be
stored.
-/
namespace EnvOperator

def Method.OnWorkload : Method → Prop
  | .create k | .replace k | .delete k => Stage.deploy.Makes k
  | .get _ | .updateStatus => False

instance : DecidablePred Method.OnWorkload
  | .create k | .replace k | .delete k =>
    inferInstanceAs (Decidable (k = .deployment ∨ k = .service ∨ k = .ingress))
  | .get _ | .updateStatus => .isFalse id

namespace Fault
variable {method : Method} {faults left : List Fault} {e : StoreError}

/-- An error that strikes comes from a failure of the method, and no other failures are left than
there were. -/
theorem take?_eq_some (h : take? method faults = some (e, left)) :
    (∃ f ∈ faults, f.method = method ∧ f.error = e) ∧
      ∀ f ∈ left, ∃ g ∈ faults, g.method = f.method ∧ g.error = f.error := by
  induction faults generalizing left with
  | nil => cases h
  | cons g rest ih =>
    rw [take?] at h
    split at h
    · rename_i hg
      cases h
      refine ⟨⟨g, List.mem_cons_self, hg.1, rfl⟩, fun f hf => ?_⟩
      rcases List.mem_cons.mp hf with rfl | hf
      · exact ⟨g, List.mem_cons_self, rfl, rfl⟩
      · exact ⟨f, List.mem_cons_of_mem _ hf, rfl, rfl⟩
    · obtain ⟨⟨e', left'⟩, htake, heq⟩ := Option.map_eq_some_iff.mp h
      cases heq
      obtain ⟨⟨f, hf, hm, he⟩, hleft⟩ := ih htake
      refine ⟨⟨f, List.mem_cons_of_mem _ hf, hm, he⟩, fun f hf => ?_⟩
      rcases List.mem_cons.mp hf with rfl | hf
      · exact ⟨f, List.mem_cons_self, rfl, rfl⟩
      · obtain ⟨g', hg', hsame⟩ := hleft f hf
        exact ⟨g', List.mem_cons_of_mem _ hg', hsame⟩

end Fault

namespace World
variable {w w' w'' : World} {r : Request}

/-- The only failures to come are conflicts of writes to a workload. -/
def Contended (w : World) : Prop := ∀ f ∈ w.faults, f.method.OnWorkload ∧ f.error.isConflict = true

theorem contended_of_no_faults (h : w.faults = []) : w.Contended := by
  intro f hf
  rw [h] at hf
  cases hf

theorem Calm.contended (h : w.Calm) : w.Contended := contended_of_no_faults h.faults

/-- A request is answered by the store, or it is a write to a workload and a conflict strikes it. -/
theorem request_contended (hw : w.Contended) (r : Request) :
    (∃ e, (w.request r).1 = .error e ∧ e.isConflict = true ∧ r.method.OnWorkload ∧ ¬ w.Calm ∧
      w.Same (w.request r).2) ∨
      w.request r = ((w.store.answer r).1, { w with store := (w.store.answer r).2 }) := by
  cases htake : Fault.take? r.method w.faults with
  | none => exact .inr (by simp only [request, htake])
  | some struck =>
    obtain ⟨e, left⟩ := struck
    obtain ⟨⟨f, hf, hm, he⟩, _⟩ := Fault.take?_eq_some htake
    obtain ⟨hon, hconflict⟩ := hw f hf
    have hcalm : ¬ w.Calm := by
      intro hcalm
      rw [hcalm.faults] at hf
      cases hf
    refine .inl ⟨e, ?_, he ▸ hconflict, hm ▸ hon, hcalm, ?_⟩ <;> simp only [request, htake]
    exact ⟨rfl, rfl⟩

theorem request_of_contended (hw : w.Contended) (hr : ¬ r.method.OnWorkload) :
    w.request r = ((w.store.answer r).1, { w with store := (w.store.answer r).2 }) := by
  rcases request_contended hw r with ⟨_, _, _, hon, _⟩ | h
  · exact absurd hon hr
  · exact h

/-- What can fail later could have failed before. -/
structure Subsides (w w' : World) : Prop where
  failingWrites : w'.store.failingWrites = w.store.failingWrites
  contended : w.Contended → w'.Contended
  calm : w.Calm → w'.Calm

theorem Subsides.refl (w : World) : w.Subsides w := ⟨rfl, id, id⟩

theorem Subsides.trans (h : w.Subsides w') (h' : w'.Subsides w'') : w.Subsides w'' :=
  ⟨h'.failingWrites.trans h.failingWrites, h'.contended ∘ h.contended, h'.calm ∘ h.calm⟩

theorem subsides_request (r : Request) (w : World) : w.Subsides (w.request r).2 := by
  cases htake : Fault.take? r.method w.faults with
  | none =>
    simp only [request, htake]
    refine ⟨MemoryStore.failingWrites_answer _ r, id, fun h => ⟨h.faults, ?_⟩⟩
    exact MemoryStore.conflicts_answer h.conflicts r
  | some struck =>
    obtain ⟨e, left⟩ := struck
    obtain ⟨⟨f, hf, _⟩, hleft⟩ := Fault.take?_eq_some htake
    simp only [request, htake]
    refine ⟨rfl, fun h f hf => ?_, fun h => ?_⟩
    · obtain ⟨g, hg, hm, he⟩ := hleft f hf
      rw [← hm, ← he]
      exact h g hg
    · rw [h.faults] at hf
      cases hf

theorem get?_request {id : ObjectId} (h : r.id? ≠ some id) :
    (w.request r).2.store.objects.get? id = w.store.objects.get? id := by
  rcases request_cases r w with ⟨_, _, hs⟩ | ⟨_, hs, _⟩
  · rw [hs.1]
  · rw [hs, MemoryStore.get?_answer h]

end World

/-! ## Collecting among conflicts -/

section
variable {configNamespace : String} {defaults : Defaults} {key : ObjectKey} {w : World}

theorem Reading.bind_inWorld {α β : Type} {x : Reading α} {f : α → Reading β} {a : α} {w' : World}
    (h : x.run.inWorld w = (.ok a, w')) : (x >>= f).run.inWorld w = (f a).run.inWorld w' :=
  Dialogue.inWorld_bind h

theorem Reading.get_inWorld {k : Kind} {key' : ObjectKey} {found : Option k.Object}
    (hw : w.Contended) (h : w.store.read k key' = .ok found) :
    (Reading.get k key').run.inWorld w = (.ok found, w) := by
  have hr := World.request_of_contended (r := .get k key') hw id
  have ha : (Dialogue.request (.get k key')).inWorld w = (.ok found, w) := by
    change w.request (.get k key') = _
    rw [hr]
    simp only [MemoryStore.answer, h]
  exact Dialogue.inWorld_bind ha

theorem storageCredentials?_inWorld {config : EnvironmentConfig} {secret : Secret}
    (hw : w.Contended) (h : Snapshot.Credentials configNamespace w.store config secret) :
    (Snapshot.storageCredentials? configNamespace config).run.inWorld w = (.ok secret, w) := by
  unfold Snapshot.Credentials at h
  unfold Snapshot.storageCredentials?
  split
  · simp only [*] at h
    subst h
    rfl
  · simp only [*] at h
    rw [Reading.bind_inWorld (Reading.get_inWorld hw (MemoryStore.read_eq_some.mpr h))]
    rfl

theorem collect_of_reflects {x : Snapshot} (hw : w.Contended)
    (hx : x.Reflects configNamespace defaults key w.store) :
    (Collection.collect configNamespace defaults key).run.inWorld w =
      (.ok (some ⟨x, x.target⟩), w) := by
  have hsnapshot : (Snapshot.collect configNamespace defaults key).run.inWorld w =
      (.ok (some x), w) := by
    obtain ⟨e, he, henv⟩ := hx.environment
    obtain ⟨g, hg, hconfig⟩ := hx.config
    have hcredentials := hx.storageCredentials
    rw [henv] at hg
    rw [hconfig] at hcredentials
    have own {k : Kind} (hk : k.IsMade) := Reading.get_inWorld hw (hx.found hk)
    refine (Reading.bind_inWorld (Reading.get_inWorld hw (MemoryStore.read_eq_some.mpr he))).trans
      ?_
    refine (Reading.bind_inWorld (Reading.get_inWorld hw (MemoryStore.read_eq_some.mpr hg))).trans
      ?_
    refine (Reading.bind_inWorld (storageCredentials?_inWorld hw hcredentials)).trans ?_
    refine (Reading.bind_inWorld (own (k := .job) (.inl rfl))).trans ?_
    refine (Reading.bind_inWorld (own (k := .deployment) (.inr (.inl rfl)))).trans ?_
    refine (Reading.bind_inWorld (own (k := .service) (.inr (.inr (.inl rfl))))).trans ?_
    refine (Reading.bind_inWorld (own (k := .ingress) (.inr (.inr (.inr rfl))))).trans ?_
    refine (Reading.bind_inWorld (Reading.get_inWorld hw hx.credentials)).trans ?_
    rw [← hx.key_eq, ← henv, ← hconfig]
    rfl
  unfold Collection.collect
  rw [Reading.bind_inWorld hsnapshot]
  rfl

end
end EnvOperator
