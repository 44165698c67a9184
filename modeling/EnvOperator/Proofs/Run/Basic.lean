import EnvOperator.Proofs.Pass.Outcomes

/-! # Runs

A run is made of passes, of what others do to the world, and of losses of memory. What others may do
is a relation between worlds; the usual restrictions on it are stated here.
-/
namespace EnvOperator

/-- What the operator remembers and the world around it. -/
structure Moment where
  memory : PassMemory
  world : World

def Moment.pass (settings : Settings) (now : Instant) (key : ObjectKey) (m : Moment) :
    Except PassError Outcome × Moment :=
  let r := (Pass.run settings now key m.memory).inWorld m.world
  (r.1.1, ⟨r.1.2, r.2⟩)

theorem Moment.pass_comes (settings : Settings) (now : Instant) (key : ObjectKey) (m : Moment) :
    Pass.Comes settings now key m.world (m.pass settings now key).2.world
      (m.pass settings now key).1 :=
  Pass.comes rfl

/-- One pass of a run: when it was, whose it was, and what it began with. -/
structure Visit where
  now : Instant
  key : ObjectKey
  before : Moment

namespace Visit
variable (settings : Settings) (v : Visit)

def after : Moment := (v.before.pass settings v.now v.key).2

def led : Option Stage := Pass.led World.answer settings v.key v.before.world

def exchanged : List ((q : Query) × q.Answer) :=
  (Pass.run settings v.now v.key v.before.memory).exchanged World.answer v.before.world

end Visit

/-- The moments that are reached from a first one, with the passes on the way there, the latest
first. -/
inductive Run (settings : Settings) (others : World → World → Prop) (first : Moment) :
    List Visit → Moment → Prop
  | first : Run settings others first [] first
  | pass {past : List Visit} {m : Moment} (now : Instant) (key : ObjectKey)
      (h : Run settings others first past m) :
      Run settings others first (⟨now, key, m⟩ :: past) (m.pass settings now key).2
  | others {past : List Visit} {m : Moment} {w : World} (h : Run settings others first past m)
      (hw : others m.world w) : Run settings others first past ⟨m.memory, w⟩
  | restart {past : List Visit} {m : Moment} (memory : PassMemory)
      (h : Run settings others first past m) :
      Run settings others first past ⟨memory, m.world⟩

namespace World

/-- Nobody writes a status. Environments may be changed otherwise, be removed, or be made without a
status; a document that cannot be read may be repaired, with the status that is in it. -/
def StatusesKept (w w' : World) : Prop := ∀ key st,
  w'.store.writtenStatus? key = some st → w.store.writtenStatus? key = some st

/-- Nobody makes an object of a kind or has it carry another revision. -/
def NoneMade (k : Kind) (w w' : World) : Prop := ∀ key o', w'.store.stored? k key = some o' →
  ∃ o, w.store.stored? k key = some o ∧ (k.metadata o).revision = (k.metadata o').revision

def NoneLost (k : Kind) (w w' : World) : Prop := ∀ key o, w.store.stored? k key = some o →
  ∃ o', w'.store.stored? k key = some o'

def modify (k : Kind) (key : ObjectKey) (f : k.Object → k.Object) (w : World) : World :=
  match w.store.stored? k key with
  | none => w
  | some o =>
    { w with store := { w.store with
        objects := w.store.objects.insert ⟨k, key⟩ (k.codec.encode (f o)) } }

section modify
variable {k k' : Kind} {key key' : ObjectKey} {f : k.Object → k.Object}

@[simp] theorem stored?_modify (w : World) (k : Kind) (key : ObjectKey) (f : k.Object → k.Object) :
    (w.modify k key f).store.stored? k key = (w.store.stored? k key).map f := by
  unfold modify
  split
  · simp [*]
  · rw [MemoryStore.stored?_of_insert rfl]
    simp [*]

theorem get?_modify_of_ne {id : ObjectId} (h : id ≠ ⟨k, key⟩) (w : World) :
    (w.modify k key f).store.objects.get? id = w.store.objects.get? id := by
  unfold modify
  split
  · rfl
  · simp [h]

theorem stored?_modify_of_ne (h : (⟨k', key'⟩ : ObjectId) ≠ ⟨k, key⟩) (w : World) :
    (w.modify k key f).store.stored? k' key' = w.store.stored? k' key' :=
  MemoryStore.stored?_congr (get?_modify_of_ne h w)

theorem statusesKept_modify (hk : k ≠ .environment) (w : World) :
    w.StatusesKept (w.modify k key f) := by
  intro key' st hst
  have hid := ObjectId.ne_of_kind hk.symm key' key
  rwa [MemoryStore.writtenStatus?_congr (get?_modify_of_ne hid w)] at hst

theorem statusesKept_modify_environment {f : Environment → Environment}
    (hf : ∀ e, (f e).status = e.status) (w : World) :
    w.StatusesKept (w.modify .environment key f) := by
  intro key' st hst
  by_cases hid : (⟨.environment, key'⟩ : ObjectId) = ⟨.environment, key⟩
  · cases hid
    cases he : w.store.stored? .environment key with
    | none => simpa [modify, he] using hst
    | some e =>
      have he' : (w.modify .environment key f).store.stored? .environment key = some (f e) := by
        rw [stored?_modify, he]
        rfl
      rwa [MemoryStore.writtenStatus?_of_stored he', hf,
        ← MemoryStore.writtenStatus?_of_stored he] at hst
  · rwa [MemoryStore.writtenStatus?_congr (get?_modify_of_ne hid w)] at hst

theorem noneMade_modify (hf : ∀ o, (k.metadata (f o)).revision = (k.metadata o).revision)
    (k' : Kind) (w : World) : w.NoneMade k' (w.modify k key f) := by
  intro key' o' ho'
  by_cases hid : (⟨k', key'⟩ : ObjectId) = ⟨k, key⟩
  · cases hid
    rw [stored?_modify] at ho'
    obtain ⟨o, ho, rfl⟩ := Option.map_eq_some_iff.mp ho'
    exact ⟨o, ho, (hf o).symm⟩
  · exact ⟨o', by rwa [stored?_modify_of_ne hid] at ho', rfl⟩

theorem noneLost_modify (k' : Kind) (w : World) : w.NoneLost k' (w.modify k key f) := by
  intro key' o ho
  by_cases hid : (⟨k', key'⟩ : ObjectId) = ⟨k, key⟩
  · cases hid
    exact ⟨f o, by rw [stored?_modify, ho]; rfl⟩
  · exact ⟨o, by rwa [stored?_modify_of_ne hid]⟩

end modify

end World

namespace Moment

def alter (m : Moment) (f : World → World) : Moment := ⟨m.memory, f m.world⟩

end Moment

theorem Except.ok_of_toOption {ε α : Type} {x : Except ε α} {a : α} (h : x.toOption = some a) :
    x = .ok a := by
  cases x with
  | error e => cases h
  | ok b => exact congrArg Except.ok (Option.some.inj h)

/-! A small world: one environment that asks for a revision, and its configuration. -/
namespace Sample

def key : ObjectKey := ⟨"dev", "web"⟩

def environment : Environment where
  metadata := { name := some "web", ns := some "dev", uid := some "u-1" }
  spec := { revision := some "1", replicas := some 0 }

def config : EnvironmentConfig where
  metadata := { name := some "web", ns := some "kiln-system" }
  spec := {}

def first : Moment where
  memory := { stalls := { ceiling := none } }
  world := { store := { objects := .ofList [
    (⟨.environment, key⟩, Environment.codec.encode environment),
    (⟨.environmentConfig, ⟨"kiln-system", "web"⟩⟩, EnvironmentConfig.codec.encode config)] } }

def pass (m : Moment) : Moment := (m.pass {} .epoch key).2

def Refusing (w w' : World) : Prop := w' = w.inject ⟨.updateStatus, .api "", 1⟩

def refuse (m : Moment) : Moment := m.alter (·.inject ⟨.updateStatus, .api "", 1⟩)

/-- A build job is made, the status that should follow it cannot be written, and the next pass finds
the job. -/
def skipped : Moment := pass (pass (refuse (pass first)))

theorem run_skipped : Run {} Refusing first
    [⟨.epoch, key, pass (refuse (pass first))⟩, ⟨.epoch, key, refuse (pass first)⟩,
      ⟨.epoch, key, first⟩] skipped :=
  .pass _ _ (.pass _ _ (.others (.pass _ _ .first) rfl))

end Sample

namespace Sample.Refusing
variable {w w' : World}

theorem statusesKept (h : Refusing w w') : w.StatusesKept w' := by
  cases h
  exact fun _ _ hst => hst

theorem noneMade (h : Refusing w w') (k : Kind) : w.NoneMade k w' := by
  cases h
  exact fun _ o ho => ⟨o, ho, rfl⟩

end Sample.Refusing
end EnvOperator
