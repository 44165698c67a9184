import EnvOperator.Proofs.Documents.Defaults
import EnvOperator.Proofs.Pass.Interrupted
import EnvOperator.Proofs.Run.Basic

/-! # Defaults in the store

Collecting fills in the defaults of an environment and of a configuration as soon as it has read
them, and looks at nothing of them before. So it makes no difference whether they have been filled
in in the store already.
-/
namespace EnvOperator

def Kind.applyDefaults (d : Defaults) : (k : Kind) → k.Object → k.Object
  | .environment => (·.applyDefaults d)
  | .environmentConfig => (·.applyDefaults d)
  | .secret | .job | .deployment | .service | .ingress => id

theorem Environment.applyDefaults_applyDefaults (e : Environment) (d : Defaults) :
    (e.applyDefaults d).applyDefaults d = e.applyDefaults d :=
  congrArg (fun spec => { e with spec }) (EnvironmentSpec.completes.idempotent e.spec d)

theorem EnvironmentConfig.applyDefaults_applyDefaults (g : EnvironmentConfig) (d : Defaults) :
    (g.applyDefaults d).applyDefaults d = g.applyDefaults d :=
  congrArg (fun spec => { g with spec }) (EnvironmentConfigSpec.completes.idempotent g.spec d)

namespace Dialogue
variable {α β : Type} {d : Defaults}

/-- A dialogue that only reads, and goes on in the same way whether or not what it has read has its
defaults filled in. -/
def Overlooks (d : Defaults) : Dialogue α → Prop
  | done _ => True
  | ask (.store (.get k _)) next =>
    (∀ o : k.Object, next (.ok (some (k.applyDefaults d o))) = next (.ok (some o))) ∧
      ∀ a, (next a).Overlooks d
  | ask _ _ => False

theorem Overlooks.bind {x : Dialogue α} {f : α → Dialogue β} (h : x.Overlooks d)
    (hf : ∀ a, (f a).Overlooks d) : (x >>= f).Overlooks d := by
  induction x with
  | done a => exact hf a
  | ask q next ih =>
    cases q with
    | tags => cases h
    | store r =>
      cases r with
      | get k key => exact ⟨fun o => congrArg (Dialogue.bind · f) (h.1 o), fun a => ih a (h.2 a)⟩
      | create | replace | delete | updateStatus => cases h

end Dialogue

namespace Reading
variable {α β : Type} {d : Defaults}

theorem overlooks_bind {x : Reading α} {f : α → Reading β} (h : x.run.Overlooks d)
    (hf : ∀ a, (f a).run.Overlooks d) : (x >>= f).run.Overlooks d := by
  refine Dialogue.Overlooks.bind h fun r => ?_
  cases r with
  | error e => trivial
  | ok a => exact hf a

/-- Whoever reads an object and first of all fills in its defaults overlooks whether they are
there. -/
theorem overlooks_get {k : Kind} {key : ObjectKey} {f : Option k.Object → Reading β}
    (ho : ∀ o, f (some (k.applyDefaults d o)) = f (some o))
    (hf : ∀ found, (f found).run.Overlooks d) : (get k key >>= f).run.Overlooks d := by
  refine ⟨fun o => congrArg ExceptT.run (ho o), fun a => ?_⟩
  rcases a with e | found
  · trivial
  · exact hf found

end Reading

namespace Snapshot
variable {configNamespace : String} {d : Defaults} {key : ObjectKey}

theorem overlooks_storageCredentials? (config : EnvironmentConfig) :
    (storageCredentials? configNamespace config).run.Overlooks d := by
  unfold storageCredentials?
  cases config.spec.storage.credentialsSecret with
  | none => trivial
  | some name =>
    refine Reading.overlooks_get (fun _ => rfl) fun found => ?_
    cases found <;> trivial

theorem overlooks_collect : (collect configNamespace d key).run.Overlooks d := by
  refine Reading.overlooks_get (fun e => ?_) fun found => ?_
  · have he : (e.applyDefaults d).applyDefaults d = e.applyDefaults d :=
      Environment.applyDefaults_applyDefaults e d
    simp only [Kind.applyDefaults, he]
  · cases found with
    | none => trivial
    | some e =>
      refine Reading.overlooks_get (fun g => ?_) fun found => ?_
      · have hg : (g.applyDefaults d).applyDefaults d = g.applyDefaults d :=
          EnvironmentConfig.applyDefaults_applyDefaults g d
        simp only [Kind.applyDefaults, hg]
      · cases found with
        | none => trivial
        | some g =>
          refine Reading.overlooks_bind (overlooks_storageCredentials? _) fun secret => ?_
          refine Reading.overlooks_get (fun _ => rfl) fun j => ?_
          refine Reading.overlooks_get (fun _ => rfl) fun dep => ?_
          refine Reading.overlooks_get (fun _ => rfl) fun v => ?_
          refine Reading.overlooks_get (fun _ => rfl) fun i => ?_
          exact Reading.overlooks_get (fun _ => rfl) fun cr => trivial

end Snapshot

theorem Collection.overlooks_collect (configNamespace : String) (d : Defaults) (key : ObjectKey) :
    (collect configNamespace d key).run.Overlooks d :=
  Reading.overlooks_bind Snapshot.overlooks_collect fun _ => trivial

namespace World
variable {d : Defaults} {w w' : World}

/-- The other world holds the same, though some of it with defaults filled in. -/
structure Fills (d : Defaults) (w w' : World) : Prop where
  read (k : Kind) (key : ObjectKey) : w'.store.read k key = w.store.read k key ∨
    ∃ o, w.store.read k key = .ok (some o) ∧ w'.store.read k key = .ok (some (k.applyDefaults d o))
  faults : w'.faults = w.faults

theorem fills_modify (d : Defaults) (w : World) (k : Kind) (key : ObjectKey) :
    w.Fills d (w.modify k key (k.applyDefaults d)) := by
  refine ⟨fun k' key' => ?_, ?_⟩
  · by_cases hid : (⟨k', key'⟩ : ObjectId) = ⟨k, key⟩
    · cases hid
      cases ho : w.store.stored? k key with
      | none => exact .inl (by simp only [modify, ho])
      | some o =>
        refine .inr ⟨o, MemoryStore.read_eq_some.mpr ho, MemoryStore.read_eq_some.mpr ?_⟩
        rw [stored?_modify, ho, Option.map_some]
    · exact .inl (MemoryStore.read_congr (get?_modify_of_ne hid w))
  · unfold modify
    split <;> rfl

theorem Fills.inWorld {α : Type} {x : Dialogue α} (h : w.Fills d w') (hx : x.Overlooks d) :
    (x.inWorld w').1 = (x.inWorld w).1 := by
  induction x generalizing w w' with
  | done a => rfl
  | ask q next ih =>
    cases q with
    | tags => cases hx
    | store r =>
      cases r with
      | get k key =>
        change ((next (w'.request (.get k key)).1).inWorld (w'.request (.get k key)).2).1 =
          ((next (w.request (.get k key)).1).inWorld (w.request (.get k key)).2).1
        simp only [request, h.faults]
        split
        · exact ih _ ⟨h.read, rfl⟩ (hx.2 _)
        · rcases h.read k key with hsame | ⟨o, ho, ho'⟩
          · simp only [MemoryStore.answer, hsame]
            exact ih _ ⟨h.read, rfl⟩ (hx.2 _)
          · simp only [MemoryStore.answer, ho, ho', hx.1]
            exact ih _ ⟨h.read, rfl⟩ (hx.2 _)
      | create | replace | delete | updateStatus => cases hx

end World

/-- What is set in a specification is kept, what is open is filled with its default if it has one,
and what has been filled in once stays. So environments and configurations whose defaults have been
filled in where they are stored are collected as before, with the same targets. -/
theorem Collection.defaults_invisible :
    Setting.Completes EnvironmentSpec.settings EnvironmentSpec.applyDefaults ∧
    Setting.Completes EnvironmentConfigSpec.settings EnvironmentConfigSpec.applyDefaults ∧
    ∀ (configNamespace : String) (d : Defaults) (key environmentKey configKey : ObjectKey)
      (w : World),
      let filled := (w.modify .environment environmentKey (·.applyDefaults d)).modify
        .environmentConfig configKey
        (·.applyDefaults d)
      ((collect configNamespace d key).run.inWorld filled).1 =
        ((collect configNamespace d key).run.inWorld w).1 := by
  refine ⟨EnvironmentSpec.completes, EnvironmentConfigSpec.completes,
    fun configNamespace d key environmentKey configKey w => ?_⟩
  have hcollect := overlooks_collect configNamespace d key
  have henvironment := (World.fills_modify d w .environment environmentKey).inWorld hcollect
  have hconfig :=
    (World.fills_modify d (w.modify .environment environmentKey (·.applyDefaults d))
      .environmentConfig configKey).inWorld hcollect
  exact hconfig.trans henvironment

end EnvOperator
