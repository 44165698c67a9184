import EnvOperator.Pipeline.Pass
import EnvOperator.Proofs.Dialogue.Rules
import EnvOperator.Proofs.Store.Effects

/-! # Collecting only reads

Collecting asks for the environment, for configurations and secrets, and for the objects that the
environment owns. What it finds is what the store holds, or else a failure.
-/
namespace EnvOperator

def Kind.IsMade (k : Kind) : Prop := k = .job ∨ k = .deployment ∨ k = .service ∨ k = .ingress

namespace ObjectKey

def own (key : ObjectKey) : Kind → ObjectKey
  | .job => key.sibling (Naming.buildJobName key.name)
  | _ => key

theorem own_injective {k : Kind} {key key' : ObjectKey} (h : key.own k = key'.own k) :
    key = key' := by
  obtain ⟨ns, name⟩ := key
  obtain ⟨ns', name'⟩ := key'
  cases k <;> simp_all [own, sibling, Naming.buildJobName]

def Owns (key : ObjectKey) (id : ObjectId) : Prop :=
  (id.kind = .environment ∨ id.kind.IsMade) ∧ id.key = key.own id.kind

def Collects (key : ObjectKey) : Query → Prop
  | .store (.get k key') => key.Owns ⟨k, key'⟩ ∨ k = .environmentConfig ∨ k = .secret
  | _ => False

end ObjectKey

namespace MemoryStore

/-- Answers to reads that come from a store, unless they are failures. -/
def Gives (s : MemoryStore) : (q : Query) → q.Answer → Prop
  | .store (.get k key), answer => (∃ e, answer = .error e) ∨ answer = s.read k key
  | _, _ => True

end MemoryStore

namespace Snapshot

def found (x : Snapshot) : (k : Kind) → Option k.Object
  | .job => x.job
  | .deployment => x.deployment
  | .service => x.service
  | .ingress => x.ingress
  | .environment | .environmentConfig | .secret => none

def Credentials (configNamespace : String) (s : MemoryStore) (config : EnvironmentConfig)
    (secret : Secret) : Prop :=
  match config.spec.storage.credentialsSecret with
  | none => secret = anonymousCredentials configNamespace
  | some name => s.stored? .secret ⟨configNamespace, name⟩ = some secret

theorem Credentials.congr {configNamespace : String} {s t : MemoryStore}
    {config : EnvironmentConfig} {secret : Secret} (h : Credentials configNamespace s config secret)
    (hs : ∀ key, t.stored? .secret key = s.stored? .secret key) :
    Credentials configNamespace t config secret := by
  unfold Credentials at h ⊢
  cases hnamed : config.spec.storage.credentialsSecret with
  | none => rwa [hnamed] at h
  | some name =>
    rw [hnamed] at h
    exact (hs _).trans h

/-- The snapshot shows what a store holds about an environment. -/
structure Reflects (configNamespace : String) (defaults : Defaults) (key : ObjectKey)
    (s : MemoryStore) (x : Snapshot) : Prop where
  key_eq : x.key = key
  environment : ∃ e, s.stored? .environment key = some e ∧ x.environment = e.applyDefaults defaults
  config : ∃ g, s.stored? .environmentConfig ⟨configNamespace, x.environment.configName⟩ = some g ∧
    x.config = g.applyDefaults defaults
  storageCredentials : Credentials configNamespace s x.config x.storageCredentials
  found {k : Kind} : k.IsMade → s.read k (key.own k) = .ok (x.found k)
  credentials :
    s.read .secret (key.sibling (Naming.credentialsSecretName key.name)) = .ok x.credentials

theorem Reflects.stored_eq {configNamespace : String} {defaults : Defaults} {key : ObjectKey}
    {s : MemoryStore} {x : Snapshot} (h : x.Reflects configNamespace defaults key s) {k : Kind}
    (hk : k.IsMade) :
    s.stored? k (key.own k) = x.found k := MemoryStore.stored?_of_read (h.found hk)

end Snapshot

/-- What a snapshot of an environment is made from. Which configuration and which secret that are,
the environment and the configuration say themselves. -/
inductive Snapshot.Source (configNamespace : String) (key : ObjectKey) (s : MemoryStore) :
    ObjectId → Prop
  | environment : Source configNamespace key s ⟨.environment, key⟩
  | config {e : Environment} (he : s.stored? .environment key = some e) :
      Source configNamespace key s ⟨.environmentConfig, ⟨configNamespace, e.configName⟩⟩
  | storageCredentials {e : Environment} {g : EnvironmentConfig} {name : String}
      (he : s.stored? .environment key = some e)
      (hg : s.stored? .environmentConfig ⟨configNamespace, e.configName⟩ = some g)
      (hname : g.spec.storage.credentialsSecret = some name) :
      Source configNamespace key s ⟨.secret, ⟨configNamespace, name⟩⟩
  | own {k : Kind} (hk : k.IsMade) : Source configNamespace key s ⟨k, key.own k⟩
  | credentials :
      Source configNamespace key s ⟨.secret, key.sibling (Naming.credentialsSecretName key.name)⟩

def Snapshot.AsksSource (configNamespace : String) (key : ObjectKey) (s : MemoryStore) (q : Query) :
    Prop :=
  ∃ id, Source configNamespace key s id ∧ q = .store (.get id.kind id.key)

def Snapshot.Misses (configNamespace : String) (key : ObjectKey) (s : MemoryStore) :
    PassError → Prop
  | .missingConfig m =>
    ∃ e, s.stored? .environment key = some e ∧ m = ⟨configNamespace, e.configName⟩ ∧
      s.objects.get? ⟨.environmentConfig, m⟩ = none
  | .missingCredentials m => ∃ e g name, s.stored? .environment key = some e ∧
      s.stored? .environmentConfig ⟨configNamespace, e.configName⟩ = some g ∧
      g.spec.storage.credentialsSecret = some name ∧ m = ⟨configNamespace, name⟩ ∧
      s.objects.get? ⟨.secret, m⟩ = none
  | .store _ => True
  | _ => False

/-- What collecting may come to if it does not fail: nothing where there is no environment, or what
the store shows. -/
def Collection.Found (configNamespace : String) (defaults : Defaults) (key : ObjectKey)
    (s : MemoryStore) : Option Collection → Prop
  | none => s.read .environment key = .ok none
  | some c => c.snapshot.Reflects configNamespace defaults key s ∧ c.target = c.snapshot.target

def OnOk {α : Type} (Q : α → Prop) : Except PassError α → Prop
  | .ok a => Q a
  | .error _ => True

section
variable {α β : Type} {sound : (q : Query) → q.Answer → Prop} {P : Query → Prop} {Q : α → Prop}
  {R : β → Prop}

theorem obeys_ok {a : α} (h : Q a) :
    (pure a : ExceptT PassError Dialogue α).run.Obeys sound P (OnOk Q) := h

theorem obeys_throw {e : PassError} :
    (throw e : ExceptT PassError Dialogue α).run.Obeys sound P (OnOk Q) := trivial

theorem obeys_bind_ok {x : ExceptT PassError Dialogue α} {f : α → ExceptT PassError Dialogue β}
    (h : x.run.Obeys sound P (OnOk Q)) (hf : ∀ a, Q a → (f a).run.Obeys sound P (OnOk R)) :
    (x >>= f).run.Obeys sound P (OnOk R) := by
  refine Dialogue.Obeys.bind h fun r hr => ?_
  cases r with
  | error e => trivial
  | ok a => exact hf a hr

end

section
variable {α β : Type} {configNamespace : String} {defaults : Defaults} {key : ObjectKey}
  {s : MemoryStore} {Q : α → Prop} {R : β → Prop}

def Snapshot.Ends (configNamespace : String) (key : ObjectKey) (s : MemoryStore) (Q : α → Prop) :
    Except PassError α → Prop
  | .ok a => Q a
  | .error e => Misses configNamespace key s e

/-- Reading that asks for nothing but the sources of an environment's snapshot, and ends as it
should. -/
def Reading.Consults (configNamespace : String) (key : ObjectKey) (s : MemoryStore) (Q : α → Prop)
    (x : Reading α) : Prop :=
  x.run.Obeys s.Gives (Snapshot.AsksSource configNamespace key s)
    (Snapshot.Ends configNamespace key s Q)

namespace Reading

theorem consults_pure {a : α} (h : Q a) : (pure a : Reading α).Consults configNamespace key s Q := h

theorem consults_throw {e : PassError} (h : Snapshot.Misses configNamespace key s e) :
    (throw e : Reading α).Consults configNamespace key s Q := h

theorem Consults.bind {x : Reading α} {f : α → Reading β} (h : x.Consults configNamespace key s Q)
    (hf : ∀ a, Q a → (f a).Consults configNamespace key s R) :
    (x >>= f).Consults configNamespace key s R := by
  refine Dialogue.Obeys.bind h fun r hr => ?_
  cases r with
  | error e => exact hr
  | ok a => exact hf a hr

theorem consults_get {k : Kind} {key' : ObjectKey}
    (h : Snapshot.Source configNamespace key s ⟨k, key'⟩) :
    (get k key').Consults configNamespace key s fun found => s.read k key' = .ok found := by
  have hget : (Dialogue.request (.get k key')).Obeys s.Gives
      (Snapshot.AsksSource configNamespace key s)
      (s.Gives (.store (.get k key'))) := Dialogue.obeys_request ⟨_, h, rfl⟩ fun _ ha => ha
  refine hget.bind fun a ha => ?_
  rcases a with e | found
  · trivial
  · rcases ha with ⟨e, he⟩ | ha
    · cases he
    · exact ha.symm

end Reading

theorem consults_storageCredentials? {e : Environment} {g : EnvironmentConfig}
    (he : s.stored? .environment key = some e)
    (hg : s.stored? .environmentConfig ⟨configNamespace, e.configName⟩ = some g) :
    (Snapshot.storageCredentials? configNamespace (g.applyDefaults defaults)).Consults
      configNamespace key s
      (Snapshot.Credentials configNamespace s (g.applyDefaults defaults)) := by
  have hsame : (g.applyDefaults defaults).spec.storage.credentialsSecret =
      g.spec.storage.credentialsSecret := rfl
  unfold Snapshot.storageCredentials? Snapshot.Credentials
  rw [hsame]
  cases hname : g.spec.storage.credentialsSecret with
  | none => exact Reading.consults_pure rfl
  | some name =>
    refine (Reading.consults_get (.storageCredentials he hg hname)).bind fun found h => ?_
    cases found with
    | none =>
      exact Reading.consults_throw ⟨e, g, name, he, hg, hname, rfl, MemoryStore.read_eq_none.mp h⟩
    | some secret => exact Reading.consults_pure (MemoryStore.read_eq_some.mp h)

theorem consults_snapshot :
    (Snapshot.collect configNamespace defaults key).Consults configNamespace key s
    fun found => match found with
      | none => s.read .environment key = .ok none
      | some x => x.Reflects configNamespace defaults key s := by
  refine (Reading.consults_get .environment).bind fun found henv => ?_
  cases found with
  | none => exact Reading.consults_pure henv
  | some e =>
    have he := MemoryStore.read_eq_some.mp henv
    refine (Reading.consults_get (.config he)).bind fun found hcfg => ?_
    cases found with
    | none => exact Reading.consults_throw ⟨e, he, rfl, MemoryStore.read_eq_none.mp hcfg⟩
    | some g =>
      have hg := MemoryStore.read_eq_some.mp hcfg
      refine (consults_storageCredentials? he hg).bind fun secret hsec => ?_
      refine (Reading.consults_get (.own (k := .job) (.inl rfl))).bind fun j hj => ?_
      refine (Reading.consults_get (.own (k := .deployment) (.inr (.inl rfl)))).bind fun d hd => ?_
      refine (Reading.consults_get (.own (k := .service) (.inr (.inr (.inl rfl))))).bind
        fun v hv => ?_
      refine (Reading.consults_get (.own (k := .ingress) (.inr (.inr (.inr rfl))))).bind
        fun i hi => ?_
      refine (Reading.consults_get .credentials).bind fun cr hcr => ?_
      refine Reading.consults_pure ⟨rfl, ⟨e, he, rfl⟩, ⟨g, hg, rfl⟩, hsec, fun hk => ?_, hcr⟩
      rcases hk with rfl | rfl | rfl | rfl
      · exact hj
      · exact hd
      · exact hv
      · exact hi

/-- Collecting asks only for the sources of the snapshot, and finds what the store holds or tells
what is missing. -/
theorem consults_collect (configNamespace : String) (defaults : Defaults) (key : ObjectKey)
    (s : MemoryStore) :
    (Collection.collect configNamespace defaults key).Consults configNamespace key s
      (Collection.Found configNamespace defaults key s) := by
  unfold Collection.collect
  refine consults_snapshot.bind fun found h => ?_
  cases found with
  | none => exact Reading.consults_pure h
  | some x => exact Reading.consults_pure ⟨h, rfl⟩

theorem Snapshot.AsksSource.collects {q : Query} (h : AsksSource configNamespace key s q) :
    key.Collects q := by
  obtain ⟨id, hid, rfl⟩ := h
  cases hid with
  | environment => exact .inl ⟨.inl rfl, rfl⟩
  | config => exact .inr (.inl rfl)
  | storageCredentials => exact .inr (.inr rfl)
  | own hk => exact .inl ⟨.inr hk, rfl⟩
  | credentials => exact .inr (.inr rfl)

/-- Collecting asks only what it needs to know, and finds what the store holds. -/
theorem obeys_collect (configNamespace : String) (defaults : Defaults) (key : ObjectKey)
    (s : MemoryStore) :
    (Collection.collect configNamespace defaults key).run.Obeys s.Gives key.Collects
      (OnOk (Collection.Found configNamespace defaults key s)) := by
  refine (consults_collect configNamespace defaults key s).mono (fun _ _ => id)
    (fun _ h => h.collects) fun r hr => ?_
  cases r with
  | error e => trivial
  | ok found => exact hr

end

namespace World
variable {w w' : World}

/-- A world stays the same while it answers reads, and gives what is in its store. -/
theorem gives_of_collects {key : ObjectKey} {q : Query} (hq : key.Collects q) (w : World) :
    w.store.Gives q (World.answer q w).1 ∧ w.Same (World.answer q w).2 := by
  cases q with
  | tags url repository => cases hq
  | store r =>
    cases r with
    | get k key' =>
      refine ⟨?_, same_get k key' w⟩
      rcases request_cases (.get k key') w with ⟨e, he, _⟩ | ⟨ha, _, _⟩
      · exact .inl ⟨e, he⟩
      · exact .inr ha
    | create | replace | delete | updateStatus => cases hq

/-- Whoever answers for a world passes requests on to its store, and changes it in no other way. -/
structure Answers (answer : (q : Query) → World → q.Answer × World) : Prop where
  store : ∀ r w, answer (.store r) w = w.request r
  tags : ∀ url repository w, (answer (.tags url repository) w).2 = w

theorem answers_answer : Answers answer := ⟨fun _ _ => rfl, fun _ _ _ => rfl⟩

namespace Answers
variable {answer : (q : Query) → World → q.Answer × World}

theorem snd (h : Answers answer) (q : Query) (w : World) :
    (answer q w).2 = (World.answer q w).2 := by
  cases q with
  | store r => rw [h.store]; rfl
  | tags url repository => exact h.tags url repository w

theorem gives (h : Answers answer) {key : ObjectKey} {q : Query} {v : World} (hq : key.Collects q)
    (hv : w.Same v) : w.store.Gives q (answer q v).1 ∧ w.Same (answer q v).2 := by
  cases q with
  | tags => cases hq
  | store r =>
    obtain ⟨hg, hs⟩ := gives_of_collects hq v
    rw [h.store]
    exact ⟨hv.1 ▸ hg, hv.trans hs⟩

section
variable (h : Answers answer) {configNamespace : String} {defaults : Defaults} {key : ObjectKey}
include h

theorem collected {r : Except PassError (Option Collection)}
    (hc : (Collection.collect configNamespace defaults key).run.run answer w = (r, w')) :
    OnOk (Collection.Found configNamespace defaults key w.store) r ∧ w.Same w' := by
  have hr := (obeys_collect configNamespace defaults key w.store).run (World.Same.refl w) fun _ _ =>
    h.gives
  rwa [hc] at hr

theorem asked_collect {q : Query}
    (hq : q ∈ (Collection.collect configNamespace defaults key).run.asked answer w) :
    key.Collects q :=
  (obeys_collect configNamespace defaults key w.store).asked (World.Same.refl w)
    (fun _ _ => h.gives) q hq

end
end Answers

theorem collect_effect {configNamespace : String} {defaults : Defaults} {key : ObjectKey}
    {r : Except PassError (Option Collection)}
    (h : (Collection.collect configNamespace defaults key).run.inWorld w = (r, w')) :
    OnOk (Collection.Found configNamespace defaults key w.store) r ∧ w.Same w' :=
  answers_answer.collected h

end World
end EnvOperator
