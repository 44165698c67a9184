import EnvOperator.Proofs.Pass.Effects

/-! # What a pass comes to

A pass fails to collect, finds nothing, rests, or takes one step and stores the status that follows.
Whoever needs to know what a pass does goes through these cases.
-/
namespace EnvOperator

/-- A stage that may follow when a step has led to another: that stage, or the failure it has
stalled into. -/
def Stage.Becomes (stage next : Stage) : Prop :=
  next = stage ∨ stage.isWaiting = true ∧ next = stage.escalated

namespace StallTable

theorem record_of_not_waiting {t : StallTable} {key : String} {stage : Stage}
    (h : stage.isWaiting = false) : t.record key stage = (false, t.clear key) := by
  simp [record, h]

theorem escalate_becomes (t : StallTable) (key : String) (next : Stage) :
    next.Becomes (t.escalate key next).1 := by
  unfold escalate
  split
  · rename_i hr
    cases hw : next.isWaiting with
    | false => simp [record_of_not_waiting hw] at hr
    | true => exact .inr ⟨hw, rfl⟩
  · exact .inl rfl

end StallTable

def MemoryStore.status? (s : MemoryStore) (key : ObjectKey) : Option EnvironmentStatus :=
  (s.stored? .environment key).bind (·.status)

/-- What a document says of the status of an environment, also where the rest cannot be read. -/
def Environment.statusIn? (document : Json) : Option EnvironmentStatus :=
  match codec.decode document with
  | some e => e.status
  | none => (document.member? "status").bind EnvironmentStatus.codec.decode

namespace MemoryStore
variable {s t : MemoryStore} {key : ObjectKey}

def writtenStatus? (s : MemoryStore) (key : ObjectKey) : Option EnvironmentStatus :=
  (s.objects.get? ⟨.environment, key⟩).bind Environment.statusIn?

theorem writtenStatus?_of_stored {e : Environment} (he : s.stored? .environment key = some e) :
    s.writtenStatus? key = e.status := by
  obtain ⟨document, hd, hdecode⟩ := Option.bind_eq_some_iff.mp he
  have hread : Environment.codec.decode document = some e := hdecode
  simp [writtenStatus?, hd, Environment.statusIn?, hread]

theorem writtenStatus?_of_status {st : EnvironmentStatus} (h : s.status? key = some st) :
    s.writtenStatus? key = some st := by
  obtain ⟨e, he, hst⟩ := Option.bind_eq_some_iff.mp h
  rw [writtenStatus?_of_stored he, hst]

theorem writtenStatus?_congr
    (h : t.objects.get? ⟨.environment, key⟩ = s.objects.get? ⟨.environment, key⟩) :
    t.writtenStatus? key = s.writtenStatus? key := by
  rw [writtenStatus?, h, writtenStatus?]

end MemoryStore

theorem Environment.status_eq {e : Environment} (h : e.statusOrInitial ≠ {}) :
    e.status = some e.statusOrInitial := by
  unfold statusOrInitial at h ⊢
  cases hst : e.status with
  | none =>
    rw [hst] at h
    exact absurd rfl h
  | some st => rfl

theorem Environment.status_eq_of_expected {e : Environment} {r : String}
    (h : e.statusOrInitial.expectedRevision = some r) : e.status = some e.statusOrInitial := by
  apply Environment.status_eq
  intro hinitial
  rw [hinitial] at h
  cases h

inductive World.Stores (key : ObjectKey) (now : Instant) (before status : EnvironmentStatus)
    (w w' : World) : Prop
  | unchanged (h : status = before) (hs : w.Same w')
  | refused (ho : w'.store.objects = w.store.objects) (hr : w'.registry = w.registry)
  | written {e : Environment} (he : w.store.stored? .environment key = some e)
      (ho : w'.store.objects = w.store.objects.insert ⟨.environment, key⟩
        (Environment.codec.encode
          { e with status := some { status with lastUpdated := some now } }))
      (hr : w'.registry = w.registry)

theorem World.stores_request (key : ObjectKey) (now : Instant) (before status : EnvironmentStatus)
    (w : World) :
    w.Stores key now before status
      (w.request (.updateStatus key { status with lastUpdated := some now })).2 := by
  have hr := World.registry_request (.updateStatus key { status with lastUpdated := some now }) w
  rcases h : w.request (.updateStatus key { status with lastUpdated := some now }) with
    ⟨e | u, w'⟩ <;> rw [h] at hr
  · exact .refused (World.objects_of_error h) hr
  · obtain ⟨e, he, ho⟩ := World.updateStatus_ok h
    exact .written he ho hr

def Collection.status (c : Collection) : EnvironmentStatus :=
  c.snapshot.environment.statusOrInitial

namespace Pass
variable {settings : Settings} {now : Instant} {key : ObjectKey} {w w' : World}

/-- Where the step of a pass leads, if a stage has its turn. -/
def led (answer : (q : Query) → World → q.Answer × World) (settings : Settings) (key : ObjectKey)
    (w : World) : Option Stage :=
  match (Collection.collect settings.configNamespace settings.defaults key).run.run answer w with
  | (.ok (some c), w₁) => (c.status.turn c.snapshot.revision).map fun stage =>
    ((c.step { c.status with stage } stage).run answer w₁).1.next
  | _ => none

structure Dispatches (answer : (q : Query) → World → q.Answer × World) (settings : Settings)
    (key : ObjectKey) (w : World) (c : Collection) (stage : Stage) (t : Transition)
    (w' : World) : Prop where
  turn : c.status.turn c.snapshot.revision = some stage
  step : ∃ w₁,
    (Collection.collect settings.configNamespace settings.defaults key).run.run answer w =
      (.ok (some c), w₁) ∧
    (c.step { c.status with stage } stage).run answer w₁ = (t, w')

theorem Dispatches.led_eq {answer : (q : Query) → World → q.Answer × World} {c : Collection}
    {stage : Stage} {t : Transition} (hd : Dispatches answer settings key w c stage t w') :
    led answer settings key w = some t.next := by
  obtain ⟨w₀, hc, hstep⟩ := hd.step
  unfold led
  rw [hc]
  dsimp only
  rw [hd.turn, Option.map_some, hstep]

theorem persist_stores {before status : EnvironmentStatus} {r : Except StoreError Unit}
    (h : (persist key before status now).inWorld w = (r, w')) :
    w.Stores key now before status w' := by
  unfold persist at h
  split at h
  · rename_i hs
    cases h
    exact .unchanged hs (World.Same.refl w)
  · have hstores := World.stores_request key now before status w
    change w.request (.updateStatus key { status with lastUpdated := some now }) = (r, w') at h
    rwa [h] at hstores

structure Finds (settings : Settings) (key : ObjectKey) (w : World) (e : Environment)
    (c : Collection) (stage : Stage) : Prop where
  environment : w.store.stored? .environment key = some e
  reflects : c.snapshot.Reflects settings.configNamespace settings.defaults key w.store
  target : c.target = c.snapshot.target
  shown : c.snapshot.environment = e.applyDefaults settings.defaults
  turn : e.statusOrInitial.turn e.spec.revision = some stage

structure Takes (settings : Settings) (key : ObjectKey) (w : World) (e : Environment)
    (c : Collection) (stage : Stage) (t : Transition) (w' : World) :
    Prop extends Finds settings key w e c stage where
  steps : c.Steps { e.statusOrInitial with stage } stage w t w'
  led : Pass.led World.answer settings key w = some t.next

inductive Comes (settings : Settings) (now : Instant) (key : ObjectKey) (w w' : World) :
    Except PassError Outcome → Prop
  | failed {e : PassError} (hs : w.Same w') : Comes settings now key w w' (.error e)
  | gone (hn : w.store.read .environment key = .ok none) (hs : w.Same w') :
      Comes settings now key w w' (.ok .gone)
  | idle {e : Environment} (he : w.store.stored? .environment key = some e)
      (ht : e.statusOrInitial.turn e.spec.revision = none) (hs : w.Same w') :
      Comes settings now key w w' (.ok (.idle e.statusOrInitial.stage))
  | stepped {e : Environment} {c : Collection} {stage next : Stage} {t : Transition} {w₁ : World}
      {r : Except PassError Outcome} (ht : Takes settings key w e c stage t w₁)
        (hnext : t.next.Becomes next)
      (hstores : w₁.Stores key now e.statusOrInitial { t.status with stage := next } w')
      (hr : (∃ x, r = .error x) ∨ r = .ok (.ofStage settings next)) : Comes settings now key w w' r

theorem finish_stores {before : EnvironmentStatus} {m m' : PassMemory} {t : Transition}
    {r : Except PassError Outcome}
    (h : (finish settings now key before m t).inWorld w = ((r, m'), w')) :
    ∃ next, t.next.Becomes next ∧ w.Stores key now before { t.status with stage := next } w' ∧
      ((∃ x, r = .error x) ∨ r = .ok (.ofStage settings next)) := by
  unfold finish at h
  have hn := m.stalls.escalate_becomes key.text t.next
  rcases he : m.stalls.escalate key.text t.next with ⟨next, stalls⟩
  rw [he] at h hn
  obtain ⟨a, w₁, ha, hb⟩ := Dialogue.inWorld_bind_iff.mp h
  refine ⟨next, hn, ?_⟩
  have hstores := persist_stores ha
  rcases a with e | u
  · cases hb
    exact ⟨hstores, .inl ⟨_, rfl⟩⟩
  · dsimp only at hb
    split at hb <;> cases hb
    · exact ⟨hstores, .inl ⟨_, rfl⟩⟩
    · exact ⟨hstores, .inr rfl⟩

end Pass

theorem Collection.Steps.of_same {c : Collection} {status : EnvironmentStatus} {stage : Stage}
    {w w₀ w' : World} {t : Transition} (h : c.Steps status stage w₀ t w') (hs : w.Same w₀) :
    c.Steps status stage w t w' where
  leads := hs.2 ▸ h.leads
  changed := (Changed.of_objects hs.2 (by rw [hs.1])).trans h.changed
  built := h.built
  applied := h.applied

/-- The defaults leave the status of an environment and its revision alone. -/
theorem Snapshot.Reflects.exists_environment {configNamespace : String} {defaults : Defaults}
    {key : ObjectKey} {s : MemoryStore} {x : Snapshot}
    (h : x.Reflects configNamespace defaults key s) :
    ∃ e, s.stored? .environment key = some e ∧ x.environment = e.applyDefaults defaults ∧
      x.environment.statusOrInitial = e.statusOrInitial ∧ x.revision = e.spec.revision := by
  obtain ⟨e, he, henv⟩ := h.environment
  refine ⟨e, he, henv, ?_, ?_⟩
  · rw [henv]
    rfl
  · rw [revision, henv]
    rfl

namespace Pass
variable {settings : Settings} {now : Instant} {key : ObjectKey} {w w' : World}

theorem proceed_comes {c : Collection} {m m' : PassMemory} {w₀ : World}
    {r : Except PassError Outcome}
    (hcollect : (Collection.collect settings.configNamespace settings.defaults key).run.inWorld w =
      (.ok (some c), w₀))
    (h : (proceed settings now key m c).inWorld w₀ = ((r, m'), w')) :
    Comes settings now key w w' r := by
  obtain ⟨⟨hx, htarget⟩, hs⟩ := World.collect_effect hcollect
  obtain ⟨e, he, henv, hbefore, hrevision⟩ := hx.exists_environment
  unfold proceed at h
  dsimp only at h
  rw [hbefore, hrevision] at h
  split at h
  · cases h
    exact .idle he ‹_› hs
  · rename_i stage hturn
    obtain ⟨t, w₁, ht, hb⟩ := Dialogue.inWorld_bind_iff.mp h
    obtain ⟨next, hnext, hstores, hr⟩ := finish_stores hb
    have hsteps := (Collection.steps htarget ht).of_same hs
    have hdispatches : Dispatches World.answer settings key w c stage t w₁ := by
      refine ⟨?_, w₀, hcollect, ?_⟩
      · rw [Collection.status, hbefore, hrevision, hturn]
      · rw [Collection.status, hbefore]
        exact ht
    exact .stepped ⟨⟨he, hx, htarget, henv, hturn⟩, hsteps, hdispatches.led_eq⟩ hnext hstores hr

/-- Every pass comes to one of the cases. -/
theorem comes {m m' : PassMemory} {r : Except PassError Outcome}
    (h : (run settings now key m).inWorld w = ((r, m'), w')) :
    Comes settings now key w w' r := by
  obtain ⟨found, w₀, hcollect, hb⟩ := Dialogue.inWorld_bind_iff.mp h
  rcases found with e | _ | c
  · cases hb
    exact .failed (World.collect_effect hcollect).2
  · cases hb
    obtain ⟨hfound, hs⟩ := World.collect_effect hcollect
    exact .gone hfound hs
  · exact proceed_comes hcollect hb

end Pass

namespace EnvironmentStatus
variable {status : EnvironmentStatus}

/-- A stage has its turn to start over for another revision, or to go on with the same one. -/
theorem turn_eq_some {revision : Option String} {stage : Stage}
    (h : status.turn revision = some stage) :
    ∃ r, revision = some r ∧ (status.expectedRevision ≠ some r ∧ stage = .initial ∨
      status.expectedRevision = some r ∧ status.deployedRevision ≠ some r ∧
      stage = status.stage) := by
  unfold turn at h
  split at h
  · cases h
  · rename_i r
    refine ⟨r, rfl, ?_⟩
    by_cases he : status.expectedRevision = some r
    · simp only [he, ne_eq, not_true_eq_false, if_false] at h
      split at h
      · cases h
      · split at h <;> cases h
        exact .inr ⟨he, ‹_›, rfl⟩
    · simp only [he, ne_eq, not_false_eq_true, if_true] at h
      cases h
      exact .inl ⟨he, rfl⟩

theorem turn_eq_none {r : String} (h : status.turn (some r) = none) :
    status.expectedRevision = some r ∧
    (status.deployedRevision = some r ∨ status.stage.isFailure = true) := by
  simp only [turn] at h
  split at h
  · cases h
  · rename_i he
    refine ⟨Classical.not_not.mp he, ?_⟩
    split at h
    · exact .inl ‹_›
    · split at h
      · exact .inr ‹_›
      · cases h

end EnvironmentStatus

namespace Pass
variable {settings : Settings} {key : ObjectKey} {w w' : World} {e : Environment} {c : Collection}
  {stage : Stage} {t : Transition}

namespace Finds

theorem key_eq (h : Finds settings key w e c stage) : c.snapshot.key = key := h.reflects.key_eq

theorem revision_eq (h : Finds settings key w e c stage) :
    c.snapshot.revision = e.spec.revision := by
  rw [Snapshot.revision, h.shown]
  rfl

theorem keyOf_wanted (h : Finds settings key w e c stage) {k : Kind} {o : k.Object}
    (ho : c.wanted k = some o) : k.keyOf o = .ok (key.own k) := by
  rw [Collection.keyOf_wanted h.target ho, h.key_eq]

theorem revision_wanted (h : Finds settings key w e c stage) {k : Kind} {o : k.Object}
    (ho : c.wanted k = some o) : (k.metadata o).revision = e.spec.revision := by
  obtain ⟨r, hr, _⟩ := EnvironmentStatus.turn_eq_some h.turn
  rw [Collection.revision_wanted h.target ho, Snapshot.revisionText, h.revision_eq, hr]
  rfl

/-- A stage other than the first has its turn because the stored status is at it and expects the
revision. -/
theorem of_ne_initial (h : Finds settings key w e c stage) (hs : stage ≠ .initial) :
    w.store.status? key = some e.statusOrInitial ∧ e.statusOrInitial.stage = stage ∧
      e.statusOrInitial.expectedRevision = e.spec.revision ∧
      e.statusOrInitial.deployedRevision ≠ e.spec.revision := by
  obtain ⟨r, hr, ⟨_, hi⟩ | ⟨he, hd, hstage⟩⟩ := EnvironmentStatus.turn_eq_some h.turn
  · exact absurd hi hs
  · rw [MemoryStore.status?, h.environment, hr]
    exact ⟨Environment.status_eq_of_expected he, hstage.symm, he, hd⟩

end Finds

namespace Takes

theorem stored_eq (h : Takes settings key w e c stage t w') {k : Kind} (hk : ¬ stage.Makes k)
    (key' : ObjectKey) : w'.store.stored? k key' = w.store.stored? k key' :=
  MemoryStore.stored?_congr (h.steps.changed.frame hk key')

theorem built (h : Takes settings key w e c stage t w') (hs : stage = .buildImage)
    (hn : t.next = .buildImageWait) : w'.store.stored? .job (key.own .job) = some c.target.job := by
  have hb := h.steps.built hs hn
  rwa [h.key_eq] at hb

theorem applied (h : Takes settings key w e c stage t w') (hs : stage = .deploy)
    (hn : t.next = .deployVerify) :
    w'.store.stored? .deployment key = some c.target.deployment := by
  have ha := h.steps.applied hs hn
  rwa [h.key_eq] at ha

end Takes
end Pass

namespace World.Stores
variable {key : ObjectKey} {now : Instant} {before status : EnvironmentStatus} {w w' : World}

theorem frame (h : w.Stores key now before status w') {k : Kind} (hk : k ≠ .environment)
    (key' : ObjectKey) : w'.store.objects.get? ⟨k, key'⟩ = w.store.objects.get? ⟨k, key'⟩ := by
  have hne := ObjectId.ne_of_kind hk key' key
  cases h with
  | unchanged _ hs => rw [hs.1]
  | refused ho => rw [ho]
  | written _ ho => simp [ho, hne]

/-- The document of an environment stays as it is, or the status in it is written. -/
theorem environment_cases (h : w.Stores key now before status w') (key' : ObjectKey) :
    w'.store.objects.get? ⟨.environment, key'⟩ = w.store.objects.get? ⟨.environment, key'⟩ ∨
    key' = key ∧ ∃ e, w.store.stored? .environment key = some e ∧
      w'.store.stored? .environment key =
        some { e with status := some { status with lastUpdated := some now } } := by
  cases h with
  | unchanged _ hs => exact .inl (by rw [hs.1])
  | refused ho => exact .inl (by rw [ho])
  | @written e he ho =>
    by_cases hk : key' = key
    · exact .inr ⟨hk, e, he, MemoryStore.stored?_of_insert (k := .environment) ho⟩
    · have hid : (⟨.environment, key'⟩ : ObjectId) ≠ ⟨.environment, key⟩ := by
        intro h
        cases h
        exact hk rfl
      exact .inl (by simp [ho, hid])

theorem status?_cases (h : w.Stores key now before status w') {key' : ObjectKey}
    {st : EnvironmentStatus} (hst : w'.store.status? key' = some st) :
    w.store.status? key' = some st ∨
      key' = key ∧ st = { status with lastUpdated := some now } := by
  rcases h.environment_cases key' with hkept | ⟨rfl, e, _, he⟩
  · exact .inl (by rwa [MemoryStore.status?, MemoryStore.stored?_congr hkept] at hst)
  · rw [MemoryStore.status?, he] at hst
    exact .inr ⟨rfl, (Option.some.inj hst).symm⟩

end World.Stores

namespace Pass.Comes
variable {settings : Settings} {now : Instant} {key : ObjectKey} {w w' : World}
  {r : Except PassError Outcome}

/-- A pass leaves the document of an environment as it is, or it has taken a step for it and written
the status. -/
theorem environment_cases (h : Comes settings now key w w' r) (key' : ObjectKey) :
    w'.store.objects.get? ⟨.environment, key'⟩ = w.store.objects.get? ⟨.environment, key'⟩ ∨
    key' = key ∧ ∃ e c stage t next w₁, Takes settings key w e c stage t w₁ ∧
      t.next.Becomes next ∧
      w'.store.stored? .environment key = some { e with
        status := some { t.status with stage := next, lastUpdated := some now } } ∧
      ∀ k ≠ Kind.environment, ∀ key', w'.store.stored? k key' = w₁.store.stored? k key' := by
  cases h with
  | failed hs => exact .inl (by rw [hs.1])
  | gone _ hs => exact .inl (by rw [hs.1])
  | idle _ _ hs => exact .inl (by rw [hs.1])
  | @stepped e c stage next t w₁ _ ht hnext hstores =>
    have hstep := ht.steps.changed.frame stage.not_makes_environment key'
    rcases hstores.environment_cases key' with hkept | ⟨rfl, e', he', hwritten⟩
    · exact .inl (hkept.trans hstep)
    · rw [ht.stored_eq stage.not_makes_environment, ht.environment] at he'
      cases he'
      refine .inr ⟨rfl, e, c, stage, t, next, w₁, ht, hnext, hwritten, fun k hk key' => ?_⟩
      exact MemoryStore.stored?_congr (hstores.frame hk key')

/-- A status that is written after a pass was so before, or the pass has written it. -/
theorem writtenStatus?_cases (h : Comes settings now key w w' r) {key' : ObjectKey}
    {st : EnvironmentStatus} (hst : w'.store.writtenStatus? key' = some st) :
    w.store.writtenStatus? key' = some st ∨
    key' = key ∧ w'.store.status? key = some st ∧ ∃ e c stage t next w₁,
      Takes settings key w e c stage t w₁ ∧ t.next.Becomes next ∧
      st = { t.status with stage := next, lastUpdated := some now } ∧
      ∀ k ≠ Kind.environment, ∀ key', w'.store.stored? k key' = w₁.store.stored? k key' := by
  rcases h.environment_cases key' with
    hkept | ⟨rfl, e, c, stage, t, next, w₁, ht, hnext, he, hframe⟩
  · exact .inl ((MemoryStore.writtenStatus?_congr hkept).symm.trans hst)
  · rw [MemoryStore.writtenStatus?_of_stored he] at hst
    have hstored : w'.store.status? key' = some st := by
      rw [MemoryStore.status?, he]
      exact hst
    exact .inr ⟨rfl, hstored, e, c, stage, t, next, w₁, ht, hnext,
      (Option.some.inj hst).symm, hframe⟩

/-- Any other object that is stored after a pass was so before, or it is what the pass wants. -/
theorem stored?_cases (h : Comes settings now key w w' r) {k : Kind} (hk : k ≠ .environment)
    {key' : ObjectKey} {o : k.Object} (ho : w'.store.stored? k key' = some o) :
    w.store.stored? k key' = some o ∨ ∃ e c stage t w₁, Takes settings key w e c stage t w₁ ∧
      stage.Makes k ∧
      c.wanted k = some o ∧ key' = key.own k := by
  cases h with
  | failed hs => exact .inl (by rwa [hs.1] at ho)
  | gone _ hs => exact .inl (by rwa [hs.1] at ho)
  | idle _ _ hs => exact .inl (by rwa [hs.1] at ho)
  | @stepped e c stage next t w₁ _ ht hnext hstores =>
    rw [MemoryStore.stored?_congr (hstores.frame hk key')] at ho
    rcases ht.steps.changed.stored ho with hb | ⟨hm, hw, hkey⟩
    · exact .inl hb
    · have hown := hkey.symm.trans (ht.keyOf_wanted hw)
      exact .inr ⟨e, c, stage, t, w₁, ht, hm, hw, Except.ok.inj hown⟩

theorem frame (h : Comes settings now key w w' r) {k : Kind} (hk : ¬ k.IsMade)
    (henv : k ≠ .environment) (key' : ObjectKey) :
    w'.store.objects.get? ⟨k, key'⟩ = w.store.objects.get? ⟨k, key'⟩ := by
  cases h with
  | failed hs => rw [hs.1]
  | gone _ hs => rw [hs.1]
  | idle _ _ hs => rw [hs.1]
  | stepped ht _ hstores => rw [hstores.frame henv, ht.steps.changed.frame fun hm => hk hm.isMade]

theorem environment (h : Comes settings now key w w' r) {key' : ObjectKey} {e' : Environment}
    (he' : w'.store.stored? .environment key' = some e') :
    ∃ e, w.store.stored? .environment key' = some e ∧ e'.metadata = e.metadata ∧
      e'.spec = e.spec := by
  rcases h.environment_cases key' with hkept | ⟨rfl, e, c, stage, t, next, w₁, ht, _, he, _⟩
  · exact ⟨e', by rwa [MemoryStore.stored?_congr hkept] at he', rfl, rfl⟩
  · cases he.symm.trans he'
    exact ⟨e, ht.environment, rfl, rfl⟩

/-- A pass never loses a deployment. -/
theorem kept (h : Comes settings now key w w' r) {key' : ObjectKey} {d : Deployment}
    (hd : w.store.stored? .deployment key' = some d) :
    ∃ d', w'.store.stored? .deployment key' = some d' := by
  cases h with
  | failed hs => exact ⟨d, by rwa [hs.1]⟩
  | gone _ hs => exact ⟨d, by rwa [hs.1]⟩
  | idle _ _ hs => exact ⟨d, by rwa [hs.1]⟩
  | stepped ht hnext hstores =>
    obtain ⟨d', hd'⟩ := ht.steps.changed.kept hd
    exact ⟨d', by rwa [MemoryStore.stored?_congr (hstores.frame (by decide) key')]⟩

/-- While a status is at a stage that makes nothing of a kind, an environment's own object is as it
was. -/
theorem stored?_of_status (h : Comes settings now key w w' r) {k : Kind} (hk : k ≠ .environment)
    {key' : ObjectKey} {st : EnvironmentStatus} {o : k.Object}
    (hst : w.store.writtenStatus? key' = some st) (hm : ¬ st.stage.Makes k)
    (ho : w'.store.stored? k (key'.own k) = some o) :
    w.store.stored? k (key'.own k) = some o := by
  rcases h.stored?_cases hk ho with ho | ⟨e, c, stage, t, w₁, ht, hmakes, _, hkey⟩
  · exact ho
  · obtain rfl := ObjectKey.own_injective hkey
    have hs : stage ≠ .initial := by
      rintro rfl
      exact hmakes
    obtain ⟨hst', hstage, _⟩ := ht.of_ne_initial hs
    cases hst.symm.trans (MemoryStore.writtenStatus?_of_status hst')
    exact absurd (hstage ▸ hmakes) hm

theorem of_idle {stage : Stage} (h : Comes settings now key w w' (.ok (.idle stage))) :
    ∃ e, w.store.stored? .environment key = some e ∧ e.statusOrInitial.turn e.spec.revision = none ∧
      stage = e.statusOrInitial.stage ∧ w.Same w' := by
  cases h with
  | idle he ht hs => exact ⟨_, he, ht, rfl, hs⟩
  | stepped _ _ _ hr =>
    rcases hr with ⟨x, hx⟩ | hx
    · cases hx
    · unfold Outcome.ofStage at hx
      split at hx <;> cases hx

end Pass.Comes
end EnvOperator
