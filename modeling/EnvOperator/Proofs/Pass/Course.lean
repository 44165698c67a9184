import EnvOperator.Proofs.Pass.Advancing
import EnvOperator.Proofs.Pass.Remembering

/-! # The course of a pass

What a pass answers, what it remembers then, and the world it leaves, seen together: where its step
has led, and whether the status that should follow could be written. Whoever relates what is
remembered to what is stored goes through these cases.
-/
namespace EnvOperator

def MemoryStore.stage? (s : MemoryStore) (key : ObjectKey) : Option Stage :=
  (s.stored? .environment key).map (·.statusOrInitial.stage)

def Query.refusal? : (q : Query) × q.Answer → Option StoreError
  | ⟨.store (.updateStatus _ _), .error e⟩ => some e
  | _ => none

theorem World.Answers.stepped {answer : (q : Query) → World → q.Answer × World}
    (h : World.Answers answer) {c : Collection} {status : EnvironmentStatus} {stage : Stage}
    {t : Transition} {w w' : World} (hs : (c.step status stage).run answer w = (t, w')) :
    c.Moves status stage t ∧ c.Changed stage w w' := by
  have hstep (q : Query) (v : World) (hq : c.Asks stage q) (hv : c.Changed stage w v) :
      True ∧ c.Changed stage w (answer q v).2 := by
    rw [h.snd]
    exact ⟨trivial, hv.trans (Collection.changed_answer hq v)⟩
  have hr := (c.obeys_step_moves status stage).run (.of_objects rfl rfl) hstep
  rwa [hs] at hr

namespace Pass
variable {answer : (q : Query) → World → q.Answer × World} {settings : Settings} {now : Instant}
  {key : ObjectKey} {m : PassMemory} {w w₁ w' : World} {c : Collection} {stage : Stage}
    {t : Transition}

def refusal (answer : (q : Query) → World → q.Answer × World) (settings : Settings) (now : Instant)
    (key : ObjectKey) (m : PassMemory) (w : World) : Option StoreError :=
  ((run settings now key m).exchanged answer w).findSome? Query.refusal?

/-- The course of a pass: its result and what it remembers, the world it leaves, where its step has
led, and the failure of its status to be written. -/
inductive Course (answer : (q : Query) → World → q.Answer × World) (settings : Settings)
    (now : Instant) (key : ObjectKey) (m : PassMemory) (w : World) :
    Result → World → Option Stage → Option StoreError → Prop
  | failed {e : PassError} {w' : World}
      (hc : (Collection.collect settings.configNamespace settings.defaults key).run.run answer w =
        (.error e, w')) :
      Course answer settings now key m w (.error e, m) w' none none
  | gone {w' : World}
      (hc : (Collection.collect settings.configNamespace settings.defaults key).run.run answer w =
        (.ok none, w')) :
      Course answer settings now key m w (.ok .gone, m.forget key) w' none none
  | idle {c : Collection} {w' : World}
      (hc : (Collection.collect settings.configNamespace settings.defaults key).run.run answer w =
        (.ok (some c), w')) (ht : c.status.turn c.snapshot.revision = none) :
      Course answer settings now key m w
        (.ok (.idle c.status.stage), m.track key c.status.stage now) w' none none
  | refused {c : Collection} {stage next : Stage} {stalls : StallTable} {t : Transition}
      {w₁ w' : World}
      {e : StoreError} (h : Dispatches answer settings key w c stage t w₁)
      (he : m.stalls.escalate key.text t.next = (next, stalls))
      (hp : (persist key c.status { t.status with stage := next } now).run answer w₁ =
        (.error e, w')) :
      Course answer settings now key m w
        (.error (.store e), { m.track key c.status.stage now with stalls }) w'
        (some t.next) (some e)
  | stored {c : Collection} {stage next : Stage} {stalls : StallTable} {t : Transition}
      {w₁ w' : World}
      (h : Dispatches answer settings key w c stage t w₁)
      (he : m.stalls.escalate key.text t.next = (next, stalls))
      (hp : (persist key c.status { t.status with stage := next } now).run answer w₁ =
        (.ok (), w')) :
      Course answer settings now key m w
        (t.error.elim (.ok (.ofStage settings next)) .error,
          { m.track key c.status.stage now with stalls }.track key next now) w' (some t.next) none

theorem refusal_persist {before status : EnvironmentStatus} {e : StoreError} :
    ((persist key before status now).exchanged answer w).findSome? Query.refusal? = some e ↔
      ((persist key before status now).run answer w).1 = .error e := by
  unfold persist
  split
  · exact ⟨nofun, nofun⟩
  · change [(⟨_,
      (answer (.store (.updateStatus key { status with lastUpdated := some now })) w).1⟩ :
      (q : Query) × q.Answer)].findSome? Query.refusal? = some e ↔
        (answer (.store (.updateStatus key _)) w).1 = .error e
    rcases (answer (.store (.updateStatus key { status with lastUpdated := some now })) w).1 with
      x | u
    · simp [Query.refusal?]
    · simp [Query.refusal?]

section
variable {before : EnvironmentStatus} {next : Stage} {stalls : StallTable}
  (he : m.stalls.escalate key.text t.next = (next, stalls))
include he

theorem finish_refused {e : StoreError}
    (hp : (persist key before { t.status with stage := next } now).run answer w = (.error e, w')) :
    (finish settings now key before m t).run answer w =
      ((.error (.store e), { m with stalls }), w') := by
  unfold finish
  rw [he]
  dsimp only
  rw [Dialogue.run_bind_eq, hp]
  rfl

theorem finish_stored
    (hp : (persist key before { t.status with stage := next } now).run answer w = (.ok (), w')) :
    (finish settings now key before m t).run answer w =
      ((t.error.elim (.ok (.ofStage settings next)) .error, { m with stalls }.track key next now),
        w') := by
  unfold finish
  rw [he]
  dsimp only
  rw [Dialogue.run_bind_eq, hp]
  dsimp only
  cases t.error <;> rfl

theorem finish_exchanged : (finish settings now key before m t).exchanged answer w =
    (persist key before { t.status with stage := next } now).exchanged answer w := by
  unfold finish
  rw [he]
  dsimp only
  rw [Dialogue.exchanged_bind]
  rcases (persist key before { t.status with stage := next } now).run answer w with ⟨e | u, w'⟩
  · exact List.append_nil _
  · dsimp only
    cases t.error <;> exact List.append_nil _

end

variable (answer w) in
theorem refusal_of_quiet {α : Type} {d : Dialogue α}
    (h : ∀ q ∈ d.asked answer w, ∀ key' st, q ≠ .store (.updateStatus key' st)) :
    (d.exchanged answer w).findSome? Query.refusal? = none := by
  rw [List.findSome?_eq_none_iff]
  intro x hx
  have hq := Dialogue.mem_asked hx
  obtain ⟨q, a⟩ := x
  cases q with
  | tags => rfl
  | store r =>
    cases r with
    | updateStatus key' st => exact absurd rfl (h _ hq key' st)
    | get | create | replace | delete => rfl

theorem refusal_collect (h : World.Answers answer) :
    (((Collection.collect settings.configNamespace settings.defaults
    key).run).exchanged answer w).findSome? Query.refusal? = none := by
  apply refusal_of_quiet
  intro q hq key' st
  rintro rfl
  cases h.asked_collect hq

theorem refusal_step (c : Collection) (status : EnvironmentStatus) (stage : Stage) :
    ((c.step status stage).exchanged answer w).findSome? Query.refusal? = none := by
  apply refusal_of_quiet
  intro q hq key' st
  rintro rfl
  have hasks := (c.obeys_step_moves status stage).asked (I := fun _ => True) trivial
    (fun _ _ _ _ => ⟨trivial, trivial⟩) _ hq
  cases hasks

theorem proceed_eq (settings : Settings) (now : Instant) (key : ObjectKey) (m : PassMemory)
    (c : Collection) : proceed settings now key m c = match c.status.turn c.snapshot.revision with
      | none => pure (.ok (.idle c.status.stage), m.track key c.status.stage now)
      | some stage => c.step { c.status with stage } stage >>=
          finish settings now key c.status (m.track key c.status.stage now) := rfl

/-- Every pass takes one of the courses. -/
theorem course (h : World.Answers answer) (settings : Settings) (now : Instant) (key : ObjectKey)
    (m : PassMemory) (w : World) :
    Course answer settings now key m w ((run settings now key m).run answer w).1
      ((run settings now key m).run answer w).2 (led answer settings key w)
        (refusal answer settings now key m w) := by
  unfold led refusal run
  rw [Dialogue.run_bind_eq, Dialogue.exchanged_bind, List.findSome?_append, refusal_collect h,
    Option.none_or]
  rcases hc : (Collection.collect settings.configNamespace settings.defaults key).run.run answer
    w with ⟨found, w₀⟩
  rcases found with e | _ | c
  · exact .failed hc
  · exact .gone hc
  · dsimp only
    rw [proceed_eq]
    cases ht : c.status.turn c.snapshot.revision with
    | none => exact .idle hc ht
    | some stage =>
      dsimp only [Option.map_some]
      rw [Dialogue.run_bind_eq, Dialogue.exchanged_bind, List.findSome?_append, refusal_step,
        Option.none_or]
      rcases hs : (c.step { c.status with stage } stage).run answer w₀ with ⟨t, w₁⟩
      have hd : Dispatches answer settings key w c stage t w₁ := ⟨ht, w₀, hc, hs⟩
      dsimp only
      have hstalls : (m.track key c.status.stage now).stalls = m.stalls := rfl
      rcases he : m.stalls.escalate key.text t.next with ⟨next, stalls⟩
      rw [finish_exchanged (hstalls ▸ he)]
      rcases hp : (persist key c.status { t.status with stage := next } now).run answer w₁ with
        ⟨e | u, w₂⟩
      · rw [finish_refused (hstalls ▸ he) hp, refusal_persist.mpr (congrArg Prod.fst hp)]
        exact .refused hd he hp
      · rw [finish_stored (hstalls ▸ he) hp]
        have hnone : ((persist key c.status { t.status with stage := next } now).exchanged answer
            w₁).findSome?
            Query.refusal? = none := by
          rw [Option.eq_none_iff_forall_not_mem]
          intro e hmem
          have herror := refusal_persist.mp hmem
          rw [hp] at herror
          cases herror
        rw [hnone]
        exact .stored hd he hp

theorem Course.apart {r : Result} {stage? : Option Stage} {error? : Option StoreError}
    (h : Course answer settings now key m w r w' stage? error?) : m.Apart key r.2 := by
  have hrefl := PassMemory.Apart.refl key m
  have hescalated {c : Collection} {next' next : Stage} {stalls : StallTable}
      (he : m.stalls.escalate key.text next' = (next, stalls)) :
      m.Apart key { m.track key c.status.stage now with stalls } := by
    have hs := (hrefl.track c.status.stage now).escalate next'
    rwa [show (m.track key c.status.stage now).stalls = m.stalls from rfl, he] at hs
  cases h with
  | failed => exact hrefl
  | gone => exact hrefl.forget
  | idle => exact hrefl.track _ now
  | refused _ he => exact hescalated he
  | stored _ he => exact (hescalated he).track _ now

theorem Course.memory_of_gone {r : Result} {stage? : Option Stage} {error? : Option StoreError}
    (h : Course answer settings now key m w r w' stage? error?) (hr : r.1 = .ok .gone) :
    r.2 = m.forget key := by
  cases h with
  | gone => rfl
  | @stored _ _ next _ t =>
    cases he : t.error with
    | some e => simp [he] at hr
    | none =>
      simp only [he, Option.elim_none, Outcome.ofStage, Except.ok.injEq] at hr
      split at hr <;> cases hr
  | failed | idle | refused => cases hr

section
variable (h : World.Answers answer) {before status : EnvironmentStatus}
include h

theorem exists_collected
    (hc : (Collection.collect settings.configNamespace settings.defaults key).run.run answer w =
      (.ok (some c), w')) :
    ∃ e, w.store.stored? .environment key = some e ∧ c.status = e.statusOrInitial ∧
      c.snapshot.revision = e.spec.revision ∧ w.Same w' := by
  obtain ⟨hfound, hs⟩ := h.collected hc
  obtain ⟨e, he, _, hstatus, hrevision⟩ := hfound.1.exists_environment
  exact ⟨e, he, hstatus, hrevision, hs⟩

/-- When the status is written, the document of the environment is as it was before the pass. -/
theorem Dispatches.get?_environment (hd : Dispatches answer settings key w c stage t w₁) :
    w₁.store.objects.get? ⟨.environment, key⟩ = w.store.objects.get? ⟨.environment, key⟩ := by
  obtain ⟨w₀, hc, hstep⟩ := hd.step
  rw [(h.stepped hstep).2.frame stage.not_makes_environment key, (h.collected hc).2.1]

theorem Dispatches.exists_environment (hd : Dispatches answer settings key w c stage t w₁) :
    ∃ e, w.store.stored? .environment key = some e ∧ c.status = e.statusOrInitial ∧
      c.snapshot.revision = e.spec.revision ∧ w₁.store.stored? .environment key = some e := by
  obtain ⟨_, hc, _⟩ := hd.step
  obtain ⟨e, he, hstatus, hrevision, _⟩ := exists_collected h hc
  exact ⟨e, he, hstatus, hrevision, by rw [MemoryStore.stored?_congr (hd.get?_environment h), he]⟩

theorem Dispatches.stage? (hd : Dispatches answer settings key w c stage t w₁) :
    w₁.store.stage? key = some c.status.stage := by
  obtain ⟨e, _, hstatus, _, he⟩ := hd.exists_environment h
  rw [MemoryStore.stage?, he, hstatus]
  rfl

theorem Dispatches.moves (hd : Dispatches answer settings key w c stage t w₁) :
    c.Moves { c.status with stage } stage t := by
  obtain ⟨w₀, _, hstep⟩ := hd.step
  exact (h.stepped hstep).1

theorem stage?_of_persist_ok (hw : w.store.stage? key = some before.stage)
    (hp : (persist key before status now).run answer w = (.ok (), w')) :
    w'.store.stage? key = some status.stage := by
  unfold persist at hp
  split at hp
  · rename_i hsame
    cases hp
    rw [hsame, hw]
  · change answer (.store (.updateStatus key { status with lastUpdated := some now })) w =
      (.ok (), w') at hp
    rw [h.store] at hp
    obtain ⟨e, _, ho⟩ := World.updateStatus_ok hp
    rw [MemoryStore.stage?, MemoryStore.stored?_of_insert (k := .environment) ho]
    rfl

theorem objects_of_persist_error {e : StoreError}
    (hp : (persist key before status now).run answer w = (.error e, w')) :
    w'.store.objects = w.store.objects := by
  unfold persist at hp
  split at hp
  · cases hp
  · change answer (.store (.updateStatus key { status with lastUpdated := some now })) w =
      (.error e, w') at hp
    rw [h.store] at hp
    exact World.objects_of_error hp

end

end Pass
end EnvOperator
