import EnvOperator.Proofs.Pass.Course

/-! # What is shown of a pass

Whoever watches sees the tracker. A pass tracks the stage that it finds and, once the status that
follows is stored, the stage of that status. So wherever it ends, what is tracked is what is stored
then.
-/
namespace EnvOperator

def PassMemory.Shows (m : PassMemory) (s : MemoryStore) (key : ObjectKey) : Prop :=
  ∃ t, m.tracker.get? key = some t ∧ s.stage? key = some t.stage ∧ t.status = t.stage.description

theorem PassMemory.shows_track {m : PassMemory} {s : MemoryStore} {key : ObjectKey} {stage : Stage}
    (h : s.stage? key = some stage) (now : Instant) : (m.track key stage now).Shows s key :=
  ⟨Tracker.next (m.tracker.get? key) stage.description stage
    now, by simp [track, Tracker.get?_track], h, rfl⟩

namespace Pass
variable {answer : (q : Query) → World → q.Answer × World} {settings : Settings} {now : Instant}
  {key : ObjectKey} {m : PassMemory} {w w' : World} {r : Result} {stage? : Option Stage}
    {error? : Option StoreError}

/-- A pass that has collected its environment shows what is stored then. -/
theorem Course.shows (h : World.Answers answer)
    (hcourse : Course answer settings now key m w r w' stage? error?)
    {c : Collection}
    (hc : ((Collection.collect settings.configNamespace settings.defaults key).run.run answer w).1 =
      .ok (some c)) :
    r.2.Shows w'.store key := by
  cases hcourse with
  | failed hfailed =>
    rw [hfailed] at hc
    cases hc
  | gone hgone =>
    rw [hgone] at hc
    cases hc
  | idle hcollect =>
    obtain ⟨e, he, hstatus, _, hs⟩ := exists_collected h hcollect
    refine PassMemory.shows_track ?_ now
    rw [hs.1, MemoryStore.stage?, he, hstatus]
    rfl
  | refused hd _ hp =>
    refine PassMemory.shows_track (m := { m with stalls := _ }) ?_ now
    rw [MemoryStore.stage?, MemoryStore.stored?, objects_of_persist_error h hp]
    exact hd.stage? h
  | stored hd _ hp => exact PassMemory.shows_track (stage?_of_persist_ok h (hd.stage? h) hp) now

theorem Course.tracked_of_failed (hcourse : Course answer settings now key m w r w' stage? error?)
    {e : PassError}
    (hc : ((Collection.collect settings.configNamespace settings.defaults key).run.run answer w).1 =
      .error e) :
    r.2.tracker.get? key = m.tracker.get? key := by
  cases hcourse with
  | failed => rfl
  | gone hcollect | idle hcollect =>
    rw [hcollect] at hc
    cases hc
  | refused hd | stored hd =>
    obtain ⟨w₀, hcollect, _⟩ := hd.step
    rw [hcollect] at hc
    cases hc

/-- Whatever is stored, whatever a registry answers, whatever fails and whatever is remembered:
after a pass that has collected its environment, wherever it then ends, what is tracked of the
environment is what is stored for it. Nothing is tracked of an environment that a pass has found
gone. A pass that fails to collect leaves what is tracked as it is, and every pass does so with what
is tracked of others. -/
theorem tracks_stored (settings : Settings) (now : Instant) (key : ObjectKey) (m : PassMemory)
    (tags : String → String → Except RegistryError (List String)) (w : World) :
    let collected :=
      ((Collection.collect settings.configNamespace settings.defaults key).run.run
        (World.answering tags) w).1
    let r := (run settings now key m).run (World.answering tags) w
    (∀ c, collected = .ok (some c) → ∃ t, r.1.2.tracker.get? key = some t ∧ r.2.store.stage? key =
      some t.stage ∧
      t.status = t.stage.description) ∧
    (r.1.1 = .ok .gone → r.1.2.tracker.get? key = none) ∧
    (∀ e, collected = .error e → r.1.2.tracker.get? key = m.tracker.get? key) ∧
    ∀ other ≠ key, r.1.2.tracker.get? other = m.tracker.get? other := by
  have h := World.answers_answering tags
  have hcourse := course h settings now key m w
  refine ⟨fun c hc => hcourse.shows h hc, fun hr => ?_, fun e => hcourse.tracked_of_failed,
    hcourse.apart.tracked⟩
  rw [hcourse.memory_of_gone hr]
  simp [PassMemory.forget, Tracker.get?_forget]

end Pass

def Sample.unstored : Pass.Result × World :=
  (Pass.run {} .epoch key (pass first).memory).run (World.answering fun _ _ => .error .unreachable)
    (refuse (pass first)).world

set_option maxRecDepth 100000 in
/-- Where a build job has been made and the status for it cannot be stored, the stage before it is
still shown. -/
theorem Pass.tracks_stored_unstored : Sample.unstored.1.1.toOption = none ∧ ∃ t,
    Sample.unstored.1.2.tracker.get? Sample.key = some t ∧
    Sample.unstored.2.store.stage? Sample.key = some t.stage ∧
    t.stage = .buildImage ∧ t.status = t.stage.description := by
  obtain ⟨hshown, _⟩ := Pass.tracks_stored {} .epoch Sample.key (Sample.pass Sample.first).memory
    (fun _ _ => .error .unreachable) (Sample.refuse (Sample.pass Sample.first)).world
  have hcollected :
      ((Collection.collect ({} : Settings).configNamespace
      ({} : Settings).defaults Sample.key).run.run
      (World.answering fun _ _ => .error .unreachable)
        (Sample.refuse (Sample.pass Sample.first)).world).1.toOption.join.isSome = true := by
          decide +kernel
  have hresult : Sample.unstored.1.1.toOption = none ∧ Sample.unstored.2.store.stage? Sample.key =
      some .buildImage := by
    decide +kernel
  obtain ⟨c, hc⟩ := Option.isSome_iff_exists.mp hcollected
  obtain ⟨t, ht, hstage, hstatus⟩ :=
    hshown c (Except.ok_of_toOption (Option.join_eq_some_iff.mp hc))
  exact ⟨hresult.1, t, ht, hstage, Option.some.inj (hstage.symm.trans hresult.2), hstatus⟩

end EnvOperator
