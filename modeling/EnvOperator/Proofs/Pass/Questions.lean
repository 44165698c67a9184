import EnvOperator.Proofs.Pass.Outcomes

/-! # What a pass asks

A pass asks what it needs to collect, what its step asks, and last of all for its status to be
stored.
-/
namespace EnvOperator
namespace Pass
variable {settings : Settings} {now : Instant} {key : ObjectKey} {w : World} {q : Query}

inductive Asks (settings : Settings) (key : ObjectKey) (w : World) : Query → Prop
  | collect {q : Query} (h : key.Collects q) : Asks settings key w q
  | step {q : Query} {e : Environment} {c : Collection} {stage : Stage}
      (hf : Finds settings key w e c stage)
      (h : c.Asks stage q) : Asks settings key w q
  | status (st : EnvironmentStatus) : Asks settings key w (.store (.updateStatus key st))

theorem asked_step {c : Collection} {status : EnvironmentStatus} {stage : Stage}
    (h : q ∈ (c.step status stage).asked World.answer w) : c.Asks stage q := by
  refine (Collection.obeys_step w.registry c status stage).asked
    (I := fun v => v.registry = w.registry) rfl ?_ q h
  intro q v hq hv
  exact ⟨Collection.gives_registry hv, (Collection.changed_answer hq v).registry.trans hv⟩

/-- A pass stores the stage that a step has led to, or the failure it has stalled into, if this is a
change. -/
theorem obeys_finish {before : EnvironmentStatus} {m : PassMemory} {t : Transition}
    {sound : (q : Query) → q.Answer → Prop} {P : Query → Prop}
    (hP : ∀ next, t.next.Becomes next → { t.status with stage := next } ≠ before →
      P (.store (.updateStatus key { t.status with stage := next, lastUpdated := some now }))) :
    (finish settings now key before m t).Obeys sound P (fun _ => True) := by
  unfold finish
  have hn := m.stalls.escalate_becomes key.text t.next
  rcases he : m.stalls.escalate key.text t.next with ⟨next, stalls⟩
  rw [he] at hn
  refine Dialogue.Obeys.bind (Q := fun _ => True) ?_ fun r _ => ?_
  · unfold persist
    split
    · trivial
    · exact ⟨hP next hn ‹_›, fun _ _ => trivial⟩
  · rcases r with e | u
    · trivial
    · dsimp only
      split <;> trivial

theorem asked_finish {before : EnvironmentStatus} {m : PassMemory} {t : Transition}
    (h : q ∈ (finish settings now key before m t).asked World.answer w) :
    ∃ st, q = .store (.updateStatus key st) := by
  have hobeys : (finish settings now key before m t).Obeys (fun _ _ => True)
      (fun q => ∃ st, q = .store (.updateStatus key st)) (fun _ => True) :=
        obeys_finish fun _ _ _ => ⟨_, rfl⟩
  exact hobeys.asked (I := fun _ => True) trivial (fun _ _ _ _ => ⟨trivial, trivial⟩) q h

theorem asks {m : PassMemory} (h : q ∈ (run settings now key m).asked World.answer w) :
    Asks settings key w q := by
  unfold run at h
  rw [Dialogue.asked_bind] at h
  rcases List.mem_append.mp h with h | h
  · exact .collect (World.answers_answer.asked_collect h)
  · rcases hcollect : (Collection.collect settings.configNamespace settings.defaults key).run.run
      World.answer w with ⟨found, w₀⟩
    obtain ⟨hfound, hs⟩ := World.collect_effect hcollect
    rw [hcollect] at h
    rcases found with e | _ | c
    · cases h
    · cases h
    · obtain ⟨hx, htarget⟩ := hfound
      obtain ⟨e, he, henv, hbefore, hrevision⟩ := hx.exists_environment
      simp only [proceed, hbefore, hrevision] at h
      split at h
      · cases h
      · rw [Dialogue.asked_bind] at h
        rcases List.mem_append.mp h with h | h
        · exact .step ⟨he, hx, htarget, henv, ‹_›⟩ (asked_step h)
        · obtain ⟨st, rfl⟩ := asked_finish h
          exact .status st

end Pass
end EnvOperator
