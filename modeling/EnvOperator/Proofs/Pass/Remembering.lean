import EnvOperator.Pipeline.Pass

/-! # What a pass remembers

A pass looks at its own environment's entry in the tracker and at its own count of stalls, and
changes nothing else in what the operator remembers. So it asks and answers the same whatever is
remembered of other environments, and what it remembers can be grafted into any memory that agrees
on its own environment.
-/
namespace EnvOperator

namespace SortedMap
variable {κ α : Type} [Ord κ] [Std.TransOrd κ] [Std.LawfulEqOrd κ] [DecidableEq κ]

/-- Bind a key as it is bound elsewhere. -/
def assign (m : SortedMap κ α) (k : κ) : Option α → SortedMap κ α
  | none => m.erase k
  | some v => m.insert k v

@[simp] theorem get?_assign (m : SortedMap κ α) (k a : κ) (v : Option α) :
    (m.assign k v).get? a = if a = k then v else m.get? a := by
  cases v <;> simp [assign]

theorem eq_assign {m base : SortedMap κ α} {k : κ} {v : Option α} (h : m.get? k = v)
    (hb : ∀ a ≠ k, m.get? a = base.get? a) : m = base.assign k v := by
  ext1 a
  rw [get?_assign]
  split
  · subst a
    exact h
  · exact hb a ‹_›

theorem assign_comm {m n base : SortedMap κ α} {k k' : κ} (hm : ∀ a ≠ k, m.get? a = base.get? a)
    (hn : ∀ a ≠ k', n.get? a = base.get? a) (hne : k ≠ k') :
    m.assign k' (n.get? k') = n.assign k (m.get? k) := by
  apply eq_assign (by simp [hne])
  intro a ha
  rw [get?_assign]
  split
  · subst a
    rfl
  · exact (hm a ha).trans (hn a ‹_›).symm

end SortedMap

namespace StallTable
variable {t t' : StallTable} {key other : String}

theorem record_congr (hc : t'.ceiling = t.ceiling) (hn : t'.counts.get? key = t.counts.get? key)
    (stage : Stage) : (t'.record key stage).1 = (t.record key stage).1 ∧
      (t'.record key stage).2.counts.get? key = (t.record key stage).2.counts.get? key := by
  unfold record
  rw [hc, hn]
  split <;> simp [clear]

theorem record_frame (t : StallTable) (key : String) (stage : Stage) :
    (t.record key stage).2.ceiling = t.ceiling ∧
    ∀ other ≠ key, (t.record key stage).2.counts.get? other = t.counts.get? other := by
  unfold record
  split
  · exact ⟨rfl, fun other hne => by simp [hne]⟩
  · exact ⟨rfl, fun other hne => by simp [clear, hne]⟩

theorem escalate_eq (t : StallTable) (key : String) (next : Stage) : t.escalate key next =
    if (t.record key next).1 then (next.escalated, (t.record key next).2.clear key)
    else (next, (t.record key next).2) := by
  unfold escalate
  split <;> simp [*]

/-- Whether a stage has stalled depends on the ceiling and on its own count only. -/
theorem escalate_congr (hc : t'.ceiling = t.ceiling) (hn : t'.counts.get? key = t.counts.get? key)
    (next : Stage) : (t'.escalate key next).1 = (t.escalate key next).1 ∧
      (t'.escalate key next).2.counts.get? key = (t.escalate key next).2.counts.get? key := by
  obtain ⟨hs, hg⟩ := record_congr hc hn next
  rw [escalate_eq, escalate_eq, hs]
  split
  · exact ⟨rfl, by simp [clear]⟩
  · exact ⟨rfl, hg⟩

theorem escalate_frame (t : StallTable) (key : String) (next : Stage) :
    (t.escalate key next).2.ceiling = t.ceiling ∧
      ∀ other ≠ key, (t.escalate key next).2.counts.get? other = t.counts.get? other := by
  obtain ⟨hc, hf⟩ := t.record_frame key next
  rw [escalate_eq]
  split
  · exact ⟨hc, fun other hne => by simp [clear, hne, hf other hne]⟩
  · exact ⟨hc, hf⟩

end StallTable

namespace PassMemory
variable {m m' base : PassMemory} {key : ObjectKey}

structure Agree (key : ObjectKey) (m m' : PassMemory) : Prop where
  tracked : m'.tracker.get? key = m.tracker.get? key
  ceiling : m'.stalls.ceiling = m.stalls.ceiling
  count : m'.stalls.counts.get? key.text = m.stalls.counts.get? key.text

structure Apart (key : ObjectKey) (m m' : PassMemory) : Prop where
  tracked : ∀ other ≠ key, m'.tracker.get? other = m.tracker.get? other
  ceiling : m'.stalls.ceiling = m.stalls.ceiling
  count : ∀ other ≠ key.text, m'.stalls.counts.get? other = m.stalls.counts.get? other

def graft (key : ObjectKey) (m base : PassMemory) : PassMemory where
  tracker := base.tracker.assign key (m.tracker.get? key)
  stalls :=
    ⟨base.stalls.ceiling, base.stalls.counts.assign key.text (m.stalls.counts.get? key.text)⟩

theorem Apart.refl (key : ObjectKey) (m : PassMemory) : m.Apart key m :=
  ⟨fun _ _ => rfl, rfl, fun _ _ => rfl⟩

/-- A memory is a graft from any that agrees with it on the environment. -/
theorem eq_graft (h : m.Agree key m') (hb : base.Apart key m') : m' = m.graft key base := by
  have ht := SortedMap.eq_assign h.tracked hb.tracked
  have hc := SortedMap.eq_assign h.count hb.count
  rw [graft, ← ht, ← hc, ← hb.ceiling]

theorem Agree.track (h : m.Agree key m') (stage : Stage) (now : Instant) :
    (m.track key stage now).Agree key (m'.track key stage now) where
  tracked := by simp [PassMemory.track, Tracker.get?_track, h.tracked]
  ceiling := h.ceiling
  count := h.count

theorem Apart.track (hb : base.Apart key m') (stage : Stage) (now : Instant) :
    base.Apart key (m'.track key stage now) where
  tracked other hne := by simp [PassMemory.track, Tracker.get?_track, hne, hb.tracked other hne]
  ceiling := hb.ceiling
  count := hb.count

theorem Agree.forget (h : m.Agree key m') : (m.forget key).Agree key (m'.forget key) where
  tracked := by simp [PassMemory.forget, Tracker.get?_forget]
  ceiling := h.ceiling
  count := by simp [PassMemory.forget, StallTable.clear]

theorem Apart.forget (hb : base.Apart key m') : base.Apart key (m'.forget key) where
  tracked other hne := by simp [PassMemory.forget, Tracker.get?_forget, hne, hb.tracked other hne]
  ceiling := hb.ceiling
  count other hne := by simp [PassMemory.forget, StallTable.clear, hne, hb.count other hne]

theorem Agree.escalate (h : m.Agree key m') (next : Stage) :
    (m'.stalls.escalate key.text next).1 = (m.stalls.escalate key.text next).1 ∧
      Agree key { m with stalls := (m.stalls.escalate key.text next).2 }
        { m' with stalls := (m'.stalls.escalate key.text next).2 } := by
  obtain ⟨hs, hg⟩ := StallTable.escalate_congr h.ceiling h.count next
  refine ⟨hs, h.tracked, ?_, hg⟩
  exact ((m'.stalls.escalate_frame key.text next).1.trans h.ceiling).trans
    (m.stalls.escalate_frame key.text next).1.symm

theorem Apart.escalate (hb : base.Apart key m') (next : Stage) :
    base.Apart key { m' with stalls := (m'.stalls.escalate key.text next).2 } where
  tracked := hb.tracked
  ceiling := (m'.stalls.escalate_frame key.text next).1.trans hb.ceiling
  count other hne :=
    ((m'.stalls.escalate_frame key.text next).2 other hne).trans (hb.count other hne)

end PassMemory

namespace Pass
variable {settings : Settings} {now : Instant} {key : ObjectKey} {m m' base : PassMemory}

def Result.graft (key : ObjectKey) (base : PassMemory) (r : Result) : Result :=
  (r.1, r.2.graft key base)

theorem pure_graft (h : m.Agree key m') (hb : base.Apart key m') (r : Except PassError Outcome) :
    (pure (r, m') : Dialogue Result) = Result.graft key base <$> pure (r, m) := by
  rw [map_pure, Result.graft, ← PassMemory.eq_graft h hb]

theorem finish_graft {before : EnvironmentStatus} (h : m.Agree key m') (hb : base.Apart key m')
    (t : Transition) :
    finish settings now key before m' t =
      Result.graft key base <$> finish settings now key before m t := by
  obtain ⟨hs, hm⟩ := h.escalate t.next
  have hb := hb.escalate t.next
  unfold finish
  dsimp only
  rw [hs, map_bind]
  congr 1
  funext r
  cases r with
  | error e => exact pure_graft hm hb _
  | ok u =>
    dsimp only
    split
    · exact pure_graft (hm.track _ now) (hb.track _ now) _
    · exact pure_graft (hm.track _ now) (hb.track _ now) _

theorem proceed_graft (h : m.Agree key m') (hb : base.Apart key m') (c : Collection) :
    proceed settings now key m' c = Result.graft key base <$> proceed settings now key m c := by
  have h := h.track c.snapshot.environment.statusOrInitial.stage now
  have hb := hb.track c.snapshot.environment.statusOrInitial.stage now
  unfold proceed
  dsimp only
  split
  · exact pure_graft h hb _
  · rw [map_bind]
    exact congrArg _ (funext fun t => finish_graft h hb t)

/-- Where two memories agree on an environment, its pass is the same but for what is remembered of
others. -/
theorem run_graft (h : m.Agree key m') :
    run settings now key m' = Result.graft key m' <$> run settings now key m := by
  have hb := PassMemory.Apart.refl key m'
  unfold run
  rw [map_bind]
  congr 1
  funext r
  rcases r with e | _ | c
  · exact pure_graft h hb _
  · exact pure_graft h.forget hb.forget _
  · exact proceed_graft h hb c

end Pass
end EnvOperator
