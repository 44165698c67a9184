import EnvOperator.Proofs.Pass.Course
import EnvOperator.Proofs.Progress.Stalls

/-! # How passes are counted

A count of stalls says how many of the latest passes of an environment have ended in its stage. A
pass that takes a step counts where this has led, and gives up a waiting stage whose count goes
beyond the ceiling.
-/
namespace EnvOperator

theorem List.replicate_prefix_iff {α : Type} [DecidableEq α] {n : Nat} {a : α} {l : List α} :
    List.replicate n a <+: l ↔ n ≤ (l.takeWhile (· = a)).length := by
  induction l generalizing n with
  | nil => simp
  | cons b l ih =>
    cases n with
    | zero => simp
    | succ n =>
      rw [List.replicate_succ, List.cons_prefix_cons, ih]
      by_cases hb : b = a
      · simp [hb]
      · simp [hb, Ne.symm hb]

theorem Stage.isWaiting_escalated (stage : Stage) : stage.escalated.isWaiting = false := by
  cases stage <;> rfl

theorem Stage.escalated_ne {stage : Stage} (h : stage.isWaiting = true) :
    stage.escalated ≠ stage := by
  intro he
  rw [← he, isWaiting_escalated] at h
  cases h

namespace StallTable
variable {t : StallTable} {key : String} {stage : Stage} {l : List Stage} {n : UInt32}

/-- A stage is given up if it is a waiting one whose count would go beyond the ceiling. -/
theorem escalate_ne_iff : (t.escalate key stage).1 ≠ stage ↔ stage.isWaiting = true ∧
    ∃ n, t.ceiling = some n ∧ n < nextCount (t.counts.get? key) stage := by
  rw [escalate_eq]
  cases hw : stage.isWaiting with
  | false => simp [record_of_not_waiting hw]
  | true =>
    simp only [record, hw, if_true]
    cases hc : t.ceiling with
    | none => simp
    | some n =>
      by_cases hn : n < nextCount (t.counts.get? key) stage
      · simp [hn, Stage.escalated_ne hw]
      · simp [hn]

theorem escalate_of_not_waiting (h : stage.isWaiting = false) :
    t.escalate key stage = (stage, t.clear key) := by
  simp [escalate_eq, record_of_not_waiting h]

/-- A count goes on to be the one of the stages that passes have ended in. -/
theorem get?_escalate (h : t.counts.get? key = tally l) :
    (t.escalate key stage).2.counts.get? key = tally ((t.escalate key stage).1 :: l) := by
  rw [escalate_eq]
  cases hw : stage.isWaiting with
  | false => simp [record_of_not_waiting hw, tally, hw, clear]
  | true =>
    split
    · simp [tally, Stage.isWaiting_escalated, clear]
    · simp [record, hw, tally, h]

/-- Unless the count overflows, a waiting stage is given up just when as many passes as the ceiling
allows have ended in it before. -/
theorem escalate_ne_iff_row (h : t.counts.get? key = tally l) (hw : stage.isWaiting = true)
    (hbound : ¬ List.replicate UInt32.size stage <+: (t.escalate key stage).1 :: l) :
    (t.escalate key stage).1 ≠ stage ↔ ∃ n, t.ceiling = some n ∧
    List.replicate n.toNat stage <+: l := by
  have hnext : (nextCount (t.counts.get? key) stage).toNat =
      ((l.takeWhile (· = stage)).length + 1) % UInt32.size := by
    rw [h, nextCount_tally hw, UInt32.toNat_ofNat']
  simp only [List.replicate_prefix_iff]
  constructor
  · intro hne
    obtain ⟨_, n, hn, hlt⟩ := escalate_ne_iff.mp hne
    have hle := Nat.mod_le ((l.takeWhile (· = stage)).length + 1) UInt32.size
    rw [UInt32.lt_iff_toNat_lt] at hlt
    exact ⟨n, hn, by omega⟩
  · rintro ⟨n, hn, hle⟩ hstay
    rw [hstay, List.replicate_prefix_iff, List.takeWhile_cons_of_pos (by simp),
      List.length_cons] at hbound
    rw [Nat.mod_eq_of_lt (by omega)] at hnext
    exact escalate_ne_iff.mpr ⟨hw, n, hn, by rw [UInt32.lt_iff_toNat_lt]; omega⟩ hstay

theorem isWaiting_of_record (h : (t.record key stage).1 = true) : stage.isWaiting = true := by
  cases hw : stage.isWaiting with
  | false =>
    rw [record_of_not_waiting hw] at h
    cases h
  | true => rfl

theorem escalate_of_record (h : (t.record key stage).1 = true) :
    (t.escalate key stage).2.counts.get? key = none ∧ (t.escalate key stage).2.ceiling =
      t.ceiling := by
  refine ⟨?_, (t.escalate_frame key stage).1⟩
  rw [escalate_eq, if_pos h]
  simp [clear]

/-- A waiting stage that has not been counted is given up at once only if the ceiling is zero. -/
theorem escalate_first (hc : t.ceiling = some n) (hk : t.counts.get? key = none)
    (hw : stage.isWaiting = true) : (t.escalate key stage).1 = stage.escalated ↔ n = 0 := by
  have hne : (t.escalate key stage).1 ≠ stage ↔ n = 0 := by
    rw [escalate_ne_iff, hc, hk]
    simp [hw, nextCount]
  rw [← hne]
  rcases t.escalate_becomes key stage with h | ⟨_, h⟩
  · rw [h]
    exact ⟨fun he => absurd he.symm (Stage.escalated_ne hw), fun hne => absurd rfl hne⟩
  · rw [h]
    exact ⟨fun _ => Stage.escalated_ne hw, fun _ => rfl⟩

end StallTable

namespace Pass.Course
variable {answer : (q : Query) → World → q.Answer × World} {settings : Settings} {now : Instant}
  {key : ObjectKey} {m : PassMemory} {w w' : World} {r : Pass.Result} {stage? : Option Stage}
    {error? : Option StoreError}

/-- A pass that takes no step leaves the count as it is, unless it has found its environment gone
and forgets it. One whose status is stored has counted where its step has led, and has ended in what
comes of that. -/
theorem ends (h : World.Answers answer) (hc : Course answer settings now key m w r w' stage? none) :
    (stage? = none ∧ w.Same w' ∧ (r.1 = .ok .gone ∧ r.2.stalls = m.stalls.clear key.text ∧
      w.store.writtenStatus? key = none ∨ r.1 ≠ .ok .gone ∧ r.2.stalls = m.stalls)) ∨
    ∃ stage, stage? = some stage ∧ r.1 ≠ .ok .gone ∧
      w'.store.stage? key = some (m.stalls.escalate key.text stage).1 ∧
      r.2.stalls = (m.stalls.escalate key.text stage).2 := by
  have hgone : r.1 = .ok .gone → r.2 = m.forget key := hc.memory_of_gone
  cases hc with
  | failed hcollect => exact .inl ⟨rfl, (h.collected hcollect).2, .inr ⟨by simp, rfl⟩⟩
  | gone hcollect =>
    obtain ⟨hnone, hs⟩ := h.collected hcollect
    refine .inl ⟨rfl, hs, .inl ⟨rfl, rfl, ?_⟩⟩
    rw [MemoryStore.writtenStatus?, MemoryStore.read_eq_none.mp hnone]
    rfl
  | idle hcollect => exact .inl ⟨rfl, (h.collected hcollect).2, .inr ⟨by simp, rfl⟩⟩
  | @stored c stage next stalls t w₁ _ hd he hp =>
    refine .inr ⟨t.next, rfl, fun hr => ?_, ?_, ?_⟩
    · have htracked := congrArg (·.tracker.get? key) (hgone hr)
      simp [PassMemory.track, PassMemory.forget, Tracker.get?_track,
        Tracker.get?_forget] at htracked
    · rw [he]
      exact stage?_of_persist_ok h (hd.stage? h) hp
    · rw [he]
      rfl

theorem led_of_no_status (h : World.Answers answer)
    (hc : Course answer settings now key m w r w' stage? error?)
    (hst : w.store.writtenStatus? key = none) {stage : Stage} (hl : stage? = some stage) :
    stage = .buildImage := by
  have hled {c : Collection} {stage : Stage} {t : Transition} {w₁ : World}
      (hd : Dispatches answer settings key w c stage t w₁) : t.next = .buildImage := by
    obtain ⟨e, he, hstatus, _⟩ := hd.exists_environment h
    rw [MemoryStore.writtenStatus?_of_stored he] at hst
    have hfirst : c.status = {} := by
      rw [hstatus, Environment.statusOrInitial, hst]
      rfl
    obtain ⟨r, _, ⟨_, rfl⟩ | ⟨hexp, _⟩⟩ := EnvironmentStatus.turn_eq_some hd.turn
    · exact List.mem_singleton.mp (hd.moves h).next
    · rw [hfirst] at hexp
      cases hexp
  cases hc with
  | failed | gone | idle => cases hl
  | refused hd | stored hd =>
    cases hl
    exact hled hd

end Pass.Course

end EnvOperator
