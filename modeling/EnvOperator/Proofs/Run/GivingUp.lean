import EnvOperator.Proofs.Pass.Repeating
import EnvOperator.Proofs.Run.Stalling

/-! # Giving up without a status

A pass that gives up forgets its count before it stores the failure. If the failure cannot be
stored, the count starts over, so that the next pass gives up only where it would do so after no
other.
-/
namespace EnvOperator

namespace Pass

theorem Dispatches.stage?_of_waiting {settings : Settings} {key : ObjectKey} {w w₁ : World}
    {c : Collection} {turn : Stage} {t : Transition}
    (hd : Dispatches World.answer settings key w c turn t w₁) (hwaiting : t.next.isWaiting = true) :
    w.store.stage? key = some turn := by
  obtain ⟨e, he, hstatus, _⟩ := hd.exists_environment World.answers_answer
  obtain ⟨_, _, ⟨_, rfl⟩ | ⟨_, _, hturn⟩⟩ := EnvironmentStatus.turn_eq_some hd.turn
  · have hn := List.mem_singleton.mp (hd.moves World.answers_answer).next
    rw [hn] at hwaiting
    cases hwaiting
  · rw [MemoryStore.stage?, he, hturn, hstatus]
    rfl

/-- A pass whose status could not be stored has taken a step, and has counted where it led. -/
theorem Course.of_refused {answer : (q : Query) → World → q.Answer × World} {settings : Settings}
    {now : Instant} {key : ObjectKey} {m : PassMemory} {w w' : World} {r : Result} {stage : Stage}
    {e : StoreError} (h : World.Answers answer)
    (hc : Course answer settings now key m w r w' (some stage) (some e)) :
    ∃ c turn t w₁, Dispatches answer settings key w c turn t w₁ ∧ t.next = stage ∧
      r.2.stalls = (m.stalls.escalate key.text stage).2 ∧ w'.store.objects = w₁.store.objects := by
  cases hc with
  | refused hd he hp =>
    refine ⟨_, _, _, _, hd, rfl, ?_, objects_of_persist_error h hp⟩
    rw [he]

end Pass

namespace Visit
variable {settings : Settings} {v : Visit} {stage : Stage} {n : UInt32} {e : StoreError} {w : World}

/-- A pass has given up its stage, and its status could not be stored. In a world with the same
objects in which nothing fails by itself, the next pass stores the failure just when the ceiling is
zero and no build job has been made; otherwise the count has started over, or the job is found and
the pipeline goes on. -/
theorem given_up_again_iff (now : Instant) (hn : v.before.memory.stalls.ceiling = some n)
    (hled : v.led settings = some stage)
    (hexceeds : (v.before.memory.stalls.record v.key.text stage).1 = true)
    (hrefused : v.refusal settings = some e) (hw : w.Working)
    (ho : w.store.objects = (v.after settings).world.store.objects) :
    (Moment.pass settings now v.key ⟨(v.after settings).memory, w⟩).2.world.store.stage? v.key =
        some stage.escalated ↔
      n = 0 ∧ v.before.world.store.stage? v.key ≠ some .buildImage := by
  have hwaiting := StallTable.isWaiting_of_record hexceeds
  have hcourse := v.course settings
  rw [hled, hrefused] at hcourse
  obtain ⟨c, turn, t, w₁, hd, rfl, hstalls, ho₁⟩ := hcourse.of_refused World.answers_answer
  obtain ⟨hcount, hceiling⟩ := StallTable.escalate_of_record hexceeds
  rw [← hstalls] at hcount hceiling
  let next : Visit := ⟨now, v.key, (v.after settings).memory, w⟩
  have hled : next.led settings = some (if turn = .buildImage then .deploy else t.next) :=
    Pass.led_again hd hwaiting hw (ho.trans ho₁)
  have hended := ended_of_led ((next.course settings).error?_eq_none hw.calm.contended) hled
  rw [ended, hled] at hended
  change (next.after settings).world.store.stage? v.key = some _ at hended
  change (next.after settings).world.store.stage? v.key = some _ ↔ _
  rw [hended, hd.stage?_of_waiting hwaiting, Option.some.injEq]
  by_cases hturn : turn = .buildImage
  · subst hturn
    rw [if_pos rfl, StallTable.escalate_of_not_waiting rfl]
    constructor
    · intro h
      cases htn : t.next <;> simp [htn, Stage.escalated] at h
    · exact fun h => absurd rfl h.2
  · rw [if_neg hturn]
    have hfirst := StallTable.escalate_first (hceiling.trans hn) hcount hwaiting
    exact hfirst.trans (iff_self_and.mpr fun _ h => hturn (Option.some.inj h))

end Visit

namespace Sample

/-- The build has been waited for as long as it may be, and the status cannot be stored. -/
def unheard : Visit := ⟨.epoch, key, refuse (pass (pass limited))⟩

def unheardAtOnce : Visit :=
  ⟨.epoch, key, refuse ⟨{ stalls := { ceiling := some 0 } }, (pass (pass limited)).world⟩⟩

def retry (v : Visit) : Moment := pass ((v.after {}).alter fun w => { w with faults := [] })

end Sample

set_option maxRecDepth 100000 in
/-- A build that should be given up is waited for again. -/
theorem Visit.waits_again_after_refusal : Sample.unheard.led {} = some .buildImageWait ∧
    (Sample.unheard.before.memory.stalls.record Sample.key.text .buildImageWait).1 = true ∧
    Sample.unheard.refusal {} = some (.api "") ∧
    (Sample.retry Sample.unheard).world.store.stage? Sample.key = some .buildImageWait ∧
    (Sample.retry Sample.unheard).world.store.stage? Sample.key ≠
      some (Stage.escalated .buildImageWait) := by
  decide +kernel

set_option maxRecDepth 100000 in
/-- A build that may not be waited for is given up by the next pass. -/
theorem Visit.given_up_again_at_once :
    (Sample.unheardAtOnce.before.memory.stalls.record Sample.key.text .buildImageWait).1 = true ∧
    Sample.unheardAtOnce.refusal {} = some (.api "") ∧
    (Sample.retry Sample.unheardAtOnce).world.store.stage? Sample.key = some .buildImageFailed := by
  have hrefused : Sample.unheardAtOnce.led {} = some .buildImageWait ∧
      (Sample.unheardAtOnce.before.memory.stalls.record Sample.key.text .buildImageWait).1 = true ∧
      Sample.unheardAtOnce.refusal {} = some (.api "") ∧
      Sample.unheardAtOnce.before.world.store.stage? Sample.key ≠ some .buildImage := by
        decide +kernel
  have hlasting : (Sample.unheardAtOnce.after {}).world.store.conflicts = [] ∧
      (Sample.unheardAtOnce.after {}).world.store.failingWrites = [] := by decide +kernel
  have hworking : World.Working { (Sample.unheardAtOnce.after {}).world with faults := [] } :=
    ⟨⟨rfl, hlasting.1⟩, hlasting.2⟩
  obtain ⟨hled, hexceeds, hrefusal, hstage⟩ := hrefused
  exact ⟨hexceeds, hrefusal,
    (Visit.given_up_again_iff .epoch rfl hled hexceeds hrefusal hworking rfl).mpr ⟨rfl, hstage⟩⟩

end EnvOperator
