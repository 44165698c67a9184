import EnvOperator.Proofs.Run.Contention
import EnvOperator.Proofs.Run.Stalling

/-! # Restarts

The operator remembers what it shows and what it counts. Neither has a part in what passes do as
long as no ceiling is set, so it can be restarted at any moment. Where one is set, nothing is left
of an environment that a pass has found gone, so that it begins anew under the same name.
-/
namespace EnvOperator

inductive Event
  | pass (now : Instant) (key : ObjectKey)
  | outside (change : World → World)
  | restart

def Event.isRestart : Event → Bool
  | restart => true
  | pass _ _ | outside _ => false

def Event.IsOf (key : ObjectKey) : Event → Prop
  | pass _ key' => key' = key
  | outside _ | restart => True

namespace PassMemory

def fresh (ceiling : Option UInt32) : PassMemory := { stalls := { ceiling } }

/-- What is remembered when a pass has found its environment gone is nothing, as at the start. -/
theorem forget_agree_fresh (m : PassMemory) (key : ObjectKey) :
    (m.forget key).Agree key (fresh m.stalls.ceiling) where
  tracked := by simp [forget, fresh, Tracker.get?_forget]
  ceiling := rfl
  count := by simp [forget, fresh, StallTable.clear]

end PassMemory

namespace Moment

def restarted (m : Moment) : Moment := ⟨.fresh m.memory.stalls.ceiling, m.world⟩

/-- What passes come to and leave the world in, and the world in the end. -/
def play (settings : Settings) :
    Moment → List Event → List (Except PassError Outcome × World) × World
  | m, [] => ([], m.world)
  | m, .pass now key :: rest =>
    let (result, after) := m.pass settings now key
    let (results, last) := after.play settings rest
    ((result, after.world) :: results, last)
  | m, .outside change :: rest => play settings (m.alter change) rest
  | m, .restart :: rest => play settings m.restarted rest

end Moment

/-! ## Without a ceiling -/

namespace Pass
variable {settings : Settings} {now : Instant} {key : ObjectKey} {m m' : PassMemory}

theorem finish_fst {before : EnvironmentStatus} (hm : m.stalls.ceiling = none)
    (hm' : m'.stalls.ceiling = none) (t : Transition) :
    Prod.fst <$> finish settings now key before m' t =
      Prod.fst <$> finish settings now key before m t := by
  have hs := m.stalls.escalate_of_no_ceiling hm key.text t.next
  have hs' := m'.stalls.escalate_of_no_ceiling hm' key.text t.next
  unfold finish
  dsimp only
  rw [hs, hs', map_bind, map_bind]
  congr 1
  funext r
  rcases r with e | u
  · rfl
  · dsimp only
    split <;> rfl

variable (settings now key) in
/-- Without a ceiling a pass does the same whatever is remembered. -/
theorem run_fst (hm : m.stalls.ceiling = none) (hm' : m'.stalls.ceiling = none) :
    Prod.fst <$> run settings now key m' = Prod.fst <$> run settings now key m := by
  unfold run
  rw [map_bind, map_bind]
  congr 1
  funext r
  rcases r with e | _ | c
  · rfl
  · rfl
  · dsimp only
    rw [proceed_eq, proceed_eq]
    split
    · rfl
    · rw [map_bind, map_bind]
      refine congrArg _ (funext fun t => finish_fst ?_ ?_ t)
      · exact hm
      · exact hm'

end Pass

namespace Moment
variable {settings : Settings} {now : Instant} {key : ObjectKey} {m n : Moment}

theorem ceiling_pass (settings : Settings) (now : Instant) (key : ObjectKey) (m : Moment) :
    (m.pass settings now key).2.memory.stalls.ceiling = m.memory.stalls.ceiling :=
  (Pass.course World.answers_answer settings now key m.memory m.world).apart.ceiling

variable (settings now key) in
theorem pass_of_no_ceiling (hm : m.memory.stalls.ceiling = none)
    (hn : n.memory.stalls.ceiling = none) (hw : n.world = m.world) :
    (n.pass settings now key).1 = (m.pass settings now key).1 ∧
      (n.pass settings now key).2.world = (m.pass settings now key).2.world := by
  have hrun := congrArg (·.inWorld m.world) (Pass.run_fst settings now key hm hn)
  simp only [Dialogue.inWorld_map, Prod.mk.injEq] at hrun
  simp only [pass, hw]
  exact hrun

/-- Without a ceiling it makes no difference when the operator restarts. -/
theorem play_filter (events : List Event) (hm : m.memory.stalls.ceiling = none)
    (hn : n.memory.stalls.ceiling = none) (hw : n.world = m.world) :
    n.play settings (events.filter fun e => !e.isRestart) = m.play settings events := by
  induction events generalizing m n with
  | nil => exact congrArg _ hw
  | cons event rest ih =>
    cases event with
    | pass now key =>
      obtain ⟨hresult, hworld⟩ := pass_of_no_ceiling settings now key hm hn hw
      have hrest := ih ((ceiling_pass settings now key m).trans hm)
        ((ceiling_pass settings now key n).trans hn) hworld
      rw [List.filter_cons_of_pos rfl]
      simp only [play]
      rw [hrest, hresult, hworld]
    | outside change =>
      exact ih (m := m.alter change) (n := n.alter change) hm hn (congrArg change hw)
    | restart => exact ih (m := m.restarted) hm hn hw

/-! ## After a pass that has found its environment gone -/

variable (settings now) in
/-- Where two operators remember the same of an environment, its passes do the same and leave them
so. -/
theorem pass_of_agree (h : m.memory.Agree key n.memory) (hw : n.world = m.world) :
    (n.pass settings now key).1 = (m.pass settings now key).1 ∧
    (n.pass settings now key).2.world = (m.pass settings now key).2.world ∧
    (m.pass settings now key).2.memory.Agree key (n.pass settings now key).2.memory := by
  have hceiling := (ceiling_pass settings now key m).trans h.ceiling.symm
  have hrun : n.pass settings now key = ((m.pass settings now key).1,
      ⟨(m.pass settings now key).2.memory.graft key n.memory,
      (m.pass settings now key).2.world⟩) := by
    simp only [pass, Pass.run_graft h, Dialogue.inWorld_map, hw]
    rfl
  rw [hrun]
  refine ⟨rfl, rfl, ?_, hceiling.symm, ?_⟩
  · simp [PassMemory.graft]
  · simp [PassMemory.graft]

theorem play_of_agree {events : List Event} (hevents : ∀ e ∈ events, e.IsOf key)
    (h : m.memory.Agree key n.memory) (hw : n.world = m.world) :
    n.play settings events = m.play settings events := by
  induction events generalizing m n with
  | nil => exact congrArg _ hw
  | cons event rest ih =>
    have hrest (e : Event) (he : e ∈ rest) : e.IsOf key := hevents e (List.mem_cons_of_mem _ he)
    cases event with
    | pass now key' =>
      obtain rfl : key' = key := hevents _ List.mem_cons_self
      obtain ⟨hresult, hworld, hagree⟩ := pass_of_agree settings now h hw
      simp only [play]
      rw [ih hrest hagree hworld, hresult, hworld]
    | outside change =>
      exact ih (m := m.alter change) (n := n.alter change) hrest h (congrArg change hw)
    | restart =>
      have hfresh : n.restarted = m.restarted := by rw [restarted, restarted, h.ceiling, hw]
      simp only [play]
      rw [hfresh]

/-- Without a ceiling the operator can restart at any moment: passes come to the same and leave the
same worlds. With one, nothing is remembered of an environment that can be told from its text once a
pass has found it gone, and all that is remembered of others stays. So whatever comes of the
environment then, its passes do the same as after a restart. -/
theorem restart_invisible (settings : Settings) (m : Moment) :
    (m.memory.stalls.ceiling = none → ∀ events : List Event,
      m.play settings (events.filter fun e => !e.isRestart) = m.play settings events) ∧
    ∀ (now : Instant) (key : ObjectKey), key.SlashFree → (m.pass settings now key).1 = .ok .gone →
      let after := (m.pass settings now key).2
      after.memory.tracker.get? key = none ∧ after.memory.stalls.counts.get? key.text = none ∧
      after.memory.stalls.ceiling = m.memory.stalls.ceiling ∧
      (∀ other ≠ key, after.memory.tracker.get? other = m.memory.tracker.get? other ∧
        after.memory.stalls.counts.get? other.text = m.memory.stalls.counts.get? other.text) ∧
      ∀ events : List Event, (∀ e ∈ events, e.IsOf key) →
        after.restarted.play settings events = after.play settings events := by
  refine ⟨fun hm events => play_filter events hm hm rfl, fun now key hkey hgone => ?_⟩
  have hcourse := Pass.course World.answers_answer settings now key m.memory m.world
  have hforgets : (m.pass settings now key).2.memory = m.memory.forget key :=
    hcourse.memory_of_gone hgone
  have hagree := m.memory.forget_agree_fresh key
  rw [← hforgets] at hagree
  refine ⟨hagree.tracked.symm, hagree.count.symm, hcourse.apart.ceiling, fun other hne => ?_,
    fun events hevents => ?_⟩
  · exact ⟨hcourse.apart.tracked other hne, hcourse.apart.count _ fun ht =>
      hne (hkey.eq_of_text ht.symm).symm⟩
  · refine play_of_agree hevents ?_ rfl
    rw [restarted, ceiling_pass]
    exact hagree

end Moment

def Sample.removed : Moment := (pass (pass limited)).alter fun w =>
  { w with store := { w.store with objects := w.store.objects.erase ⟨.environment, key⟩ } }

set_option maxRecDepth 100000 in
/-- The passes that were counted for the environment do not count for another one of its name. -/
theorem Moment.restart_invisible_removed :
    Sample.removed.memory.stalls.counts.get? Sample.key.text = some (.buildImageWait, 1) ∧
    (Sample.removed.pass {} .epoch Sample.key).1 = .ok .gone ∧
    (Sample.pass Sample.removed).memory.stalls.counts.get? Sample.key.text = none ∧
    ∀ events : List Event, (∀ e ∈ events, e.IsOf Sample.key) →
      (Sample.pass Sample.removed).restarted.play {} events =
        (Sample.pass Sample.removed).play {} events := by
  have hcount : Sample.removed.memory.stalls.counts.get? Sample.key.text =
      some (.buildImageWait, 1) ∧
      (Sample.removed.pass {} .epoch Sample.key).1.toOption = some .gone := by decide +kernel
  have hgone := Except.ok_of_toOption hcount.2
  obtain ⟨_, hforgotten, _, _, hplay⟩ :=
    (Moment.restart_invisible {} Sample.removed).2 .epoch Sample.key (by decide) hgone
  exact ⟨hcount.1, hgone, hforgotten, hplay⟩

end EnvOperator
