import EnvOperator.Proofs.Pass.Counting
import EnvOperator.Proofs.Run.Independence

/-! # When stages are given up

While every status can be stored, and nobody else stores any, what the passes of an environment have
ended in since it was last gone is all that decides whether the next one gives up.
-/
namespace EnvOperator

/-! ## What passes end in -/

namespace Visit
variable (settings : Settings) (v : Visit)

def refusal : Option StoreError :=
  Pass.refusal World.answer settings v.now v.key v.before.memory v.before.world

/-- The stage that a pass has ended in, if it has taken a step: the one that is stored then. -/
def ended : Option Stage :=
  (v.led settings).bind fun _ => (v.after settings).world.store.stage? v.key

def foundGone : Bool :=
  match (v.before.pass settings v.now v.key).1 with
  | .ok .gone => true
  | _ => false

/-- A pass has not ended in the stage that its step has led to. -/
def GivesUp : Prop := ∃ stage, v.led settings = some stage ∧ v.ended settings ≠ some stage

theorem course : Pass.Course World.answer settings v.now v.key v.before.memory v.before.world
    ((v.before.pass settings v.now v.key).1, (v.after settings).memory) (v.after settings).world
      (v.led settings)
    (v.refusal settings) :=
  Pass.course World.answers_answer settings v.now v.key v.before.memory v.before.world

theorem foundGone_iff :
    v.foundGone settings = true ↔ (v.before.pass settings v.now v.key).1 = .ok .gone := by
  unfold foundGone
  split
  · simp [*]
  · rename_i hne
    exact ⟨nofun, fun h => absurd h hne⟩

variable {settings v}

variable {stage : Stage}

/-- A step whose status is stored ends in where it has led, or in what it has stalled into. -/
theorem ended_of_led (hw : v.refusal settings = none) (hl : v.led settings = some stage) :
    v.ended settings = some (v.before.memory.stalls.escalate v.key.text stage).1 := by
  have hcourse := v.course settings
  rw [hw] at hcourse
  rcases hcourse.ends World.answers_answer with ⟨hnone, _⟩ | ⟨stage', hl', _, hstage, _⟩
  · rw [hl] at hnone
    cases hnone
  · cases hl.symm.trans hl'
    rw [ended, hl]
    exact hstage

theorem led_of_ended (h : v.ended settings = some stage) :
    ∃ stage, v.led settings = some stage := by
  obtain ⟨stage', hl, _⟩ := Option.bind_eq_some_iff.mp h
  exact ⟨stage', hl⟩

end Visit

def visits (key : ObjectKey) (past : List Visit) : List Visit := past.filter (·.key = key)

def sinceGone (settings : Settings) (past : List Visit) : List Visit :=
  past.takeWhile fun v => !v.foundGone settings

def endings (settings : Settings) (past : List Visit) : List Stage :=
  past.filterMap (Visit.ended settings)

theorem visits_cons_self (v : Visit) (past : List Visit) :
    visits v.key (v :: past) = v :: visits v.key past := by
  simp [visits]

theorem visits_cons_of_ne {v : Visit} {key : ObjectKey} (h : v.key ≠ key) (past : List Visit) :
    visits key (v :: past) = visits key past := by
  simp [visits, h]

section
variable {settings : Settings} {v : Visit} {stage : Stage}

theorem sinceGone_cons_of_gone (h : v.foundGone settings = true) (past : List Visit) :
    sinceGone settings (v :: past) = [] := by
  simp [sinceGone, h]

theorem sinceGone_cons (h : ¬ v.foundGone settings = true) (past : List Visit) :
    sinceGone settings (v :: past) = v :: sinceGone settings past := by
  simp [sinceGone, h]

theorem endings_cons_none (h : v.ended settings = none) (past : List Visit) :
    endings settings (v :: past) = endings settings past := List.filterMap_cons_none h

theorem endings_cons_some (h : v.ended settings = some stage) (past : List Visit) :
    endings settings (v :: past) = stage :: endings settings past := List.filterMap_cons_some h

end

theorem isPrefix_endings_sinceGone (settings : Settings) (past : List Visit) :
    endings settings (sinceGone settings past) <+: endings settings past :=
  (List.takeWhile_prefix _).filterMap _

/-- What is counted of an environment is what its passes have ended in since it was gone, and all
that they have ever ended in unless it starts over. -/
structure Tallied (settings : Settings) (key : ObjectKey) (past : List Visit) (m : Moment) :
    Prop where
  recent : m.memory.stalls.counts.get? key.text =
    StallTable.tally (endings settings (sinceGone settings (visits key past)))
  always : m.world.store.writtenStatus? key = none ∨
    m.memory.stalls.counts.get? key.text = StallTable.tally (endings settings (visits key past))

namespace Tallied
variable {settings : Settings} {key : ObjectKey} {past : List Visit} {v : Visit}

theorem pass_of_ne (h : Tallied settings key past v.before) (hkey : key.SlashFree)
    (hne : v.key ≠ key) : Tallied settings key (v :: past) (v.after settings) := by
  have htext : key.text ≠ v.key.text := fun ht => hne (hkey.eq_of_text ht).symm
  have hcount : (v.after settings).memory.stalls.counts.get? key.text =
      v.before.memory.stalls.counts.get? key.text := (v.course settings).apart.count _ htext
  constructor
  · rw [visits_cons_of_ne hne, hcount]
    exact h.recent
  · rw [visits_cons_of_ne hne, hcount]
    refine h.always.imp_left fun hnone => Option.eq_none_iff_forall_not_mem.mpr fun st hst => ?_
    rcases (Moment.pass_comes settings v.now v.key v.before).writtenStatus?_cases hst with
      hst | ⟨hkey', _⟩
    · rw [hnone] at hst
      cases hst
    · exact hne hkey'.symm

theorem others {m : Moment} {w : World} (h : Tallied settings key past m)
    (hw : m.world.StatusesKept w) : Tallied settings key past ⟨m.memory, w⟩ where
  recent := h.recent
  always := by
    refine h.always.imp_left fun hnone => Option.eq_none_iff_forall_not_mem.mpr fun st hst => ?_
    have hst := hw key st hst
    rw [hnone] at hst
    cases hst

theorem pass_self (h : Tallied settings v.key past v.before) (hw : v.refusal settings = none) :
    Tallied settings v.key (v :: past) (v.after settings) := by
  have hcourse := v.course settings
  rw [hw] at hcourse
  have hgone := v.foundGone_iff settings
  rcases hcourse.ends World.answers_answer with
    ⟨hl, hs, ⟨hr, hstalls, hst⟩ | ⟨hr, hstalls⟩⟩ | ⟨stage, hl, hr, hstage, hstalls⟩
  · have hended : v.ended settings = none := by rw [Visit.ended, hl]; rfl
    constructor
    · rw [visits_cons_self, sinceGone_cons_of_gone (hgone.mpr hr), hstalls]
      simp [StallTable.clear, endings, StallTable.tally]
    · exact .inl (by rwa [hs.1])
  · have hended : v.ended settings = none := by rw [Visit.ended, hl]; rfl
    constructor
    · rw [visits_cons_self, sinceGone_cons (mt hgone.mp hr), endings_cons_none hended, hstalls]
      exact h.recent
    · rw [visits_cons_self, endings_cons_none hended, hstalls, hs.1]
      exact h.always
  · have hended : v.ended settings = some (v.before.memory.stalls.escalate v.key.text stage).1 := by
      rw [Visit.ended, hl]
      exact hstage
    constructor
    · rw [visits_cons_self, sinceGone_cons (mt hgone.mp hr), endings_cons_some hended, hstalls]
      exact StallTable.get?_escalate h.recent
    · rw [visits_cons_self, endings_cons_some hended, hstalls]
      refine .inr ?_
      rcases h.always with hnone | hcount
      · obtain rfl := hcourse.led_of_no_status World.answers_answer hnone hl
        rw [StallTable.escalate_of_not_waiting rfl]
        simp [StallTable.clear, StallTable.tally, Stage.isWaiting]
      · exact StallTable.get?_escalate hcount

theorem row_le_ceiling (h : Tallied settings v.key past v.before) (hw : v.refusal settings = none)
    {n : UInt32} (hn : v.before.memory.stalls.ceiling = some n) {stage next : Stage}
    (hstage : stage.isWaiting = true) (hended : v.ended settings = some next)
    (hbound : ¬ List.replicate UInt32.size stage <+: next :: endings settings (visits v.key past)) :
    ¬ List.replicate (n.toNat + 1) stage <+: next :: endings settings (visits v.key past) := by
  intro hrow
  rw [List.replicate_succ, List.cons_prefix_cons] at hrow
  obtain ⟨rfl, hrow⟩ := hrow
  obtain ⟨led, hl⟩ := Visit.led_of_ended hended
  have hstays : (v.before.memory.stalls.escalate v.key.text led).1 = stage :=
    Option.some.inj ((Visit.ended_of_led hw hl).symm.trans hended)
  have hbecomes := v.before.memory.stalls.escalate_becomes v.key.text led
  rw [hstays] at hbecomes
  rcases hbecomes with rfl | ⟨_, rfl⟩
  · rcases h.always with hnone | hcount
    · cases (v.course settings).led_of_no_status World.answers_answer hnone hl
      cases hstage
    · exact (StallTable.escalate_ne_iff_row hcount hstage (by rwa [hstays])).mpr
        ⟨n, hn, hrow⟩ hstays
  · rw [Stage.isWaiting_escalated] at hstage
    cases hstage

/-- A pass gives up just when its step has led to a waiting stage, and as many passes as the ceiling
allows have ended in it before. -/
theorem givesUp_iff_row (h : Tallied settings v.key past v.before) (hw : v.refusal settings = none)
    (hbound : ∀ stage, ¬ List.replicate UInt32.size stage <:+: endings settings
      (visits v.key (v :: past))) :
    v.GivesUp settings ↔ ∃ stage n, v.led settings = some stage ∧ stage.isWaiting = true ∧
      v.before.memory.stalls.ceiling = some n ∧
      List.replicate n.toNat stage <+: endings settings
        (sinceGone settings (visits v.key past)) := by
  have hexact {stage : Stage} (hl : v.led settings = some stage)
      (hstage : stage.isWaiting = true) :=
    StallTable.escalate_ne_iff_row h.recent hstage fun hrow => hbound stage <| by
      rw [visits_cons_self, endings_cons_some (Visit.ended_of_led hw hl)]
      exact (hrow.trans
        (List.cons_prefix_cons.mpr ⟨rfl, isPrefix_endings_sinceGone settings _⟩)).isInfix
  have hgives {stage : Stage} (hl : v.led settings = some stage) : v.ended settings ≠ some stage ↔
      (v.before.memory.stalls.escalate v.key.text stage).1 ≠ stage := by
    rw [Visit.ended_of_led hw hl, ne_eq, Option.some.injEq]
  constructor
  · rintro ⟨stage, hl, hne⟩
    have hne := (hgives hl).mp hne
    have hstage := (StallTable.escalate_ne_iff.mp hne).1
    obtain ⟨n, hn, hrow⟩ := (hexact hl hstage).mp hne
    exact ⟨stage, n, hl, hstage, hn, hrow⟩
  · rintro ⟨stage, n, hl, hstage, hn, hrow⟩
    exact ⟨stage, hl, (hgives hl).mpr ((hexact hl hstage).mpr ⟨n, hn, hrow⟩)⟩

end Tallied

/-! ## Runs -/

/-- The moments that are reached from a first one without a loss of memory, with the passes on the
way there, the latest first. -/
inductive Tenure (settings : Settings) (others : World → World → Prop) (first : Moment) :
    List Visit → Moment → Prop
  | first : Tenure settings others first [] first
  | pass {past : List Visit} {v : Visit} (h : Tenure settings others first past v.before) :
      Tenure settings others first (v :: past) (v.after settings)
  | others {past : List Visit} {m : Moment} {w : World} (h : Tenure settings others first past m)
      (hw : others m.world w) : Tenure settings others first past ⟨m.memory, w⟩

namespace Tenure
variable {settings : Settings} {others : World → World → Prop} {first m : Moment}
  {past : List Visit} {key : ObjectKey} {v : Visit}

theorem ceiling (h : Tenure settings others first past m) :
    m.memory.stalls.ceiling = first.memory.stalls.ceiling := by
  induction h with
  | first => rfl
  | @pass past v _ ih => exact (v.course settings).apart.ceiling.trans ih
  | others _ _ ih => exact ih

theorem tallied (hkey : key.SlashFree) (hothers : ∀ w w', others w w' → w.StatusesKept w')
    (hfresh : first.memory.stalls.counts = ∅) (h : Tenure settings others first past m)
    (hwritten : ∀ v ∈ past, v.refusal settings = none) : Tallied settings key past m := by
  induction h with
  | first =>
    have hnone : first.memory.stalls.counts.get? key.text = none := by rw [hfresh]; rfl
    exact ⟨hnone, .inr hnone⟩
  | @pass past v _ ih =>
    have hbefore := ih fun u hu => hwritten u (List.mem_cons_of_mem _ hu)
    by_cases hv : v.key = key
    · subst hv
      exact hbefore.pass_self (hwritten v List.mem_cons_self)
    · exact hbefore.pass_of_ne hkey hv
  | others _ hw ih => exact (ih hwritten).others (hothers _ _ hw)

/-- No more passes in a row end in a waiting stage than the ceiling allows. -/
theorem rows_le_ceiling (hkey : key.SlashFree) (hothers : ∀ w w', others w w' → w.StatusesKept w')
    (hfresh : first.memory.stalls.counts = ∅) (h : Tenure settings others first past m)
    (hwritten : ∀ v ∈ past, v.refusal settings = none)
    (hbound : ∀ stage, ¬ List.replicate UInt32.size stage <:+: endings settings (visits key past))
    {n : UInt32} (hn : first.memory.stalls.ceiling = some n) {stage : Stage}
    (hstage : stage.isWaiting = true) :
    ¬ List.replicate (n.toNat + 1) stage <:+: endings settings (visits key past) := by
  induction h with
  | first => simp [endings, visits, List.replicate_succ]
  | others _ _ ih => exact ih hwritten hbound
  | @pass past v h ih =>
    have hwritten' (u : Visit) (hu : u ∈ past) := hwritten u (List.mem_cons_of_mem _ hu)
    by_cases hv : v.key = key
    · subst hv
      rw [visits_cons_self] at hbound ⊢
      cases hended : v.ended settings with
      | none =>
        rw [endings_cons_none hended] at hbound ⊢
        exact ih hwritten' hbound
      | some next =>
        rw [endings_cons_some hended] at hbound ⊢
        rw [List.infix_cons_iff]
        rintro (hrow | hrow)
        · exact (h.tallied hkey hothers hfresh hwritten').row_le_ceiling
            (hwritten v List.mem_cons_self)
            (h.ceiling.trans hn) hstage hended (fun hp => hbound stage hp.isInfix) hrow
        · exact ih hwritten' (fun s hs => hbound s (hs.trans (List.suffix_cons _ _).isInfix)) hrow
    · rw [visits_cons_of_ne hv] at hbound ⊢
      exact ih hwritten' hbound

/-- While statuses are stored and nobody else stores any, and no count overflows: a pass of an
environment that can be told from its text gives up just when its step has led to a waiting stage in
which, since the environment was last gone, as many passes have ended before it as the ceiling
allows. It then ends in the failure of its half of the pipeline. So no more passes in a row end in a
waiting stage than that, and none gives up without a ceiling. -/
theorem givesUp_iff (hkey : v.key.SlashFree) (hothers : ∀ w w', others w w' → w.StatusesKept w')
    (hfresh : first.memory.stalls.counts = ∅) (h : Tenure settings others first past v.before)
    (hwritten : ∀ u ∈ v :: past, u.refusal settings = none)
    (hbound : ∀ stage, ¬ List.replicate UInt32.size stage <:+: endings settings
      (visits v.key (v :: past))) :
    (v.GivesUp settings ↔ ∃ stage n, v.led settings = some stage ∧ stage.isWaiting = true ∧
      first.memory.stalls.ceiling = some n ∧
      List.replicate n.toNat stage <+: endings settings (sinceGone settings (visits v.key past))) ∧
    (v.GivesUp settings → ∀ stage, v.led settings = some stage →
      v.ended settings = some (if stage = .deployVerify then
        .deploymentFailed else .buildImageFailed)) ∧
    (∀ n stage, first.memory.stalls.ceiling = some n → stage.isWaiting = true →
      ¬ List.replicate (n.toNat + 1) stage <:+: endings settings (visits v.key (v :: past))) ∧
    (first.memory.stalls.ceiling = none → ¬ v.GivesUp settings) := by
  have hlast := hwritten v List.mem_cons_self
  have htallied := h.tallied hkey hothers hfresh fun u hu => hwritten u (List.mem_cons_of_mem _ hu)
  have hiff := htallied.givesUp_iff_row hlast hbound
  rw [h.ceiling] at hiff
  refine ⟨hiff, ?_, fun n stage hn hstage => ?_, fun hnone hgives => ?_⟩
  · rintro ⟨stage, hl, hne⟩ stage' hl'
    cases hl.symm.trans hl'
    rw [Visit.ended_of_led hlast hl] at hne ⊢
    rcases v.before.memory.stalls.escalate_becomes v.key.text stage with hstays | ⟨_, hescalated⟩
    · exact absurd (congrArg some hstays) hne
    · rw [hescalated]
      cases stage <;> rfl
  · exact (Tenure.pass h).rows_le_ceiling hkey hothers hfresh hwritten hbound hn hstage
  · obtain ⟨_, n, _, _, hn, _⟩ := hiff.mp hgives
    rw [hnone] at hn
    cases hn

end Tenure

namespace Sample

def limited : Moment := { first with memory := { stalls := { ceiling := some 1 } } }

def built : List Visit := [⟨.epoch, key, pass limited⟩, ⟨.epoch, key, limited⟩]

def impatient : Visit := ⟨.epoch, key, pass (pass limited)⟩

theorem tenure_built : Tenure {} World.StatusesKept limited built impatient.before :=
  .pass (v := ⟨.epoch, key, pass limited⟩) (.pass (v := ⟨.epoch, key, limited⟩) .first)

end Sample

set_option maxRecDepth 100000 in
/-- A build job is made and nothing comes of it by the next pass, which gives up. -/
theorem Tenure.givesUp_impatient :
    Tenure {} World.StatusesKept Sample.limited Sample.built Sample.impatient.before ∧
    Sample.impatient.led {} = some .buildImageWait ∧ Sample.impatient.GivesUp {} ∧
    Sample.impatient.ended {} = some .buildImageFailed := by
  have hwritten : ∀ u ∈ Sample.impatient :: Sample.built, u.refusal {} = none := by decide +kernel
  have hbound (stage : Stage) : ¬ List.replicate UInt32.size stage <:+:
      endings {} (visits Sample.key (Sample.impatient :: Sample.built)) := by
    intro hrow
    have hvisits : (visits Sample.key (Sample.impatient :: Sample.built)).length ≤ 3 :=
      List.length_filter_le _ _
    have hendings := List.length_filterMap_le (Visit.ended {})
      (visits Sample.key (Sample.impatient :: Sample.built))
    have hlong := hrow.length_le
    have hsize : 3 < UInt32.size := by decide
    rw [List.length_replicate, endings] at hlong
    omega
  have hled : Sample.impatient.led {} = some .buildImageWait ∧
      List.replicate 1 Stage.buildImageWait <+:
      endings {} (sinceGone {} (visits Sample.key Sample.built)) := by decide +kernel
  obtain ⟨hiff, hfailure, _⟩ :=
    Tenure.givesUp_iff (by decide) (fun _ _ h => h) rfl Sample.tenure_built hwritten hbound
  have hgives := hiff.mpr ⟨.buildImageWait, 1, hled.1, rfl, rfl, hled.2⟩
  exact ⟨Sample.tenure_built, hled.1, hgives, hfailure hgives .buildImageWait hled.1⟩

end EnvOperator
