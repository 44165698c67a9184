import EnvOperator.Proofs.Pass.Races
import EnvOperator.Proofs.Pass.Repeating
import EnvOperator.Proofs.Run.Contention

/-! # Quiet passes

A dialogue is quiet if nothing that it asks for is a change. Where no failure is to come it leaves
the world exactly as it is, so that a quiet pass comes to the same at any later time. A pass that is
not quiet makes a job or a workload, or has another status stored than it has found.
-/
namespace EnvOperator

def Query.isWrite : Query → Bool
  | store (.get _ _) | tags _ _ => false
  | store (.create _ _) | store (.replace _ _) | store (.delete _ _) | store (.updateStatus _ _) =>
    true

theorem ObjectKey.Collects.not_isWrite {key : ObjectKey} {q : Query} (h : key.Collects q) :
    q.isWrite = false := by
  cases q with
  | tags => rfl
  | store r => cases r <;> first | rfl | cases h

namespace Dialogue
variable {α β : Type} {d : Dialogue α} {f : α → Dialogue β} {w w₁ : World} {a : α}

def Quiet (d : Dialogue α) (w : World) : Prop := ∀ q ∈ d.asked World.answer w, q.isWrite = false

instance : Decidable (d.Quiet w) :=
  inferInstanceAs (Decidable (∀ q ∈ d.asked World.answer w, q.isWrite = false))

theorem quiet_pure (a : α) (w : World) : (pure a : Dialogue α).Quiet w := fun _ hq => nomatch hq

theorem quiet_bind (h : d.inWorld w = (a, w₁)) :
    (d >>= f).Quiet w ↔ d.Quiet w ∧ (f a).Quiet w₁ := by
  have hrun : d.run World.answer w = (a, w₁) := h
  unfold Quiet
  rw [asked_bind, hrun]
  exact List.forall_mem_append

theorem inWorld_of_quiet (hw : w.Calm) (h : d.Quiet w) : (d.inWorld w).2 = w := by
  induction d with
  | done a => rfl
  | ask q next ih =>
    have hq : q.isWrite = false := h q List.mem_cons_self
    have hsame : (World.answer q w).2 = w := by
      cases q with
      | tags => rfl
      | store r =>
        cases r with
        | get => exact congrArg Prod.snd (World.request_of_calm hw _)
        | create | replace | delete | updateStatus => cases hq
    have hrest : (next (World.answer q w).1).Quiet w := by
      intro q' hq'
      refine h q' (List.mem_cons_of_mem _ ?_)
      rw [hsame]
      exact hq'
    change ((next (World.answer q w).1).inWorld (World.answer q w).2).2 = w
    rw [hsame]
    exact ih _ hrest

theorem get?_run {answer : (q : Query) → World → q.Answer × World} (hanswer : World.Answers answer)
    {id : ObjectId}
    (h : ∀ r, .store r ∈ d.asked answer w → (Query.store r).isWrite = true → r.id? ≠ some id) :
    (d.run answer w).2.store.objects.get? id = w.store.objects.get? id := by
  induction d generalizing w with
  | done a => rfl
  | ask q next ih =>
    have hrest := ih (answer q w).1 fun r hr => h r (List.mem_cons_of_mem _ hr)
    refine hrest.trans ?_
    rw [hanswer.snd]
    cases q with
    | tags => rfl
    | store r =>
      by_cases hr : (Query.store r).isWrite = true
      · exact World.get?_request (h r List.mem_cons_self hr)
      · cases r with
        | get k key =>
          have hsame : (World.answer (.store (.get k key)) w).2.store = w.store :=
            (World.same_get k key w).1
          rw [hsame]
        | create | replace | delete | updateStatus => exact absurd rfl hr

theorem get?_inWorld {id : ObjectId}
    (h : ∀ r, .store r ∈ d.asked World.answer w → (Query.store r).isWrite = true →
      r.id? ≠ some id) :
    (d.inWorld w).2.store.objects.get? id = w.store.objects.get? id :=
  get?_run World.answers_answer h

theorem wellKeyed_inWorld (d : Dialogue α) (hw : w.store.WellKeyed) :
    (d.inWorld w).2.store.WellKeyed := by
  induction d generalizing w with
  | done a => exact hw
  | ask q next ih =>
    refine ih _ ?_
    cases q with
    | tags => exact hw
    | store r =>
      rcases World.request_cases r w with ⟨_, _, hs⟩ | ⟨_, hs, _⟩
      · exact hw.of_objects (by rw [World.answer, hs.1])
      · rw [World.answer, hs]
        exact hw.answer r

end Dialogue

namespace Pass
variable {settings : Settings} {now now' : Instant} {key : ObjectKey} {m : PassMemory} {w : World}
  {t : Transition} {before status : EnvironmentStatus}

variable (settings key w) in
theorem quiet_collect :
    (Collection.collect settings.configNamespace settings.defaults key).run.Quiet w :=
  fun _ hq => (World.answers_answer.asked_collect hq).not_isWrite

theorem quiet_persist : (persist key before status now).Quiet w ↔ status = before := by
  unfold persist
  split
  · exact ⟨fun _ => ‹_›, fun _ => Dialogue.quiet_pure _ w⟩
  · refine ⟨fun h => ?_, fun h => absurd h ‹_›⟩
    cases h _ List.mem_cons_self

theorem quiet_finish : (finish settings now key before m t).Quiet w ↔
    { t.status with stage := (m.stalls.escalate key.text t.next).1 } = before := by
  have hexchanged : (finish settings now key before m t).exchanged World.answer w =
      (persist key before { t.status with stage := (m.stalls.escalate key.text t.next).1 }
        now).exchanged
        World.answer w := finish_exchanged rfl
  have hasked := congrArg (List.map Sigma.fst) hexchanged
  rw [Dialogue.map_exchanged, Dialogue.map_exchanged] at hasked
  unfold Dialogue.Quiet
  rw [hasked]
  exact quiet_persist

theorem finish_unchanged
    (h : { t.status with stage := (m.stalls.escalate key.text t.next).1 } = before) :
    ((finish settings now key before m t).inWorld w).1.1 =
      t.error.elim (.ok (.ofStage settings (m.stalls.escalate key.text t.next).1)) .error := by
  have hpersist :
      (persist key before { t.status with stage := (m.stalls.escalate key.text t.next).1 } now).run
      World.answer w = (.ok (), w) := by
    unfold persist
    rw [if_pos h]
    rfl
  have hfinish : (finish settings now key before m t).run World.answer w = _ :=
    finish_stored rfl hpersist
  exact congrArg (·.1.1) hfinish

theorem finish_of_quiet (now' : Instant) {m' : PassMemory} (hm : m'.stalls = m.stalls)
    (h : (finish settings now key before m t).Quiet w) :
    (finish settings now' key before m' t).Quiet w ∧
    ((finish settings now' key before m' t).inWorld w).1.1 =
      ((finish settings now key before m t).inWorld w).1.1 := by
  have hsame := quiet_finish.mp h
  have hsame' : { t.status with stage := (m'.stalls.escalate key.text t.next).1 } = before := by
    rwa [hm]
  refine ⟨quiet_finish.mpr hsame', ?_⟩
  rw [finish_unchanged hsame, finish_unchanged hsame', hm]

/-- A quiet pass would have been quiet at any other time, and would have come to the same. -/
theorem run_of_quiet (now' : Instant) (h : (run settings now key m).Quiet w) :
    (run settings now' key m).Quiet w ∧
    ((run settings now' key m).inWorld w).1.1 = ((run settings now key m).inWorld w).1.1 := by
  rcases hc : (Collection.collect settings.configNamespace settings.defaults key).run.inWorld w with
    ⟨found, w₀⟩
  unfold run at h ⊢
  rw [Dialogue.quiet_bind hc] at h
  rw [Dialogue.quiet_bind hc, Dialogue.inWorld_bind hc, Dialogue.inWorld_bind hc]
  obtain ⟨hcollect, hrest⟩ := h
  rcases found with e | _ | c
  · exact ⟨⟨hcollect, Dialogue.quiet_pure _ _⟩, rfl⟩
  · exact ⟨⟨hcollect, Dialogue.quiet_pure _ _⟩, rfl⟩
  · dsimp only at hrest ⊢
    rw [proceed_eq] at hrest ⊢
    rw [proceed_eq]
    cases hturn : c.status.turn c.snapshot.revision with
    | none => exact ⟨⟨hcollect, Dialogue.quiet_pure _ _⟩, rfl⟩
    | some stage =>
      rw [hturn] at hrest
      rcases hstep : (c.step { c.status with stage } stage).inWorld w₀ with ⟨t, w₁⟩
      dsimp only at hrest ⊢
      rw [Dialogue.quiet_bind hstep] at hrest
      rw [Dialogue.quiet_bind hstep, Dialogue.inWorld_bind hstep, Dialogue.inWorld_bind hstep]
      obtain ⟨hquiet, hfinish⟩ := hrest
      have hstalls : (m.track key c.status.stage now').stalls =
          (m.track key c.status.stage now).stalls := rfl
      obtain ⟨hfinish', hresult⟩ := finish_of_quiet now' hstalls hfinish
      exact ⟨⟨hcollect, hquiet, hfinish'⟩, hresult⟩

end Pass

/-! ## Passes that are not quiet -/

namespace Collection
variable {c : Collection} {key : ObjectKey} {w : World} {status : EnvironmentStatus}

/-- A job for which there is room is not met by another one. -/
theorem createJob_next_ne (htarget : c.target = c.snapshot.target) (hw : w.Calm)
    (habsent : w.store.objects.get? ⟨.job, c.snapshot.key.own .job⟩ = none) :
    ((c.createJob status).inWorld w).1.next ≠ .buildImage := by
  have hkey : Kind.job.keyOf c.target.job = .ok (c.snapshot.key.own .job) :=
    keyOf_wanted htarget rfl
  rcases ha : w.request (.create .job c.target.job) with ⟨e | v, w'⟩
  · have hcreate : (c.createJob status).inWorld w = (afterCreate status (.error e), w') :=
      Dialogue.inWorld_bind ha
    have herror : ∃ what, e = .api what := by
      rw [World.request_of_calm hw] at ha
      have hcreated := congrArg Prod.fst ha
      cases w.store.creation .job c.target.job with
      | nameless hnone => cases hnone.symm.trans hkey
      | failing _ _ hc =>
        rw [MemoryStore.answer, hc] at hcreated
        exact ⟨_, (Except.error.inj hcreated).symm⟩
      | present hkey' _ hid =>
        cases hkey.symm.trans hkey'
        simp [SortedMap.contains, habsent] at hid
      | made _ _ _ hc =>
        rw [MemoryStore.answer, hc] at hcreated
        cases hcreated
    obtain ⟨what, rfl⟩ := herror
    rw [hcreate]
    simp [afterCreate, Transition.fail]
  · have hcreate : (c.createJob status).inWorld w = (afterCreate status (.ok v), w') :=
      Dialogue.inWorld_bind ha
    rw [hcreate]
    simp [afterCreate, Transition.move]

/-- Nothing is in the way of a job where the world is as it has been found. -/
theorem buildImage_next_ne (htarget : c.target = c.snapshot.target) (hw : w.Calm)
    (hread : w.store.read .job (c.snapshot.key.own .job) = .ok c.snapshot.job)
    (hkey : ∀ job, c.snapshot.job = some job → Kind.job.keyOf job = .ok (c.snapshot.key.own .job)) :
    ((c.buildImage status).inWorld w).1.next ≠ .buildImage := by
  unfold buildImage
  split
  · rename_i hnone
    rw [hnone] at hread
    exact createJob_next_ne htarget hw (MemoryStore.read_eq_none.mp hread)
  · rename_i job hj
    split
    · exact nofun
    · obtain ⟨w', hdeleted, hsub, habsent⟩ := deleteStaleJob_inWorld (hkey job hj) hw.contended
      rw [Dialogue.inWorld_bind hdeleted]
      exact createJob_next_ne htarget (hsub.calm hw) habsent

/-- Where no conflict is to come, the workload is applied or given up. -/
theorem deploy_next_ne (hkeyed : c.Keyed key) (hw : w.Calm) :
    ((c.deploy status).inWorld w).1.next ≠ .deploy := by
  rcases h : (c.applyAll workloadKinds).run.inWorld w with ⟨r, w'⟩
  rw [deploy_inWorld status h]
  cases (applyAll_applied hw.contended hkeyed (fun k => mem_workloadKinds.mp) (by decide) h).1 with
  | done => exact nofun
  | lost _ hcalm => exact absurd hw hcalm
  | @refused e k _ hc _ =>
    cases e with
    | conflict => cases hc
    | notFound | alreadyExists | invalid | serialization | api => exact nofun

end Collection

namespace Pass
variable {settings : Settings} {now : Instant} {key : ObjectKey} {m : PassMemory} {w w₁ : World}
  {c : Collection} {e : Environment} {stage : Stage} {t : Transition}
    {before status : EnvironmentStatus}

namespace Dispatches

theorem inWorld (hd : Dispatches World.answer settings key w c stage t w₁) (hw : w.Calm) :
    (Collection.collect settings.configNamespace settings.defaults key).run.inWorld w =
      (.ok (some c), w) ∧
    (c.step { c.status with stage } stage).inWorld w = (t, w₁) := by
  obtain ⟨w₀, hcollect, hstep⟩ := hd.step
  change Dialogue.inWorld _ w = _ at hcollect
  have hkept := Dialogue.inWorld_of_quiet hw (quiet_collect settings key w)
  rw [hcollect] at hkept
  obtain rfl : w₀ = w := hkept
  exact ⟨hcollect, hstep⟩

theorem inWorld_run (hd : Dispatches World.answer settings key w c stage t w₁) (now : Instant)
    (m : PassMemory) : (run settings now key m).inWorld w =
      (finish settings now key c.status (m.track key c.status.stage now) t).inWorld w₁ := by
  obtain ⟨w₀, hcollect, hstep⟩ := hd.step
  have hrun : (run settings now key m).inWorld w = _ := Dialogue.inWorld_bind hcollect
  rw [hrun]
  dsimp only
  rw [proceed_eq, hd.turn]
  exact Dialogue.inWorld_bind hstep

theorem takes (hd : Dispatches World.answer settings key w c stage t w₁) :
    ∃ e, Takes settings key w e c stage t w₁ ∧ c.status = e.statusOrInitial := by
  obtain ⟨hx, hc, hsteps, _⟩ := hd.steps
  obtain ⟨e, he, henv, hstatus, hrevision⟩ := hx.exists_environment
  have hturn : e.statusOrInitial.turn e.spec.revision = some stage := by
    rw [← hrevision, ← hstatus]
    exact hd.turn
  refine ⟨e, ⟨⟨he, hx, congrArg Collection.target hc, henv, hturn⟩, ?_, hd.led_eq⟩, hstatus⟩
  rw [← hstatus]
  exact hsteps

/-- Where no failure is to come, a stage that makes something goes on to another one. -/
theorem next_ne (hd : Dispatches World.answer settings key w c stage t w₁) (hw : w.Calm)
    (hkeys : w.store.WellKeyed) (hstage : stage = .buildImage ∨ stage = .deploy) :
    t.next ≠ stage := by
  obtain ⟨hcollect, hstep⟩ := hd.inWorld hw
  obtain ⟨⟨hx, htarget⟩, _⟩ := World.collect_effect hcollect
  have hnext := congrArg (fun p => (Prod.fst p).next) hstep
  rw [← hnext]
  rcases hstage with rfl | rfl
  · have hread := hx.found (k := .job) (.inl rfl)
    rw [← hx.key_eq] at hread
    have hstored := MemoryStore.stored?_of_read hread
    exact Collection.buildImage_next_ne htarget hw hread fun job hj =>
      hkeys.keyOf_stored (hstored.trans hj)
  · exact Collection.deploy_next_ne (Collection.Found.keyed ⟨hx, htarget⟩ hkeys) hw

end Dispatches

theorem persist_written (now : Instant) (hw : w.Calm)
    (he : w.store.stored? .environment key = some e) (hne : status ≠ before) :
    ∃ w', (persist key before status now).inWorld w = (.ok (), w') ∧ w'.store.objects =
      w.store.objects.insert ⟨.environment, key⟩
        (Environment.codec.encode
          { e with status := some { status with lastUpdated := some now } }) := by
  unfold persist
  rw [if_neg hne]
  have hrequest :=
    World.request_of_calm hw (.updateStatus key { status with lastUpdated := some now })
  rw [MemoryStore.answer, MemoryStore.updateStatus_of_stored he] at hrequest
  exact ⟨_, hrequest, rfl⟩

variable (settings now key m w) in
/-- A pass collects, and takes a step and finishes after that, if a stage has its turn. -/
theorem parts :
    (run settings now key m).exchanged World.answer w =
      (Collection.collect settings.configNamespace settings.defaults key).run.exchanged
        World.answer w ∨
    ∃ c stage t w₀ w₁, Dispatches World.answer settings key w c stage t w₁ ∧
      (c.step { c.status with stage } stage).inWorld w₀ = (t, w₁) ∧
      (run settings now key m).exchanged World.answer w =
        (Collection.collect settings.configNamespace settings.defaults key).run.exchanged
          World.answer w ++
          ((c.step { c.status with stage } stage).exchanged World.answer w₀ ++
            (finish settings now key c.status (m.track key c.status.stage now) t).exchanged
              World.answer w₁) := by
  rcases hcollect : (Collection.collect settings.configNamespace settings.defaults key).run.run
    World.answer w with ⟨found, w₀⟩
  unfold run
  rw [Dialogue.exchanged_bind, hcollect]
  rcases found with e | _ | c
  · exact .inl (List.append_nil _)
  · exact .inl (List.append_nil _)
  · dsimp only
    rw [proceed_eq]
    cases hturn : c.status.turn c.snapshot.revision with
    | none => exact .inl (List.append_nil _)
    | some stage =>
      rcases hstep : (c.step { c.status with stage } stage).run World.answer w₀ with ⟨t, w₁⟩
      refine .inr ⟨c, stage, t, w₀, w₁, ⟨hturn, w₀, hcollect, hstep⟩, hstep, ?_⟩
      dsimp only
      rw [Dialogue.exchanged_bind, hstep]

theorem quiet_of_exchanged {d : Dialogue Result} (h : d.exchanged World.answer w =
    (Collection.collect settings.configNamespace settings.defaults key).run.exchanged World.answer
      w) : d.Quiet w := by
  unfold Dialogue.Quiet
  rw [← Dialogue.map_exchanged, h, Dialogue.map_exchanged]
  exact quiet_collect settings key w

theorem exists_dispatches (h : ¬ (run settings now key m).Quiet w) : ∃ c stage t w₁,
    Dispatches World.answer settings key w c stage t w₁ ∧
    ((stage = .buildImage ∨ stage = .deploy) ∨
      { t.status with stage := (m.stalls.escalate key.text t.next).1 } ≠ c.status) := by
  rcases parts settings now key m w with hnone | ⟨c, stage, t, w₀, w₁, hd, _, hexchanged⟩
  · exact absurd (quiet_of_exchanged hnone) h
  · refine ⟨c, stage, t, w₁, hd, ?_⟩
    by_cases hsame : { t.status with stage := (m.stalls.escalate key.text t.next).1 } = c.status
    · refine .inl (Classical.not_not.mp fun hmakes => h fun q hq => ?_)
      rw [← Dialogue.map_exchanged, hexchanged, List.map_append, List.map_append,
        Dialogue.map_exchanged, Dialogue.map_exchanged, Dialogue.map_exchanged] at hq
      rcases List.mem_append.mp hq with hq | hq
      · exact quiet_collect settings key w q hq
      · rcases List.mem_append.mp hq with hq | hq
        · -- A stage that makes nothing asks for nothing but tags.
          cases asked_step hq with
          | tags => rfl
          | create hk | replace hk | delete hk => cases stage <;> simp_all [Stage.Makes]
        · exact (quiet_finish (m := m.track key c.status.stage now)).mpr hsame q hq
    · exact .inr hsame

/-- Where no failure is to come, a pass whose step is quiet and leaves the status as it is writes
nothing. -/
theorem Dispatches.run_of_unchanged (now : Instant)
    (hd : Dispatches World.answer settings key w c stage t w₁)
    (hm : m.stalls.ceiling = none) (hw : w.Calm)
    (hquiet : (c.step { c.status with stage } stage).Quiet w)
    (hsame : { t.status with stage := t.next } = c.status) : (run settings now key m).Quiet w ∧
    ((run settings now key m).inWorld w).1.1 =
      t.error.elim (.ok (.ofStage settings t.next)) .error := by
  obtain ⟨hcollect, hstep⟩ := hd.inWorld hw
  have hescalate : ((m.track key c.status.stage now).stalls.escalate key.text t.next).1 = t.next :=
    m.stalls.escalate_of_no_ceiling hm key.text t.next
  have hunchanged : { t.status with
      stage := ((m.track key c.status.stage now).stalls.escalate key.text t.next).1 } =
      c.status := by
    rwa [hescalate]
  constructor
  · unfold run
    rw [Dialogue.quiet_bind hcollect]
    refine ⟨quiet_collect settings key w, ?_⟩
    dsimp only
    rw [proceed_eq, hd.turn]
    dsimp only
    rw [Dialogue.quiet_bind hstep]
    exact ⟨hquiet, quiet_finish.mpr hunchanged⟩
  · rw [hd.inWorld_run, finish_unchanged hunchanged, hescalate]

theorem Dispatches.stored (now : Instant) (hd : Dispatches World.answer settings key w c stage t w₁)
    (hm : m.stalls.ceiling = none) (hw : w.Calm)
    (hchanged : { t.status with stage := t.next } ≠ c.status) :
    ∃ e, w.store.stored? .environment key = some e ∧
      ((run settings now key m).inWorld w).2.store.objects =
        w₁.store.objects.insert ⟨.environment, key⟩
        (Environment.codec.encode { e with
          status := some { t.status with stage := t.next, lastUpdated := some now } }) := by
  obtain ⟨e, he, _, _, hstored⟩ := hd.exists_environment World.answers_answer
  refine ⟨e, he, ?_⟩
  obtain ⟨w', hpersist, ho⟩ := persist_written now (hd.subsides.calm hw) hstored hchanged
  have hescalate := m.stalls.escalate_of_no_ceiling hm key.text t.next
  have hstalls : (m.track key c.status.stage now).stalls.escalate key.text t.next =
      (t.next, (m.stalls.escalate key.text t.next).2) := Prod.ext hescalate rfl
  have hfinish : (finish settings now key c.status (m.track key c.status.stage now) t).inWorld
      w₁ = _ :=
    finish_stored hstalls hpersist
  rw [hd.inWorld_run now m, hfinish]
  exact ho

/-- Where no failure is to come, a pass that is not quiet goes on to another status and stores
it. -/
theorem stored_of_not_quiet (hm : m.stalls.ceiling = none) (hw : w.Calm) (hkeys : w.store.WellKeyed)
    (h : ¬ (run settings now key m).Quiet w) :
    ∃ e c stage t w₁, Takes settings key w e c stage t w₁ ∧
      { t.status with stage := t.next } ≠ e.statusOrInitial ∧
      (stage = .buildImage ∨ stage = .deploy → t.next ≠ stage) ∧
      ((run settings now key m).inWorld w).2.store.objects =
        w₁.store.objects.insert ⟨.environment, key⟩
        (Environment.codec.encode { e with
          status := some { t.status with stage := t.next, lastUpdated := some now } }) := by
  obtain ⟨c, stage, t, w₁, hd, hwrites⟩ := exists_dispatches h
  obtain ⟨e, ht, hstatus⟩ := hd.takes
  have hnext := hd.next_ne hw hkeys
  have hchanged : { t.status with stage := t.next } ≠ c.status := by
    rcases hwrites with hmakes | hne
    · intro hsame
      have hinitial : stage ≠ .initial := by
        rintro rfl
        rcases hmakes with hs | hs <;> cases hs
      obtain ⟨_, hstage, _⟩ := ht.of_ne_initial hinitial
      apply hnext hmakes
      rw [← hstage, ← hstatus, ← hsame]
    · rwa [m.stalls.escalate_of_no_ceiling hm key.text t.next] at hne
  obtain ⟨e', he', ho⟩ := hd.stored now hm hw hchanged
  cases he'.symm.trans ht.environment
  exact ⟨e, c, stage, t, w₁, ht, hstatus ▸ hchanged, hnext, ho⟩

end Pass
end EnvOperator
