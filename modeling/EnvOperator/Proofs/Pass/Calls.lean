import EnvOperator.Proofs.Pass.Quiet
import Mathlib.Data.List.ReduceOption

/-! # Calls that write

What a pass writes is told by the calls that it issues, whether or not they succeed. They are the
work of its stage on objects that the environment owns, and last of all a call for the status, which
is issued if it has changed.
-/
namespace EnvOperator

def Query.call? : Query → Option StoreCall
  | store r => r.call?
  | tags _ _ => none

theorem Request.id?_of_isWrite {r : Request} (h : (Query.store r).isWrite = true) :
    r.id? = r.call?.map StoreCall.id := by
  rcases r.id?_cases with ⟨k, key, rfl⟩ | hid
  · cases h
  · exact hid

namespace Dialogue
variable {α β σ : Type} {answer : (q : Query) → σ → q.Answer × σ}

def writes (answer : (q : Query) → σ → q.Answer × σ) (d : Dialogue α) (s : σ) :
    List (Option StoreCall) :=
  ((d.asked answer s).filter (·.isWrite)).map Query.call?

theorem writes_bind {d : Dialogue α} {f : α → Dialogue β} {s s' : σ} {a : α}
    (h : d.run answer s = (a, s')) :
    (d >>= f).writes answer s = d.writes answer s ++ (f a).writes answer s' := by
  unfold writes
  rw [asked_bind, h, List.filter_append, List.map_append]

theorem writes_eq_nil {d : Dialogue α} {s : σ} (h : ∀ q ∈ d.asked answer s, q.isWrite = false) :
    d.writes answer s = [] := by
  unfold writes
  rw [List.filter_eq_nil_iff.mpr fun q hq => by simp [h q hq], List.map_nil]

theorem writes_ask (q : Query) (next : q.Answer → Dialogue α) (s : σ) :
    (ask q next).writes answer s =
    (if q.isWrite then [q.call?] else []) ++ (next (answer q s).1).writes answer
      (answer q s).2 := by
  unfold writes
  rw [asked, List.filter_cons]
  split <;> rfl

section
variable {answer : (q : Query) → World → q.Answer × World} (h : World.Answers answer)
  {d : Dialogue α} {w : World}
include h

/-- An object that no call is about stays as it is. -/
theorem get?_run_of_calls {id : ObjectId}
    (hid : ∀ call, some call ∈ d.writes answer w → call.id ≠ id) :
    (d.run answer w).2.store.objects.get? id = w.store.objects.get? id := by
  refine get?_run h fun r hr hwrite hsame => ?_
  rw [Request.id?_of_isWrite hwrite] at hsame
  obtain ⟨call, hcall, rfl⟩ := Option.map_eq_some_iff.mp hsame
  exact hid call (List.mem_map.mpr ⟨.store r, List.mem_filter.mpr ⟨hr, hwrite⟩, hcall⟩) rfl

/-- A store that no failure keeps calls from remembers the writes. -/
theorem calls_run (hw : w.faults = []) :
    (d.run answer w).2.store.calls = w.store.calls ++ (d.writes answer w).reduceOption := by
  induction d generalizing w with
  | done a => exact (List.append_nil _).symm
  | ask q next ih =>
    have hone : (answer q w).2.store.calls = w.store.calls ++ q.call?.toList ∧
        (answer q w).2.faults = [] := by
      rw [h.snd]
      cases q with
      | tags => exact ⟨(List.append_nil _).symm, hw⟩
      | store r =>
        simp only [World.answer, World.request, hw, Fault.take?]
        exact ⟨w.store.calls_answer r, trivial⟩
    have hcall : (if q.isWrite = true then [q.call?] else []).reduceOption = q.call?.toList := by
      cases q with
      | tags => rfl
      | store r =>
        cases r with
        | get => rfl
        | create | replace | delete | updateStatus => exact List.reduceOption_singleton _
    rw [writes_ask, List.reduceOption_append, hcall, ← List.append_assoc, ← hone.1]
    exact ih _ hone.2

end
end Dialogue

namespace Writing
variable {α β σ : Type} {answer : (q : Query) → σ → q.Answer × σ} {s : σ} {k : Kind}
  {key : ObjectKey} {found wanted : Option k.Object}

theorem writes_bind_ok {x : Writing α} {f : α → Writing β} {s' : σ} {a : α}
    (h : x.run.run answer s = (.ok a, s')) :
    (x >>= f).run.writes answer s = x.run.writes answer s ++ (f a).run.writes answer s' :=
  Dialogue.writes_bind h

theorem writes_bind_error {x : Writing α} {f : α → Writing β} {s' : σ} {e : PassError}
    (h : x.run.run answer s = (.error e, s')) :
    (x >>= f).run.writes answer s = x.run.writes answer s :=
  (Dialogue.writes_bind h).trans (List.append_nil _)

/-- An object is applied by at most one call about it. -/
theorem writes_apply (hfound : ∀ o, found = some o → k.keyOf o = .ok key)
    (hwanted : ∀ o, wanted = some o → k.keyOf o = .ok key) : ∃ work : List StoreCall,
    (apply k found wanted).run.writes answer s = work.map some ∧
    (work.map StoreCall.id).Sublist [⟨k, key⟩] := by
  cases wanted with
  | some o =>
    have hkey := congrArg Except.toOption (hwanted o rfl)
    cases found with
    | some existing =>
      have hcall : (Request.replace k o).call? = some (.replace k key) :=
        congrArg (Option.map _) hkey
      exact ⟨[.replace k key], congrArg (fun call => [call]) hcall, .refl _⟩
    | none =>
      have hcall : (Request.create k o).call? = some (.create k key) := congrArg (Option.map _) hkey
      exact ⟨[.create k key], congrArg (fun call => [call]) hcall, .refl _⟩
  | none =>
    cases found with
    | none => exact ⟨[], rfl, List.nil_sublist _⟩
    | some existing =>
      refine ⟨[.delete k key], ?_, .refl _⟩
      change (delete k existing).run.writes answer s = _
      rw [run_delete (hfound existing rfl)]
      rfl

end Writing

namespace Collection
variable {σ : Type} {answer : (q : Query) → σ → q.Answer × σ} {s : σ} {c : Collection}
  {key : ObjectKey} {status : EnvironmentStatus}

theorem writes_applyAll (hkeyed : c.Keyed key) {ks : List Kind}
    (hks : ∀ k ∈ ks, Stage.deploy.Makes k) :
    ∃ work : List StoreCall, (c.applyAll ks).run.writes answer s = work.map some ∧
      (work.map StoreCall.id).Sublist (ks.map (⟨·, key⟩)) := by
  induction ks generalizing s with
  | nil => exact ⟨[], rfl, .refl _⟩
  | cons k ks ih =>
    obtain ⟨hfound, hwanted⟩ := hkeyed k (hks k List.mem_cons_self)
    obtain ⟨one, hone, hid⟩ : ∃ one : List StoreCall,
        (Writing.apply k (c.snapshot.found k) (c.wanted k)).run.writes answer s = one.map some ∧
          (one.map StoreCall.id).Sublist [⟨k, key⟩] := Writing.writes_apply hfound hwanted
    rcases ha : (Writing.apply k (c.snapshot.found k) (c.wanted k)).run.run answer s with
      ⟨e | u, s'⟩
    · refine ⟨one, (Writing.writes_bind_error ha).trans hone, ?_⟩
      exact hid.trans (List.singleton_sublist.mpr List.mem_cons_self)
    · obtain ⟨rest, hrest, hids⟩ := ih (s := s') fun k hk => hks k (List.mem_cons_of_mem _ hk)
      refine ⟨one ++ rest, ?_, ?_⟩
      · rw [List.map_append, ← hone, ← hrest]
        exact Writing.writes_bind_ok ha
      · rw [List.map_append]
        exact hid.append hids

theorem writes_buildImage {own : ObjectKey}
    (hfound : ∀ job, c.snapshot.job = some job → Kind.job.keyOf job = .ok own)
    (hwanted : Kind.job.keyOf c.target.job = .ok own) : ∃ work : List StoreCall,
    (c.buildImage status).writes answer s = work.map some ∧
    work.Sublist [.delete .job own, .create .job own] := by
  have hcreate (s : σ) : (c.createJob status).writes answer s = [some (.create .job own)] := by
    have hcall : (Request.create .job c.target.job).call? = some (.create .job own) :=
      congrArg (fun key => (Except.toOption key).map (StoreCall.create .job)) hwanted
    exact congrArg (fun call => [call]) hcall
  unfold buildImage
  split
  · exact ⟨[.create .job own], hcreate s, List.sublist_cons_self _ _⟩
  · rename_i job hjob
    split
    · exact ⟨[], rfl, List.nil_sublist _⟩
    · have hdelete : (deleteStaleJob job).writes answer s = [some (.delete .job own)] := by
        have hkey : ObjectKey.ofMeta job.metadata = .ok own := hfound job hjob
        unfold deleteStaleJob
        rw [hkey]
        dsimp only
        rw [Dialogue.writes_bind rfl]
        refine congrArg (_ :: ·) ?_
        split <;> rfl
      rcases hdeleted : (deleteStaleJob job).run answer s with ⟨e | u, s'⟩
      · refine ⟨[.delete .job own], ?_, .cons_cons _ (List.nil_sublist _)⟩
        rw [Dialogue.writes_bind hdeleted, hdelete]
        rfl
      · refine ⟨[.delete .job own, .create .job own], ?_, .refl _⟩
        rw [Dialogue.writes_bind hdeleted, hdelete]
        exact congrArg (_ :: ·) (hcreate s')

end Collection

def Stage.MayIssue (key : ObjectKey) : Stage → List StoreCall → Prop
  | .buildImage, work => work.Sublist [.delete .job (key.own .job), .create .job (key.own .job)]
  | .deploy, work =>
    (work.map StoreCall.id).Sublist [⟨.deployment, key⟩, ⟨.service, key⟩, ⟨.ingress, key⟩]
  | _, work => work = []

namespace Collection
variable {σ : Type} {answer : (q : Query) → σ → q.Answer × σ} {s : σ} {c : Collection}
  {key : ObjectKey} {status : EnvironmentStatus} {configNamespace : String} {defaults : Defaults}
    {store : MemoryStore}

theorem writes_step (h : Found configNamespace defaults key store (some c))
    (hkeys : store.WellKeyed) (stage : Stage) : ∃ work : List StoreCall,
    (c.step status stage).writes answer s = work.map some ∧ stage.MayIssue key work := by
  cases stage with
  | buildImage =>
    refine writes_buildImage (fun job hjob => ?_) ?_
    · exact hkeys.keyOf_stored ((h.1.stored_eq (k := .job) (.inl rfl)).trans hjob)
    · have hwanted : Kind.job.keyOf c.target.job = .ok (c.snapshot.key.own .job) :=
        keyOf_wanted h.2 rfl
      rw [hwanted, h.1.key_eq]
  | deploy =>
    obtain ⟨work, hwork, hids⟩ : ∃ work : List StoreCall,
        (c.applyAll workloadKinds).run.writes answer s = work.map some ∧
          (work.map StoreCall.id).Sublist (workloadKinds.map (⟨·, key⟩)) :=
      writes_applyAll (h.keyed hkeys) fun k => mem_workloadKinds.mp
    refine ⟨work, ?_, hids⟩
    change (c.deploy status).writes answer s = _
    unfold deploy
    rw [applyWorkload_eq, Dialogue.writes_bind rfl, hwork]
    exact List.append_nil _
  | buildImageVerify =>
    refine ⟨[], Dialogue.writes_eq_nil fun q hq => ?_, rfl⟩
    have hasks := (c.obeys_step_moves status .buildImageVerify).asked (I := fun _ => True) trivial
      (fun _ _ _ _ => ⟨trivial, trivial⟩) q hq
    cases hasks with
    | tags => rfl
    | create hk | replace hk | delete hk => cases hk
  | initial | buildImageWait | buildImageFailing | deployVerify | deployed | buildImageFailed
  | deploymentFailed | failed => exact ⟨[], rfl, rfl⟩

end Collection

namespace EnvironmentStatus
variable {status before : EnvironmentStatus}

/-- Two statuses differ in more than the time of the last change. -/
def Differs (status before : EnvironmentStatus) : Prop :=
  status.stage ≠ before.stage ∨ status.expectedRevision ≠ before.expectedRevision ∨
    status.deployedRevision ≠ before.deployedRevision

instance : Decidable (status.Differs before) := inferInstanceAs (Decidable (_ ∨ _ ∨ _))

theorem differs_iff (h : status.lastUpdated = before.lastUpdated) :
    status.Differs before ↔ status ≠ before := by
  obtain ⟨stage, expected, deployed, updated⟩ := status
  obtain ⟨stage', expected', deployed', updated'⟩ := before
  obtain rfl : updated = updated' := h
  simp only [Differs, ne_eq, EnvironmentStatus.mk.injEq, and_true]
  tauto

end EnvironmentStatus

namespace Pass
variable {answer : (q : Query) → World → q.Answer × World} {settings : Settings} {now : Instant}
  {key : ObjectKey} {m : PassMemory} {w w' w₁ : World} {c : Collection} {stage : Stage}
    {t : Transition} {r : Result}
  {stage? : Option Stage} {error? : Option StoreError} {before status : EnvironmentStatus}

/-- The status that a step has led to, or that of the failure if its stage has stalled. -/
def reached (key : ObjectKey) (m : PassMemory) (t : Transition) : EnvironmentStatus :=
  { t.status with stage := (m.stalls.escalate key.text t.next).1 }

def Stops (answer : (q : Query) → World → q.Answer × World) (settings : Settings) (now : Instant)
    (key : ObjectKey) (m : PassMemory) (w : World) : Prop :=
  (∃ e, ((Collection.collect settings.configNamespace settings.defaults key).run.run answer w).1 =
    .error e) ∨
  ((run settings now key m).run answer w).1.1 = .ok .gone ∨
  ∃ stage, ((run settings now key m).run answer w).1.1 = .ok (.idle stage)

/-- The footprint of a pass in which a stage has its turn: the calls that the pass issues, and what
comes of the status. The calls are the work of the stage, and after it the status if it has
changed. -/
structure Footprint (answer : (q : Query) → World → q.Answer × World) (settings : Settings)
    (now : Instant) (key : ObjectKey) (m : PassMemory) (w : World) (calls : List StoreCall)
    (e : Environment) (stage : Stage) (t : Transition) (work : List StoreCall) : Prop where
  environment : w.store.stored? .environment key = some e
  turn : e.statusOrInitial.turn e.spec.revision = some stage
  step : ∃ c w₀ w₁,
    (Collection.collect settings.configNamespace settings.defaults key).run.run answer w =
      (.ok (some c), w₀) ∧
    (c.step { e.statusOrInitial with stage } stage).run answer w₀ = (t, w₁) ∧
    (c.step { e.statusOrInitial with stage } stage).writes answer w₀ = work.map some
  may : stage.MayIssue key work
  calls : calls = work ++ if (reached key m t).Differs e.statusOrInitial then
      [.updateStatus key] else []
  kept : ¬ (reached key m t).Differs e.statusOrInitial →
    refusal answer settings now key m w = none ∧
    ((run settings now key m).run answer w).2.store.objects.get? ⟨.environment, key⟩ =
      w.store.objects.get? ⟨.environment, key⟩
  refused {error : StoreError} : refusal answer settings now key m w = some error →
    ((run settings now key m).run answer w).1.1 = .error (.store error) ∧
    ((run settings now key m).run answer w).2.store.objects.get? ⟨.environment, key⟩ =
      w.store.objects.get? ⟨.environment, key⟩
  stored :
    refusal answer settings now key m w = none → (reached key m t).Differs e.statusOrInitial →
    ((run settings now key m).run answer w).2.store.stored? .environment key =
      some { e with status := some { reached key m t with lastUpdated := some now } }
  result :
    refusal answer settings now key m w = none → ((run settings now key m).run answer w).1.1 =
    t.error.elim (.ok (.ofStage settings (reached key m t).stage)) .error

theorem writes_collect (h : World.Answers answer) :
    (Collection.collect settings.configNamespace settings.defaults key).run.writes answer w = [] :=
  Dialogue.writes_eq_nil fun _ hq => (h.asked_collect hq).not_isWrite

/-- Only a status that has changed is written. -/
theorem writes_finish : (finish settings now key before m t).writes answer w =
    if reached key m t = before then [] else [some (.updateStatus key)] := by
  have hexchanged : (finish settings now key before m t).exchanged answer w =
      (persist key before (reached key m t) now).exchanged answer w := finish_exchanged rfl
  have hasked := congrArg (List.map Sigma.fst) hexchanged
  rw [Dialogue.map_exchanged, Dialogue.map_exchanged] at hasked
  unfold Dialogue.writes
  rw [hasked]
  unfold persist
  split <;> rfl

theorem Course.stops (hcourse : Course answer settings now key m w r w' none error?) :
    (∃ e, ((Collection.collect settings.configNamespace settings.defaults key).run.run answer w).1 =
      .error e) ∨
      r.1 = .ok .gone ∨ ∃ stage, r.1 = .ok (.idle stage) := by
  cases hcourse with
  | failed hc => exact .inl ⟨_, congrArg Prod.fst hc⟩
  | gone => exact .inr (.inl rfl)
  | idle => exact .inr (.inr ⟨_, rfl⟩)

theorem Course.writes_of_stops (h : World.Answers answer)
    (hcourse : Course answer settings now key m w r w' none error?) :
    (run settings now key m).writes answer w = [] := by
  have hcollect : (Collection.collect settings.configNamespace settings.defaults key).run.writes
      answer w = [] :=
    writes_collect h
  cases hcourse with
  | failed hc | gone hc =>
    unfold run
    rw [Dialogue.writes_bind hc, hcollect]
    rfl
  | idle hc ht =>
    unfold run
    rw [Dialogue.writes_bind hc, hcollect]
    dsimp only
    rw [proceed_eq, ht]
    rfl

/-- A pass that takes a step ends with the status. -/
theorem Course.closes {led : Stage}
    (hcourse : Course answer settings now key m w r w' (some led) error?) :
    ∃ c stage t w₁, Dispatches answer settings key w c stage t w₁ ∧
      (persist key c.status (reached key m t) now).run answer w₁ =
        (error?.elim (.ok ()) .error, w') ∧
      r.1 = error?.elim (t.error.elim (.ok (.ofStage settings (reached key m t).stage)) .error)
        fun error => .error (.store error) := by
  cases hcourse with
  | refused hd he hp =>
    refine ⟨_, _, _, _, hd, ?_, rfl⟩
    rw [reached, he]
    exact hp
  | stored hd he hp =>
    refine ⟨_, _, _, _, hd, ?_, ?_⟩ <;> rw [reached, he]
    · exact hp
    · rfl

theorem Dispatches.writes (h : World.Answers answer)
    (hd : Dispatches answer settings key w c stage t w₁) (now : Instant) (m : PassMemory) : ∃ w₀,
    (Collection.collect settings.configNamespace settings.defaults key).run.run answer w =
      (.ok (some c), w₀) ∧
    (c.step { c.status with stage } stage).run answer w₀ = (t, w₁) ∧
    (run settings now key m).writes answer w =
      (c.step { c.status with stage } stage).writes answer w₀ ++
      if reached key m t = c.status then [] else [some (.updateStatus key)] := by
  obtain ⟨w₀, hc, hstep⟩ := hd.step
  refine ⟨w₀, hc, hstep, ?_⟩
  unfold run
  rw [Dialogue.writes_bind hc, writes_collect h]
  dsimp only
  rw [proceed_eq, hd.turn]
  dsimp only
  rw [Dialogue.writes_bind hstep, writes_finish]
  rfl

theorem persist_cases (h : World.Answers answer) {e : Environment}
    (he : w.store.stored? .environment key = some e)
    (hp : (persist key before status now).run answer w = (error?.elim (.ok ()) .error, w')) :
    status = before ∧ error? = none ∧ w' = w ∨
    status ≠ before ∧ error? ≠ none ∧ w'.store.objects = w.store.objects ∨
    status ≠ before ∧ error? = none ∧ w'.store.stored? .environment key =
      some { e with status := some { status with lastUpdated := some now } } := by
  cases error? with
  | some error =>
    refine .inr (.inl ⟨?_, nofun, objects_of_persist_error h hp⟩)
    rintro rfl
    rw [persist, if_pos rfl] at hp
    cases hp
  | none =>
    unfold persist at hp
    split at hp
    · cases hp
      exact .inl ⟨‹_›, rfl, rfl⟩
    · change answer (.store (.updateStatus key { status with lastUpdated := some now })) w =
        (.ok (), w') at hp
      rw [h.store] at hp
      obtain ⟨e', he', ho⟩ := World.updateStatus_ok hp
      cases he.symm.trans he'
      exact .inr (.inr ⟨‹_›, rfl, MemoryStore.stored?_of_insert (k := .environment) ho⟩)

theorem Dispatches.footprint (h : World.Answers answer) (hkeys : w.store.WellKeyed)
    (hd : Dispatches answer settings key w c stage t w₁)
    (hp : (persist key c.status (reached key m t) now).run answer w₁ =
      ((refusal answer settings now key m w).elim (.ok ()) .error,
        ((run settings now key m).run answer w).2))
    (hr : ((run settings now key m).run answer w).1.1 = (refusal answer settings now key m w).elim
      (t.error.elim (.ok (.ofStage settings (reached key m t).stage)) .error) fun error =>
        .error (.store error)) :
    ∃ calls e work, (run settings now key m).writes answer w = calls.map some ∧
      Footprint answer settings now key m w calls e stage t work := by
  obtain ⟨e, he, hstatus, hrevision, he₁⟩ := hd.exists_environment h
  obtain ⟨w₀, hc, hstep, hwrites⟩ := hd.writes h now m
  obtain ⟨work, hwork, hmay⟩ : ∃ work : List StoreCall,
      (c.step { c.status with stage } stage).writes answer w₀ = work.map some ∧
      stage.MayIssue key work :=
    Collection.writes_step (h.collected hc).1 hkeys stage
  have hdiffers : (reached key m t).Differs e.statusOrInitial ↔ reached key m t ≠ c.status := by
    rw [← hstatus]
    exact EnvironmentStatus.differs_iff (hd.moves h).lastUpdated
  have hclosing := persist_cases h he₁ hp
  have hturn := hd.turn
  rw [hrevision, hstatus] at hturn
  refine ⟨work ++ if (reached key m t).Differs e.statusOrInitial then
    [.updateStatus key] else [], e, work, ?_, he, hturn,
      ⟨c, w₀, w₁, hc, hstatus ▸ hstep, hstatus ▸ hwork⟩, hmay, rfl, ?_, ?_, ?_, ?_⟩
  · rw [hwrites, hwork, List.map_append]
    by_cases hsame : reached key m t = c.status
    · rw [if_pos hsame, if_neg (mt hdiffers.mp (not_not_intro hsame))]
      rfl
    · rw [if_neg hsame, if_pos (hdiffers.mpr hsame)]
      rfl
  · intro hsame
    rcases hclosing with ⟨_, hnone, hw⟩ | ⟨hne, _⟩ | ⟨hne, _⟩
    · exact ⟨hnone, by rw [hw, hd.get?_environment h]⟩
    · exact absurd (hdiffers.mpr hne) hsame
    · exact absurd (hdiffers.mpr hne) hsame
  · intro error herror
    rw [herror] at hr
    refine ⟨hr, ?_⟩
    rcases hclosing with ⟨_, hnone, _⟩ | ⟨_, _, hw⟩ | ⟨_, hnone, _⟩
    · cases herror.symm.trans hnone
    · rw [hw, hd.get?_environment h]
    · cases herror.symm.trans hnone
  · intro hnone hchanged
    rcases hclosing with ⟨hsame, _⟩ | ⟨_, hsome, _⟩ | ⟨_, _, hw⟩
    · exact absurd hsame (hdiffers.mp hchanged)
    · exact absurd hnone hsome
    · exact hw
  · intro hnone
    rw [hnone] at hr
    exact hr

theorem Dispatches.not_stops (hd : Dispatches answer settings key w c stage t w₁)
    (hr : ((run settings now key m).run answer w).1.1 = error?.elim
      (t.error.elim (.ok (.ofStage settings (reached key m t).stage)) .error) fun error =>
        .error (.store error)) :
    ¬ Stops answer settings now key m w := by
  have hends (o : Outcome) (ho : o = .gone ∨ ∃ stage, o = .idle stage) :
      ((run settings now key m).run answer w).1.1 ≠ .ok o := by
    rw [hr]
    cases error? with
    | some error => exact nofun
    | none =>
      cases t.error with
      | some e => exact nofun
      | none =>
        intro hsame
        rw [← Except.ok.inj hsame, Outcome.ofStage] at ho
        split at ho <;> rcases ho with ho | ⟨_, ho⟩ <;> cases ho
  obtain ⟨w₀, hc, _⟩ := hd.step
  rintro (⟨e, he⟩ | hgone | ⟨stage, hidle⟩)
  · rw [hc] at he
    cases he
  · exact hends _ (.inl rfl) hgone
  · exact hends _ (.inr ⟨stage, rfl⟩) hidle

/-- Whatever objects are stored under their own keys, whatever a registry answers, whatever fails
and whatever is remembered: a pass in which no stage has its turn issues no call that writes. Any
other leaves its footprint, which is the work of the stage and then the status, if this has changed.
No object changes that none of the calls is about, and a store that no failure keeps calls from
remembers these and no others. -/
theorem writes_footprint (settings : Settings) (now : Instant) (key : ObjectKey) (m : PassMemory)
    (tags : String → String → Except RegistryError (List String)) {w : World}
    (hkeys : w.store.WellKeyed) : let answer := World.answering tags
    let w' := ((run settings now key m).run answer w).2
    ∃ calls : List StoreCall, (run settings now key m).writes answer w = calls.map some ∧
      (Stops answer settings now key m w → calls = []) ∧
      (¬ Stops answer settings now key m w → ∃ e stage t work,
        Footprint answer settings now key m w calls e stage t work) ∧
      (∀ id ∉ calls.map StoreCall.id, w'.store.objects.get? id = w.store.objects.get? id) ∧
      (w.faults = [] → w'.store.calls = w.store.calls ++ calls) := by
  intro answer w'
  have h : World.Answers answer := World.answers_answering tags
  have hframe {calls : List StoreCall}
      (hcalls : (run settings now key m).writes answer w = calls.map some) :
      (∀ id ∉ calls.map StoreCall.id, w'.store.objects.get? id = w.store.objects.get? id) ∧
      (w.faults = [] → w'.store.calls = w.store.calls ++ calls) := by
    refine ⟨fun id hid => Dialogue.get?_run_of_calls h fun call hcall hsame => ?_, fun hw => ?_⟩
    · rw [hcalls, List.mem_map_of_injective fun _ _ => Option.some.inj] at hcall
      exact hid (List.mem_map.mpr ⟨call, hcall, hsame⟩)
    · have hlog := Dialogue.calls_run (d := run settings now key m) h hw
      have hall : (calls.map some).reduceOption = calls := by simp [List.reduceOption]
      rwa [hcalls, hall] at hlog
  have hcourse := course h settings now key m w
  cases hled : led answer settings key w with
  | none =>
    rw [hled] at hcourse
    have hnone : (run settings now key m).writes answer w = [] := hcourse.writes_of_stops h
    exact ⟨[], hnone, fun _ => rfl, fun hgoes => absurd hcourse.stops hgoes, hframe hnone⟩
  | some led =>
    rw [hled] at hcourse
    obtain ⟨c, stage, t, w₁, hd, hp, hr⟩ := hcourse.closes
    obtain ⟨calls, e, work, hcalls, hfootprint⟩ := hd.footprint h hkeys hp hr
    exact ⟨calls, hcalls, fun hstops => absurd hstops (hd.not_stops hr),
      fun _ => ⟨e, stage, t, work, hfootprint⟩, hframe hcalls⟩

end Pass

def Sample.unwritable : Moment := refuse (pass first)

set_option maxRecDepth 100000 in
/-- Where a build job is made and the status for it cannot be written, both calls have been
issued. -/
theorem Pass.writes_footprint_unwritable :
    Sample.unwritable.world.store.WellKeyed ∧ ∃ e stage t work,
    Footprint (World.answering fun _ _ => .error .unreachable)
      {} .epoch Sample.key Sample.unwritable.memory
      Sample.unwritable.world [.create .job ⟨"dev", "web-build"⟩, .updateStatus Sample.key] e stage
        t work := by
  have hkeys : Sample.unwritable.world.store.WellKeyed :=
    Dialogue.wellKeyed_inWorld (Pass.run {} .epoch Sample.key Sample.first.memory)
      Sample.wellKeyed_first
  obtain ⟨calls, hcalls, hstops, hfootprint, _⟩ := Pass.writes_footprint {} .epoch Sample.key
    Sample.unwritable.memory (fun _ _ => .error .unreachable) hkeys
  have hwrites : (Pass.run {} .epoch Sample.key Sample.unwritable.memory).writes
      (World.answering fun _ _ => .error .unreachable) Sample.unwritable.world =
      [some (.create .job ⟨"dev", "web-build"⟩), some (.updateStatus Sample.key)] := by
        decide +kernel
  have hboth : calls = [.create .job ⟨"dev", "web-build"⟩, .updateStatus Sample.key] :=
    (List.map_injective_iff (f := some)).mpr (fun _ _ => Option.some.inj)
      (hcalls.symm.trans hwrites)
  rw [hboth] at hstops hfootprint
  exact ⟨hkeys, hfootprint fun h => nomatch hstops h⟩

end EnvOperator
