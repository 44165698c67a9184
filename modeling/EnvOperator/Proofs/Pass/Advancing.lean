import EnvOperator.Proofs.Pass.Edges
import EnvOperator.Proofs.Pass.Questions
import EnvOperator.Proofs.Run.Basic

/-! # How statuses advance

A pass stores a status only to start the pipeline for the revision that is asked for or to go along
an edge of it, whatever the store and the registry answer and whatever fails.
-/
namespace EnvOperator

namespace Stage

def edges : Stage → List Stage
  | buildImage => [buildImageWait, deploy, buildImageFailed]
  | buildImageWait => [buildImage, buildImageFailing, buildImageVerify, buildImageFailed]
  | buildImageFailing => [buildImage, buildImageWait, buildImageVerify, buildImageFailed]
  | buildImageVerify => [deploy, buildImageFailed]
  | deploy => [deployVerify, deploymentFailed]
  | deployVerify => [deployed, deploymentFailed]
  | initial | deployed | buildImageFailed | deploymentFailed | failed => []

theorem mem_edges {stage led next : Stage} (hl : led ∈ stage.successors) (hb : led.Becomes next)
    (hi : stage ≠ initial) (hne : next ≠ stage) : next ∈ stage.edges := by
  rcases hb with rfl | ⟨hw, rfl⟩
  · cases stage <;> simp_all [successors, edges]
  · cases led <;> cases hw <;> cases stage <;> simp_all [successors, edges, escalated]

theorem edges_ne {stage next : Stage} (h : next ∈ stage.edges) :
    next ≠ initial ∧ next ≠ failed ∧ stage ≠ deployed ∧ stage.isFailure = false := by
  cases stage <;> cases next <;> simp_all [edges, isFailure]

theorem eq_of_deployed_mem_edges {stage : Stage} (h : deployed ∈ stage.edges) :
    stage = deployVerify := by
  cases stage <;> simp_all [edges]

end Stage

/-- How a status follows another one while a revision is asked for: the pipeline starts over, or it
goes along an edge, and at the end of it the revision counts as deployed. -/
inductive EnvironmentStatus.Advances (revision : String) (old new : EnvironmentStatus) : Prop
  | begins (h : old.expectedRevision ≠ some revision ∨ old.stage = .initial)
      (hs : new.stage = .buildImage)
      (he : new.expectedRevision = some revision) (hd : new.deployedRevision = old.deployedRevision)
  | follows (h : old.expectedRevision = some revision) (hi : old.stage ≠ .initial)
      (hs : new.stage ∈ old.stage.edges)
      (he : new.expectedRevision = old.expectedRevision)
      (hd : new.deployedRevision = if new.stage = .deployed then
        some revision else old.deployedRevision)

namespace EnvironmentStatus.Advances
variable {revision : String} {old new : EnvironmentStatus}

theorem expectedRevision (h : old.Advances revision new) :
    new.expectedRevision = some revision := by
  cases h with
  | begins _ _ he => exact he
  | follows h _ _ he => exact he.trans h

theorem deployedRevision (h : old.Advances revision new) :
    new.deployedRevision = old.deployedRevision ∨ new.deployedRevision = some revision := by
  cases h with
  | begins _ _ _ hd => exact .inl hd
  | follows _ _ _ _ hd =>
    split at hd
    · exact .inr hd
    · exact .inl hd

theorem stage_ne (h : old.Advances revision new) : new.stage ≠ .initial ∧ new.stage ≠ .failed := by
  cases h with
  | begins _ hs => simp [hs]
  | follows _ _ hs => exact ⟨(Stage.edges_ne hs).1, (Stage.edges_ne hs).2.1⟩

/-- The ends of the pipeline are left for another revision only. -/
theorem of_ended (h : old.Advances revision new)
    (hend : old.stage = .deployed ∨ old.stage.isFailure = true) :
    old.expectedRevision ≠ some revision := by
  cases h with
  | begins h =>
    rcases h with h | h
    · exact h
    · rcases hend with hend | hend <;> rw [h] at hend <;> cases hend
  | follows _ _ hs =>
    obtain ⟨_, _, hd, hf⟩ := Stage.edges_ne hs
    rcases hend with hend | hend
    · exact absurd hend hd
    · rw [hf] at hend
      cases hend

end EnvironmentStatus.Advances

/-- The status is one that a pass may leave of an environment that is stored and asks for a
revision: it has advanced from the one that is stored. -/
def World.MovesOn (now : Instant) (key : ObjectKey) (st : EnvironmentStatus) (w : World) : Prop :=
  ∃ e r, w.store.stored? .environment key = some e ∧ e.spec.revision = some r ∧
    st.lastUpdated = some now ∧ e.statusOrInitial.Advances r st ∧
    st.stage ≠ .initial ∧ st.stage ≠ .failed ∧
    (e.statusOrInitial.stage = .deployed ∨ e.statusOrInitial.stage.isFailure = true →
      e.statusOrInitial.expectedRevision ≠ some r)

theorem World.MovesOn.of_advances {now : Instant} {key : ObjectKey} {st : EnvironmentStatus}
    {w : World} {e : Environment} {r : String} (he : w.store.stored? .environment key = some e)
    (hr : e.spec.revision = some r) (hu : st.lastUpdated = some now)
    (h : e.statusOrInitial.Advances r st) : w.MovesOn now key st :=
  ⟨e, r, he, hr, hu, h, h.stage_ne.1, h.stage_ne.2, h.of_ended⟩

namespace Query

def status? : Query → Option EnvironmentStatus
  | .store (.updateStatus _ st) => some st
  | .store _ | .tags _ _ => none

theorem eq_of_status? {q : Query} {st : EnvironmentStatus} (h : q.status? = some st) :
    ∃ key, q = .store (.updateStatus key st) := by
  cases q with
  | tags => cases h
  | store r =>
    cases r with
    | updateStatus key => cases h; exact ⟨key, rfl⟩
    | get | create | replace | delete => cases h

end Query

namespace Collection
variable {c : Collection} {status : EnvironmentStatus} {stage : Stage} {t : Transition}

structure Moves (c : Collection) (status : EnvironmentStatus) (stage : Stage) (t : Transition) :
    Prop where
  next : t.next ∈ stage.successors
  expectedRevision : t.status.expectedRevision =
    if stage = .initial then c.snapshot.revision else status.expectedRevision
  deployedRevision : t.status.deployedRevision =
    if stage = .deployVerify ∧ t.next = .deployed then c.snapshot.revision
      else status.deployedRevision
  lastUpdated : t.status.lastUpdated = status.lastUpdated

theorem Leads.lastUpdated {registry : RegistryDouble} (h : c.Leads registry status stage t) :
    t.status.lastUpdated = status.lastUpdated := by
  cases h with
  | begin | skip | stuck | verified | unverified | rest => rfl
  | build => rw [afterCreate_status]
  | deploy => rw [afterApply_status]
  | wait => rw [waitForBuild_status]
  | verify => rcases verifyDeployment_cases c status with h | ⟨_, h⟩ <;> rw [h] <;> rfl

theorem Leads.moves {registry : RegistryDouble} (h : c.Leads registry status stage t) :
    c.Moves status stage t where
  next := h.next_mem
  expectedRevision := h.expectedRevision
  deployedRevision := by
    split
    · rename_i hend
      rcases h.enters_deployed hend.2 with ⟨hs, _⟩ | ⟨_, hd, _⟩
      · rw [hend.1] at hs
        cases hs
      · exact hd
    · rename_i hend
      rcases h.deployedRevision with hd | ⟨hs, hn, _⟩
      · exact hd
      · exact absurd ⟨hs, hn⟩ hend
  lastUpdated := h.lastUpdated

theorem obeys_verifyImage_moves :
    (c.verifyImage status).Obeys (fun _ _ => True) (c.Asks .buildImageVerify)
    (c.Moves status .buildImageVerify) := by
  unfold verifyImage
  refine Dialogue.Obeys.bind (Q := fun _ => True)
    (Dialogue.obeys_hasTag (.tags rfl) fun _ _ => trivial) fun r _ => ?_
  rcases r with e | _ | _ <;>
    exact Dialogue.obeys_pure
      ⟨by simp [Transition.move, Transition.fail, Stage.successors], rfl, rfl, rfl⟩

/-- Only the step that looks for the image depends on what a registry is like. -/
theorem obeys_step_moves (c : Collection) (status : EnvironmentStatus) (stage : Stage) :
    (c.step status stage).Obeys (fun _ _ => True) (c.Asks stage) (c.Moves status stage) := by
  by_cases hs : stage = .buildImageVerify
  · subst hs
    exact obeys_verifyImage_moves
  · have hany (q : Query) (hq : c.Asks stage q) (a : q.Answer) : RegistryDouble.Gives {} q a := by
      cases hq with
      | tags h => exact absurd h hs
      | create | replace | delete => trivial
    exact ((obeys_step {} c status stage).of_always hany).mono (fun _ _ => id) (fun _ => id)
      fun _ => Leads.moves

theorem Moves.follows {before : EnvironmentStatus} {r : String} {next : Stage} {now : Instant}
    (h : c.Moves before before.stage t) (hr : c.snapshot.revision = some r)
    (hexp : before.expectedRevision = some r) (hi : before.stage ≠ .initial)
    (hb : t.next.Becomes next) (hne : { t.status with stage := next } ≠ before) :
    before.Advances r { t.status with stage := next, lastUpdated := some now } := by
  have he := h.expectedRevision
  have hd := h.deployedRevision
  rw [if_neg hi] at he
  rw [hr] at hd
  have hdeployed : t.next = .deployed ↔ next = .deployed := by
    constructor
    · intro hn
      rw [hn] at hb
      exact hb.eq_of_not_waiting rfl
    · rintro rfl
      exact (hb.eq_of_not_failure rfl).symm
  have hmoved : next ≠ before.stage := by
    rintro rfl
    have hkept : t.status.deployedRevision = before.deployedRevision := by
      rw [hd, if_neg]
      rintro ⟨hs, hn⟩
      rw [hdeployed.mp hn] at hs
      cases hs
    apply hne
    dsimp only
    rw [he, hkept, h.lastUpdated]
  have hs := Stage.mem_edges h.next hb hi hmoved
  refine .follows hexp hi hs he ?_
  have hend : (before.stage = .deployVerify ∧ t.next = .deployed) ↔ next = .deployed := by
    rw [hdeployed, and_iff_right_iff_imp]
    rintro rfl
    exact Stage.eq_of_deployed_mem_edges hs
  simp only [hd, hend]

/-- A step whose status is to be stored has advanced it. -/
theorem Moves.advances {before : EnvironmentStatus} {r : String} {next : Stage} {now : Instant}
    (h : c.Moves { before with stage } stage t) (hr : c.snapshot.revision = some r)
    (hturn : before.turn (some r) = some stage) (hb : t.next.Becomes next)
    (hne : { t.status with stage := next } ≠ before) :
    before.Advances r { t.status with stage := next, lastUpdated := some now } := by
  obtain ⟨r', hr', hturn⟩ := EnvironmentStatus.turn_eq_some hturn
  cases hr'
  by_cases hi : stage = .initial
  · subst hi
    have hn : t.next = .buildImage := List.mem_singleton.mp h.next
    rw [hn] at hb
    refine .begins ?_ (hb.eq_of_not_waiting rfl) (h.expectedRevision.trans hr) h.deployedRevision
    rcases hturn with ⟨hexp, _⟩ | ⟨_, _, hs⟩
    · exact .inl hexp
    · exact .inr hs.symm
  · rcases hturn with ⟨_, hs⟩ | ⟨hexp, _, rfl⟩
    · exact absurd hs hi
    · exact h.follows hr hexp hi hb hne

end Collection

def World.answering (tags : String → String → Except RegistryError (List String)) :
    (q : Query) → World → q.Answer × World
  | .store r, w => w.request r
  | .tags url repository, w => (tags url repository, w)

theorem World.answers_answering (tags : String → String → Except RegistryError (List String)) :
    Answers (answering tags) := ⟨fun _ _ => rfl, fun _ _ _ => rfl⟩

theorem World.answering_snd (tags : String → String → Except RegistryError (List String))
    (q : Query) (w : World) :
    (answering tags q w).2 = (answer q w).2 := (answers_answering tags).snd q w

namespace Pass
variable {settings : Settings} {now : Instant} {key : ObjectKey} {w : World}
  {tags : String → String → Except RegistryError (List String)}

/-- What a pass asks for an environment that it has found: what the step does its work with, or to
store a status that has advanced. -/
inductive Advancing (now : Instant) (key : ObjectKey) (e : Environment) : Query → Prop
  | work {c : Collection} {stage : Stage} {q : Query} (h : c.Asks stage q) : Advancing now key e q
  | status {r : String} {st : EnvironmentStatus} (hr : e.spec.revision = some r)
      (hu : st.lastUpdated = some now)
      (h : e.statusOrInitial.Advances r st) : Advancing now key e (.store (.updateStatus key st))

theorem obeys_proceed {m : PassMemory} {c : Collection} {e : Environment}
    (hbefore : c.snapshot.environment.statusOrInitial = e.statusOrInitial)
    (hrevision : c.snapshot.revision = e.spec.revision) :
    (proceed settings now key m c).Obeys (fun _ _ => True) (Advancing now key e)
      (fun _ => True) := by
  unfold proceed
  rw [hbefore, hrevision]
  dsimp only
  split
  · trivial
  · rename_i stage hturn
    obtain ⟨r, hr, _⟩ := EnvironmentStatus.turn_eq_some hturn
    rw [hr] at hturn
    have hstep : (c.step { e.statusOrInitial with stage } stage).Obeys (fun _ _ => True)
        (Advancing now key e)
        (c.Moves { e.statusOrInitial with stage } stage) :=
      (c.obeys_step_moves _ stage).mono (fun _ _ => id) (fun _ => .work) fun _ => id
    refine hstep.bind fun t ht => obeys_finish fun next hb hne => ?_
    exact .status hr rfl (ht.advances (hrevision.trans hr) hturn hb hne)

/-- A pass collects, and then it ends or goes on for the environment that it has found. -/
theorem exists_rest (settings : Settings) (now : Instant) (key : ObjectKey) (m : PassMemory)
    (tags : String → String → Except RegistryError (List String)) (w : World) :
    ∃ (asked : List Query) (rest : Dialogue Result) (w₀ : World), (∀ q ∈ asked, key.Collects q) ∧
      w.Same w₀ ∧
      (run settings now key m).asked (World.answering tags) w =
        asked ++ rest.asked (World.answering tags) w₀ ∧
      (run settings now key m).run (World.answering tags) w = rest.run (World.answering tags) w₀ ∧
      ((∃ r, rest = pure r) ∨ ∃ e, w.store.stored? .environment key = some e ∧
        rest.Obeys (fun _ _ => True) (Advancing now key e) (fun _ => True)) := by
  have answers := World.answers_answering tags
  have hcollect := obeys_collect settings.configNamespace settings.defaults key w.store
  obtain ⟨hfound, hs⟩ := hcollect.run (World.Same.refl w) fun _ _ => answers.gives
  refine ⟨_, _, _, fun _ => answers.asked_collect, hs, Dialogue.asked_bind ..,
    Dialogue.run_bind_eq .., ?_⟩
  split
  · exact .inl ⟨_, rfl⟩
  · exact .inl ⟨_, rfl⟩
  · rename_i c hc
    rw [hc] at hfound
    obtain ⟨e, he, _, hbefore, hrevision⟩ := hfound.1.exists_environment
    exact .inr ⟨e, he, obeys_proceed hbefore hrevision⟩

theorem asked_status {m : PassMemory} {key' : ObjectKey} {st : EnvironmentStatus}
    (h : .store (.updateStatus key' st) ∈
      (run settings now key m).asked (World.answering tags) w) :
    key' = key ∧ w.MovesOn now key st := by
  obtain ⟨asked, rest, w₀, hcollects, _, hasked, _, hrest⟩ := exists_rest settings now key m tags w
  rw [hasked] at h
  rcases List.mem_append.mp h with h | h
  · cases hcollects _ h
  · rcases hrest with ⟨r, rfl⟩ | ⟨e, he, hobeys⟩
    · cases h
    · have hq := hobeys.asked (I := fun _ => True) trivial (fun _ _ _ _ => ⟨trivial, trivial⟩) _ h
      cases hq with
      | work h => cases h
      | status hr hu hadv => exact ⟨rfl, .of_advances he hr hu hadv⟩

/-- A question of a pass stores no other statuses than the one it asks to be stored. -/
theorem Advancing.status?_cases {e : Environment} {q : Query} (hq : Advancing now key e q)
    {key' : ObjectKey} {st : EnvironmentStatus}
    (hst : (World.answer q w).2.store.status? key' = some st) :
    w.store.status? key' = some st ∨ key' = key ∧ ∃ r, e.spec.revision = some r ∧
      st.lastUpdated = some now ∧
      e.statusOrInitial.Advances r st := by
  cases hq with
  | @work c stage q h =>
    have hframe := (Collection.changed_answer h w).frame stage.not_makes_environment key'
    exact .inl (by rwa [MemoryStore.status?, MemoryStore.stored?_congr hframe] at hst)
  | @status r new hr hu hadv =>
    have hnew : { new with lastUpdated := some now } = new := by rw [← hu]
    have hstores := World.stores_request key now {} new w
    rw [hnew] at hstores
    rcases hstores.status?_cases hst with hst | ⟨hkey, hst⟩
    · exact .inl hst
    · rw [hst, hnew]
      exact .inr ⟨hkey, r, hr, hu, hadv⟩

theorem stored_status {m : PassMemory} {key' : ObjectKey} {st : EnvironmentStatus}
    (h : ((run settings now key m).run (World.answering tags) w).2.store.status? key' = some st) :
    w.store.status? key' = some st ∨ key' = key ∧ w.MovesOn now key st := by
  obtain ⟨_, rest, w₀, _, hs, _, hrun, hrest⟩ := exists_rest settings now key m tags w
  rw [hrun] at h
  rcases hrest with ⟨r, rfl⟩ | ⟨e, he, hobeys⟩
  · exact .inl (by rwa [← hs.1])
  · let Kept (v : World) : Prop := ∀ key' st, v.store.status? key' = some st →
      w.store.status? key' = some st ∨ key' = key ∧ w.MovesOn now key st
    have hstep (q : Query) (v : World) (hq : Advancing now key e q) (hv : Kept v) :
        True ∧ Kept (World.answering tags q v).2 := by
      refine ⟨trivial, fun key' st hst => ?_⟩
      rw [World.answering_snd] at hst
      rcases hq.status?_cases hst with hst | ⟨hkey, r, hr, hu, hadv⟩
      · exact hv key' st hst
      · exact .inr ⟨hkey, .of_advances he hr hu hadv⟩
    have hfirst : Kept w₀ := fun key' st hst => .inl (by rwa [← hs.1])
    exact (hobeys.run hfirst hstep).2 key' st h

/-- Whatever is stored, whatever a registry answers, whatever fails and whatever is remembered: a
status that a pass asks to be stored is the environment's own and has advanced, and so has one that
is stored after the pass and was not before. It is then neither at the first stage nor at the last
failure, and the ends of the pipeline have been left for another revision only. -/
theorem status_advances (settings : Settings) (now : Instant) (key : ObjectKey) (m : PassMemory)
    (tags : String → String → Except RegistryError (List String)) (w : World) (key' : ObjectKey)
    (st : EnvironmentStatus) :
    (.store (.updateStatus key' st) ∈ (run settings now key m).asked (World.answering tags) w →
      key' = key ∧ w.MovesOn now key st) ∧
    (((run settings now key m).run (World.answering tags) w).2.store.status? key' = some st →
      w.store.status? key' = some st ∨ key' = key ∧ w.MovesOn now key st) :=
  ⟨asked_status, stored_status⟩

set_option maxRecDepth 100000 in
/-- A build job is made while the registry cannot be reached. Where the status is refused then, it
is still one that has advanced. -/
theorem status_advances_building :
    (∃ st, .store (.updateStatus Sample.key st) ∈
        (run {} .epoch Sample.key (Sample.pass Sample.first).memory).asked
          (World.answering fun _ _ => .error .unreachable)
          (Sample.refuse (Sample.pass Sample.first)).world ∧
      st.stage = .buildImageWait ∧
      (Sample.refuse (Sample.pass Sample.first)).world.MovesOn .epoch Sample.key st) ∧
    ∃ st,
      ((run {} .epoch Sample.key (Sample.pass Sample.first).memory).run
        (World.answering fun _ _ => .error .unreachable)
          (Sample.pass Sample.first).world).2.store.status? Sample.key = some st ∧
      st.stage = .buildImageWait ∧
      (Sample.pass Sample.first).world.MovesOn .epoch Sample.key st := by
  have hasked : (((run {} .epoch Sample.key (Sample.pass Sample.first).memory).asked
      (World.answering fun _ _ => .error .unreachable)
      (Sample.refuse (Sample.pass Sample.first)).world).findSome? Query.status?).map (·.stage) =
        some .buildImageWait := by
    decide +kernel
  have hstored : (((run {} .epoch Sample.key (Sample.pass Sample.first).memory).run
      (World.answering fun _ _ => .error .unreachable)
      (Sample.pass Sample.first).world).2.store.status? Sample.key).map (·.stage) =
        some .buildImageWait := by
    decide +kernel
  have hbefore : ((Sample.pass Sample.first).world.store.status? Sample.key).map (·.stage) =
      some .buildImage := by
    decide +kernel
  constructor
  · obtain ⟨st, hfirst, hstage⟩ := Option.map_eq_some_iff.mp hasked
    obtain ⟨q, hq, hst⟩ := List.exists_of_findSome?_eq_some hfirst
    obtain ⟨key', rfl⟩ := Query.eq_of_status? hst
    obtain ⟨rfl, hmoves⟩ := (status_advances {} .epoch Sample.key _ _ _ key' st).1 hq
    exact ⟨st, hq, hstage, hmoves⟩
  · obtain ⟨st, hst, hwait⟩ := Option.map_eq_some_iff.mp hstored
    rcases (status_advances {} .epoch Sample.key _ _ _ Sample.key st).2 hst with hold | ⟨_, hmoves⟩
    · rw [hold, Option.map_some, hwait] at hbefore
      cases hbefore
    · exact ⟨st, hst, hwait, hmoves⟩

end Pass
end EnvOperator
