import EnvOperator.Proofs.Pass.Building
import EnvOperator.Proofs.Target.Shape

/-! # Runs that build once

A build job that has been made is found by later passes, whatever has become of the status that
should have followed it. As long as nothing that decides its shape changes, and nobody else makes or
removes it, it is of the right shape then, and no pass touches it again.
-/
namespace EnvOperator

def BuildInputs.BuiltIn (I : BuildInputs) (defaults : Defaults) (key : ObjectKey)
    (s : MemoryStore) : Prop :=
  (s.stored? .job (key.own .job)).map Job.shape = some (I.job defaults key).shape

/-- Others keep what is stored of the inputs of an environment's build, and neither make nor remove
its job, nor do they change its shape. -/
structure World.KeepsBuild (settings : Settings) (key : ObjectKey) (I : BuildInputs)
    (w w' : World) : Prop where
  inputs :
    I.ShownBy settings.configNamespace key w.store → I.ShownBy settings.configNamespace key w'.store
  shape : (w'.store.stored? .job (key.own .job)).map Job.shape =
      (w.store.stored? .job (key.own .job)).map Job.shape

/-- Others update statuses of jobs, change deployments, change what the registry answers, and have
calls fail. -/
inductive World.Bystands (w : World) : World → Prop
  | job (key : ObjectKey) (status : Option JobStatus) :
      Bystands w (w.modify .job key fun j => { j with status })
  | deployment (key : ObjectKey) (f : Deployment → Deployment) :
      Bystands w (w.modify .deployment key f)
  | registry (registry : RegistryDouble) : Bystands w { w with registry }
  | faults (faults : List Fault) : Bystands w { w with faults }

namespace World
variable {key key' : ObjectKey} {I : BuildInputs} {w w' : World}

theorem shownBy_modify {k : Kind} {f : k.Object → k.Object} {configNamespace : String}
    (hk : k.IsMade) (h : I.ShownBy configNamespace key w.store) :
    I.ShownBy configNamespace key (w.modify k key' f).store := by
  refine h.of_frame (fun k' hk' _ key'' => ?_) fun e' he' => ⟨e', ?_, rfl, rfl⟩
  · have hne : k' ≠ k := by
      rintro rfl
      exact hk' hk
    exact get?_modify_of_ne (ObjectId.ne_of_kind hne key'' key') w
  · have hne : Kind.environment ≠ k := by
      rintro rfl
      rcases hk with hk | hk | hk | hk <;> cases hk
    rwa [stored?_modify_of_ne (ObjectId.ne_of_kind hne key key')] at he'

theorem shape_modify_job (status : Option JobStatus) :
    ((w.modify .job key' fun j => { j with status }).store.stored? .job key).map Job.shape =
      (w.store.stored? .job key).map Job.shape := by
  by_cases hid : (⟨.job, key⟩ : ObjectId) = ⟨.job, key'⟩
  · cases hid
    rw [stored?_modify, Option.map_map]
    rfl
  · rw [stored?_modify_of_ne hid]

theorem Bystands.keepsBuild (h : w.Bystands w') (settings : Settings) (key : ObjectKey)
    (I : BuildInputs) : w.KeepsBuild settings key I w' := by
  cases h with
  | job => exact ⟨shownBy_modify (.inl rfl), shape_modify_job _⟩
  | deployment key' =>
    refine ⟨shownBy_modify (.inr (.inl rfl)), ?_⟩
    rw [stored?_modify_of_ne (ObjectId.ne_of_kind (by decide) _ key')]
  | registry | faults => exact ⟨id, rfl⟩

end World

def Visit.SparesJob (settings : Settings) (key : ObjectKey) (v : Visit) : Prop :=
  v.key ≠ key → ∀ x ∈ v.exchanged settings, x.1.job? ≠ some (key.own .job)

/-- What the passes of a run have exchanged, in the order in which they have. -/
def exchanges (settings : Settings) : List Visit → List ((q : Query) × q.Answer)
  | [] => []
  | v :: past => exchanges settings past ++ v.exchanged settings

namespace Pass
variable {settings : Settings} {now : Instant} {key key' : ObjectKey} {m : PassMemory}
  {w w' : World} {I : BuildInputs} {x : (q : Query) × q.Answer} {r : Except PassError Outcome}

theorem Comes.shownBy (h : Comes settings now key w w' r)
    (hI : I.ShownBy settings.configNamespace key' w.store) :
    I.ShownBy settings.configNamespace key' w'.store :=
  hI.of_frame (fun _ hk henv => h.frame hk henv) fun _ he' => h.environment he'

/-- A pass asks nothing about jobs if its own is stored as it is wanted. -/
theorem job?_of_built (hI : I.ShownBy settings.configNamespace key w.store)
    (hbuilt : I.BuiltIn settings.defaults key w.store)
    (hx : x ∈ (run settings now key m).exchanged World.answer w) : x.1.job? = none := by
  apply Classical.not_not.mp
  intro hjob
  obtain ⟨e, c, hf, _, hunbuilt⟩ := unbuilt_of_exchanged hx hjob
  obtain ⟨job, hstored, hshape⟩ := Option.map_eq_some_iff.mp hbuilt
  have hfound : w.store.stored? .job (key.own .job) = c.snapshot.job :=
    hf.reflects.stored_eq (k := .job) (.inl rfl)
  have hother := hunbuilt job (hfound.symm.trans hstored)
  have hsame : job.shape = c.snapshot.target.job.shape :=
    hshape.trans (hI.shape_eq hf.reflects).symm
  rw [Job.sameShape, hsame, beq_self_eq_true] at hother
  cases hother

end Pass

/-- While the inputs of a build are kept, the job is stored as it is wanted once it has been
made. -/
structure Kept (settings : Settings) (key : ObjectKey) (I : BuildInputs) (past : List Visit)
    (w : World) : Prop where
  inputs : I.ShownBy settings.configNamespace key w.store
  built : (∃ x ∈ exchanges settings past, Query.made? x = some (key.own .job)) →
    I.BuiltIn settings.defaults key w.store
  madeLast : MadeLast (key.own .job) (exchanges settings past)

namespace Kept
variable {settings : Settings} {key : ObjectKey} {I : BuildInputs} {past : List Visit}
  {w w' : World}

/-- Once the job has been made, no pass asks about it. -/
theorem unasked {v : Visit} (h : Kept settings key I past v.before.world)
    (hspares : v.SparesJob settings key)
    (hmade : ∃ x ∈ exchanges settings past, Query.made? x = some (key.own .job)) :
    ∀ x ∈ v.exchanged settings, x.1.job? ≠ some (key.own .job) := by
  intro x hx
  by_cases hkey : v.key = key
  · subst hkey
    have hnone := Pass.job?_of_built h.inputs (h.built hmade) hx
    rw [hnone]
    exact nofun
  · exact hspares hkey x hx

theorem pass {v : Visit} (h : Kept settings key I past v.before.world)
    (hspares : v.SparesJob settings key) :
    Kept settings key I (v :: past) (v.after settings).world := by
  have hcomes := Moment.pass_comes settings v.now v.key v.before
  refine ⟨hcomes.shownBy h.inputs, ?_, ?_⟩
  · rintro ⟨x, hx, hmade⟩
    by_cases hbefore : ∃ x ∈ exchanges settings past, Query.made? x = some (key.own .job)
    · have hkept : (v.after settings).world.store.stored? .job (key.own .job) =
          v.before.world.store.stored? .job (key.own .job) :=
        Pass.stored?_job_of_unasked (h.unasked hspares hbefore)
      rw [BuildInputs.BuiltIn, hkept]
      exact h.built hbefore
    · rcases List.mem_append.mp hx with hx | hx
      · exact absurd ⟨x, hx, hmade⟩ hbefore
      · obtain ⟨y, hy, hkey, hstored⟩ := Pass.stored_of_made hx hmade
        obtain rfl := ObjectKey.own_injective hkey
        have hafter : (v.after settings).world.store.stored? .job (v.key.own .job) =
            some y.target.job := hstored
        rw [BuildInputs.BuiltIn, hafter]
        exact congrArg some (h.inputs.shape_eq hy)
  · refine .append h.madeLast ?_ (h.unasked hspares)
    exact Pass.madeLast settings v.now v.key v.before.memory v.before.world (key.own .job)

theorem others (h : Kept settings key I past w) (hw : w.KeepsBuild settings key I w') :
    Kept settings key I past w' := by
  refine ⟨hw.inputs h.inputs, fun hmade => ?_, h.madeLast⟩
  rw [BuildInputs.BuiltIn, hw.shape]
  exact h.built hmade

end Kept

section
variable {settings : Settings} {others : World → World → Prop} {first m : Moment}
  {past : List Visit}

theorem Run.kept {key : ObjectKey} {I : BuildInputs}
    (hI : I.ShownBy settings.configNamespace key first.world.store)
    (hothers : ∀ w w', others w w' → w.KeepsBuild settings key I w')
    (h : Run settings others first past m) (hspares : ∀ v ∈ past, v.SparesJob settings key) :
    Kept settings key I past m.world := by
  induction h with
  | first =>
    refine ⟨hI, ?_, .nil⟩
    rintro ⟨x, hx, _⟩
    cases hx
  | @pass past m now key' h ih =>
    have hbefore := ih fun v hv => hspares v (List.mem_cons_of_mem _ hv)
    exact hbefore.pass (v := ⟨now, key', m⟩) (hspares _ List.mem_cons_self)
  | others h hw ih => exact (ih hspares).others (hothers _ _ hw)
  | restart memory h ih => exact ih hspares

/-- In every run: where a pass asks for a job to be made or removed, it has found none of the shape
that is wanted, and after a job has been made it is stored in this shape. So, if others keep what an
environment's build is made from, and neither they nor passes of other environments make or remove
its job or change its shape, the job is made once at most, and after that no pass asks for it to be
made or removed. -/
theorem Run.built_once (h : Run settings others first past m) :
    (∀ v ∈ past, ∀ x ∈ v.exchanged settings,
      (x.1.job? ≠ none → ∃ y : Snapshot,
        y.Reflects settings.configNamespace settings.defaults v.key v.before.world.store ∧
        y.Unbuilt) ∧
      ∀ key, Query.made? x = some key → ∃ (y : Snapshot) (job : Job), key = v.key.own .job ∧
        y.Reflects settings.configNamespace settings.defaults v.key v.before.world.store ∧
        (v.after settings).world.store.stored? .job key = some job ∧ job.sameShape y.target.job =
          true) ∧
    ∀ (key : ObjectKey) (I : BuildInputs),
      I.ShownBy settings.configNamespace key first.world.store →
      (∀ w w', others w w' → w.KeepsBuild settings key I w') →
      (∀ v ∈ past, v.SparesJob settings key) →
      (exchanges settings past).countP (fun x => Query.made? x = some (key.own .job)) ≤ 1 ∧
      MadeLast (key.own .job) (exchanges settings past) := by
  refine ⟨fun v _ x hx => ⟨fun hjob => ?_, fun key hmade => ?_⟩, fun key I hI hothers hspares => ?_⟩
  · obtain ⟨e, c, hf, _, hunbuilt⟩ := Pass.unbuilt_of_exchanged hx hjob
    exact ⟨c.snapshot, hf.reflects, hunbuilt⟩
  · obtain ⟨y, hy, hkey, hstored⟩ := Pass.stored_of_made hx hmade
    exact ⟨y, y.target.job, hkey, hy, hstored, beq_self_eq_true y.target.job.shape⟩
  · have hlast := (h.kept hI hothers hspares).madeLast
    exact ⟨hlast.countP_le_one, hlast⟩

end

namespace Sample

def inputs : BuildInputs where
  revision := some "1"
  build := {}
  config := {}
  storageCredentials := Snapshot.anonymousCredentials "kiln-system"
  credentials := none

set_option maxRecDepth 100000 in
theorem shownBy_inputs : inputs.ShownBy "kiln-system" key first.world.store := by
  have henvironment : first.world.store.stored? .environment key = some environment := by
    decide +kernel
  have hconfig : first.world.store.stored? .environmentConfig
      ⟨"kiln-system", environment.configName⟩ =
      some config := by decide +kernel
  have hsecret : (first.world.store.read .secret
      (key.sibling (Naming.credentialsSecretName key.name))).toOption =
      some none := by decide +kernel
  constructor
  · intro e he
    cases henvironment.symm.trans he
    exact ⟨rfl, rfl⟩
  · intro e g he hg
    cases henvironment.symm.trans he
    cases hconfig.symm.trans hg
    rfl
  · intro e g secret he hg hcredentials
    cases henvironment.symm.trans he
    cases hconfig.symm.trans hg
    exact hcredentials
  · intro found hread
    cases (Except.ok_of_toOption hsecret).symm.trans hread
    rfl

def visits : List Visit :=
  [⟨.epoch, key, pass (refuse (pass first))⟩, ⟨.epoch, key, refuse (pass first)⟩,
    ⟨.epoch, key, first⟩]

theorem run_visits : Run {} World.Bystands first visits skipped :=
  .pass _ _ (.pass _ _ (.others (.pass _ _ .first) (.faults _)))

end Sample

set_option maxRecDepth 100000 in
/-- The status that should follow the making of the job cannot be written. The job is made once all
the same. -/
theorem Run.built_once_skipped :
    Sample.inputs.ShownBy "kiln-system" Sample.key Sample.first.world.store ∧
    (∀ w w', World.Bystands w w' → w.KeepsBuild {} Sample.key Sample.inputs w') ∧
    ∃ past, Run {} World.Bystands Sample.first past Sample.skipped ∧
      (∀ v ∈ past, v.SparesJob {} Sample.key) ∧
      (exchanges {} past).countP (fun x => Query.made? x = some (Sample.key.own .job)) = 1 ∧
      MadeLast (Sample.key.own .job) (exchanges {} past) := by
  have hothers (w w' : World) (h : World.Bystands w w') := h.keepsBuild {} Sample.key Sample.inputs
  have hspares : ∀ v ∈ Sample.visits, v.SparesJob {} Sample.key := by
    intro v hv hne
    simp only [Sample.visits, List.mem_cons, List.not_mem_nil, or_false] at hv
    rcases hv with rfl | rfl | rfl <;> exact absurd rfl hne
  obtain ⟨_, hlast⟩ :=
    (Run.built_once Sample.run_visits).2 Sample.key Sample.inputs Sample.shownBy_inputs hothers
    hspares
  have hcount : (exchanges {} Sample.visits).countP
      (fun x => Query.made? x = some (Sample.key.own .job)) = 1 := by
    decide +kernel
  exact ⟨Sample.shownBy_inputs, hothers, Sample.visits, Sample.run_visits, hspares, hcount, hlast⟩

end EnvOperator
