import EnvOperator.Proofs.Pass.Quiet

/-! # Workloads that have been deployed

Where nothing fails, deploying brings the workload to its targets, whatever has been there before.
What is collected then has these objects for its targets, so that deploying again changes nothing.
-/
namespace EnvOperator

structure Target.IsStored (t : Target) (key : ObjectKey) (s : MemoryStore) : Prop where
  deployment : s.read .deployment key = .ok (some t.deployment)
  service : s.read .service key = .ok t.service
  ingress : s.read .ingress key = .ok t.ingress

namespace Snapshot
variable {x : Snapshot}

theorem isSome_targetService (x : Snapshot) :
    x.targetService.isSome = x.environment.spec.serviceEnabled := by
  unfold targetService
  cases henabled : x.environment.spec.serviceEnabled with
  | false => rw [guard_of_neg (by simp)]; rfl
  | true =>
    rw [guard_of_pos rfl]
    cases hsettings : x.environment.spec.service with
    | none => rw [EnvironmentSpec.serviceEnabled, hsettings] at henabled; cases henabled
    | some settings => rfl

theorem isSome_targetIngress (x : Snapshot) :
    x.targetIngress.isSome = x.environment.spec.ingressEnabled := by
  unfold targetIngress
  cases henabled : x.environment.spec.ingressEnabled with
  | false => rw [guard_of_neg (by simp)]; rfl
  | true =>
    have hingress := (Bool.and_eq_true_iff.mp henabled).2
    rw [guard_of_pos rfl]
    cases hsettings : x.environment.spec.ingress with
    | none => rw [hsettings] at hingress; cases hingress
    | some settings => rfl

end Snapshot

theorem EnvironmentSpec.serviceEnabled_applyDefaults (spec : EnvironmentSpec)
    (defaults : Defaults) : (spec.applyDefaults defaults).serviceEnabled = spec.serviceEnabled := by
  unfold serviceEnabled applyDefaults
  cases spec.service <;> rfl

theorem EnvironmentSpec.ingressEnabled_applyDefaults (spec : EnvironmentSpec)
    (defaults : Defaults) : (spec.applyDefaults defaults).ingressEnabled = spec.ingressEnabled := by
  unfold ingressEnabled
  rw [serviceEnabled_applyDefaults]
  unfold applyDefaults
  cases spec.ingress <;> rfl

namespace Collection
variable {settings : Settings} {key : ObjectKey} {w : World} {x : Snapshot}

structure Deployed (c : Collection) (settings : Settings) (key : ObjectKey) (w w' : World) :
    Prop where
  interrupted : w.Interrupted settings key w'
  working : w'.Working
  frame :
    ∀ id, (∀ k ∈ workloadKinds, id ≠ ⟨k, key⟩) → w'.store.objects.get? id = w.store.objects.get? id
  workload : ∀ k ∈ workloadKinds, w'.store.objects.get? ⟨k, key⟩ = (c.wanted k).map k.codec.encode

/-- Where nothing fails, a workload that has been collected is deployed. -/
theorem deploy_of_working (hw : w.Working) (hkeys : w.store.WellKeyed)
    (hx : x.Reflects settings.configNamespace settings.defaults key w.store) : ∃ w',
    (∀ status, ((Collection.mk x x.target).step status .deploy).inWorld w =
      (.move status .deployVerify, w')) ∧
    (Collection.mk x x.target).Deployed settings key w w' := by
  have hkeyed : (Collection.mk x x.target).Keyed key := Collection.Found.keyed ⟨hx, rfl⟩ hkeys
  have hwritable : (Collection.mk x x.target).Writable w.store :=
    fun k _ _ => by simp [hw.failingWrites]
  obtain ⟨w', happly⟩ := applyAll_of_writable hw.calm hx hkeyed hwritable
  obtain ⟨_, hpartly⟩ :=
    applyAll_applied hw.calm.contended hkeyed (fun k => mem_workloadKinds.mp) (by decide) happly
  obtain ⟨_, hstored⟩ := applyAll_ok hw.calm.contended hx hkeyed happly
  exact ⟨w', fun status => deploy_inWorld status happly,
    (World.Interrupted.refl hw.calm).applyAll hkeys hx happly,
    hw.subsides hpartly.subsides, hpartly.frame, hstored⟩

theorem Deployed.isStored {c : Collection} {w' : World} (h : c.Deployed settings key w w') :
    c.target.IsStored key w'.store where
  deployment := MemoryStore.read_of_get? (h.workload .deployment (by decide))
  service := MemoryStore.read_of_get? (h.workload .service (by decide))
  ingress := MemoryStore.read_of_get? (h.workload .ingress (by decide))

/-- What is found after the workload has been deployed has the same targets. -/
theorem Deployed.reflects {w' : World} (h : (Collection.mk x x.target).Deployed settings key w w')
    (hx : x.Reflects settings.configNamespace settings.defaults key w.store) :
    ∃ y, y.Reflects settings.configNamespace settings.defaults key w'.store ∧
      ∀ k ∈ workloadKinds, (Collection.mk y y.target).wanted k =
        (Collection.mk x x.target).wanted k := by
  obtain ⟨y, hy, hfollows⟩ := h.interrupted.reflects hx
  exact ⟨y, hy, fun k hk => hfollows.wanted_eq (mem_workloadKinds.mp hk)⟩

/-- Deploying what is already there as it is wanted changes nothing. -/
theorem Deployed.objects_eq {c c' : Collection} {w' w'' : World} (h : c.Deployed settings key w w')
    (h' : c'.Deployed settings key w' w'')
    (hwanted : ∀ k ∈ workloadKinds, c'.wanted k = c.wanted k) :
    w''.store.objects = w'.store.objects := by
  ext1 id
  by_cases hid : ∀ k ∈ workloadKinds, id ≠ ⟨k, key⟩
  · exact h'.frame id hid
  · obtain ⟨k, hk, rfl⟩ : ∃ k ∈ workloadKinds, id = ⟨k, key⟩ := by simpa using hid
    rw [h'.workload k hk, h.workload k hk, hwanted k hk]

/-- Whatever objects are stored under their own keys, if an environment can be collected and nothing
fails, it is deployed. Its workload then is what was wanted, with a service and an ingress exactly
if they are enabled, and every other object is as it was. Collected again, the environment has for
its targets what is stored, and deploying it again changes nothing. -/
theorem deploy_converges {c : Collection} {w₀ : World} (hkeys : w.store.WellKeyed) (hw : w.Working)
    (hcollect : (collect settings.configNamespace settings.defaults key).run.inWorld w =
      (.ok (some c), w₀)) :
    ∃ e w₁, w.store.stored? .environment key = some e ∧
      (∀ status, (c.step status .deploy).inWorld w₀ = (.move status .deployVerify, w₁)) ∧
      c.target.IsStored key w₁.store ∧
      w₁.store.objects.contains ⟨.service, key⟩ = e.spec.serviceEnabled ∧
      w₁.store.objects.contains ⟨.ingress, key⟩ =
        (e.spec.serviceEnabled && e.spec.ingress.any (·.enabled)) ∧
      (∀ id, (∀ k ∈ [.deployment, .service, .ingress], id ≠ ⟨k, key⟩) →
        w₁.store.objects.get? id = w.store.objects.get? id) ∧
      ∃ c' w₂, (collect settings.configNamespace settings.defaults key).run.inWorld w₁ =
        (.ok (some c'), w₁) ∧
        c'.target.IsStored key w₁.store ∧
        (∀ status, (c'.step status .deploy).inWorld w₁ = (.move status .deployVerify, w₂)) ∧
        w₂.store.objects = w₁.store.objects := by
  obtain ⟨⟨hx, htarget⟩, _⟩ := World.collect_effect hcollect
  have hsame := Dialogue.inWorld_of_quiet hw.calm (Pass.quiet_collect settings key w)
  rw [hcollect] at hsame
  obtain rfl : w₀ = w := hsame
  obtain ⟨x, target⟩ := c
  obtain rfl : target = x.target := htarget
  obtain ⟨e, he, henvironment⟩ := hx.environment
  obtain ⟨w₁, hstep, hdeployed⟩ := deploy_of_working hw hkeys hx
  have hkeys₁ : w₁.store.WellKeyed := by
    have hkept := Dialogue.wellKeyed_inWorld ((Collection.mk x x.target).step {} .deploy) hkeys
    rwa [hstep] at hkept
  obtain ⟨y, hy, hwanted⟩ := hdeployed.reflects hx
  obtain ⟨w₂, hstep₂, hdeployed₂⟩ := deploy_of_working hdeployed.working hkeys₁ hy
  have hobjects := hdeployed.objects_eq hdeployed₂ hwanted
  have hstored := hdeployed.isStored
  have hstored₂ : y.target.IsStored key w₁.store := by
    refine ⟨?_, ?_, ?_⟩
    · exact hstored.deployment.trans (congrArg Except.ok (hwanted .deployment (by decide)).symm)
    · exact hstored.service.trans (congrArg Except.ok (hwanted .service (by decide)).symm)
    · exact hstored.ingress.trans (congrArg Except.ok (hwanted .ingress (by decide)).symm)
  refine ⟨e, w₁, he, hstep, hstored, ?_, ?_, hdeployed.frame, _, w₂,
    collect_of_reflects hdeployed.working.calm.contended hy, hstored₂, hstep₂, hobjects⟩
  · rw [← MemoryStore.isSome_of_read hstored.service]
    refine x.isSome_targetService.trans ?_
    rw [henvironment]
    exact EnvironmentSpec.serviceEnabled_applyDefaults _ _
  · rw [← MemoryStore.isSome_of_read hstored.ingress]
    refine x.isSome_targetIngress.trans ?_
    rw [henvironment]
    exact EnvironmentSpec.ingressEnabled_applyDefaults _ _

end Collection

theorem Sample.wellKeyed_crowded : crowded.store.WellKeyed := by
  let job : Job := { metadata := { name := some "web-build", ns := some "dev" } }
  let service : Service := { metadata := { name := some "web", ns := some "dev" } }
  have hjob : MemoryStore.WellKeyed (make .job (key.own .job) job first.world).store :=
    wellKeyed_first.insert (k := .job) (o := job) rfl rfl
  exact hjob.insert (k := .service) (o := service) rfl rfl

set_option maxRecDepth 100000 in
/-- A service that nobody wants does not survive. -/
theorem Collection.deploy_converges_crowded :
    Sample.crowded.store.WellKeyed ∧ Sample.crowded.Working ∧ ∃ c w₀ w₁,
    (collect "kiln-system" {} Sample.key).run.inWorld Sample.crowded = (.ok (some c), w₀) ∧
    (c.step {} .deploy).inWorld w₀ = (.move {} .deployVerify, w₁) ∧
    Sample.crowded.store.objects.contains ⟨.service, Sample.key⟩ = true ∧
    w₁.store.objects.contains ⟨.service, Sample.key⟩ = false := by
  have hworking : Sample.crowded.Working := ⟨⟨rfl, rfl⟩, rfl⟩
  have hfound :
      ((collect "kiln-system" {} Sample.key).run.inWorld Sample.crowded).1.toOption.join.isSome =
        true := by
    decide +kernel
  have hpresent : Sample.crowded.store.stored? .environment Sample.key = some Sample.environment ∧
      Sample.crowded.store.objects.contains ⟨.service, Sample.key⟩ = true := by decide +kernel
  obtain ⟨c, hc⟩ := Option.isSome_iff_exists.mp hfound
  have hcollect :
      (collect ({} : Settings).configNamespace ({} : Settings).defaults Sample.key).run.inWorld
      Sample.crowded = (.ok (some c), _) :=
    Prod.ext (Except.ok_of_toOption (Option.join_eq_some_iff.mp hc)) rfl
  obtain ⟨e, w₁, he, hstep, _, hservice, _⟩ :=
    Collection.deploy_converges Sample.wellKeyed_crowded hworking hcollect
  cases hpresent.1.symm.trans he
  exact ⟨Sample.wellKeyed_crowded, hworking, c, _, w₁, hcollect, hstep {}, hpresent.2, hservice⟩

end EnvOperator
