import EnvOperator.Proofs.Target.Ownership

/-! # Settled targets

An object that has been brought to its target is its own target: what is found on it is what has
been put there. So a target stays the same while its objects are applied one by one.
-/
namespace EnvOperator

namespace ObjectMeta
variable {own : List String} {given found : StringMap}

theorem mergeEntries_merged (own : List String) (given found : StringMap) :
    mergeEntries own given (mergeEntries own given found) = mergeEntries own given found := by
  ext1 k
  rw [get?_mergeEntries, get?_mergeEntries]
  split
  · rfl
  · cases found.get? k <;> cases given.get? k <;> rfl

theorem mergeEntries_self (own : List String) (given : StringMap) :
    mergeEntries own given given = given := by
  ext1 k
  rw [get?_mergeEntries]
  split
  · rfl
  · cases given.get? k <;> rfl

theorem mergeMap_merged (own : List String) (given found : Option StringMap) :
    mergeMap own given (mergeMap own given found) = mergeMap own given found := by
  cases found with
  | some found => exact congrArg some (mergeEntries_merged own (given.getD ∅) found)
  | none =>
    cases given with
    | none => rfl
    | some given => exact congrArg some (mergeEntries_self own given)

theorem mergeMap_self (own : List String) (given : Option StringMap) :
    mergeMap own given given = given := by
  cases given with
  | none => rfl
  | some given => exact congrArg some (mergeEntries_self own given)

theorem mergeExisting_merged (m : ObjectMeta) (existing : Option ObjectMeta) :
    m.mergeExisting (some (m.mergeExisting existing)) = m.mergeExisting existing := by
  cases existing with
  | none => simp only [mergeExisting, mergeMap_self]
  | some found => simp only [mergeExisting, mergeMap_merged]

end ObjectMeta

theorem guard_of_pos {p : Prop} [Decidable p] (h : p) : (guard p : Option Unit) = some () :=
  if_pos h

theorem guard_of_neg {p : Prop} [Decidable p] (h : ¬ p) : (guard p : Option Unit) = none := if_neg h

namespace Snapshot

theorem targetDeployment_settled (x : Snapshot) :
    { x with deployment := some x.targetDeployment }.targetDeployment = x.targetDeployment :=
  congrArg (fun m => Deployment.mk m _ _) (ObjectMeta.mergeExisting_merged _ _)

theorem targetService_settled (x : Snapshot) :
    { x with service := x.targetService }.targetService = x.targetService := by
  unfold targetService
  by_cases henabled : x.environment.spec.serviceEnabled = true
  · dsimp only
    rw [guard_of_pos henabled]
    cases x.environment.spec.service with
    | none => rfl
    | some settings =>
      exact congrArg (fun m => some (Service.mk m _ _)) (ObjectMeta.mergeExisting_merged _ _)
  · dsimp only
    rw [guard_of_neg henabled]
    rfl

theorem targetIngress_settled (x : Snapshot) :
    { x with ingress := x.targetIngress }.targetIngress = x.targetIngress := by
  unfold targetIngress
  by_cases henabled : x.environment.spec.ingressEnabled = true
  · dsimp only
    rw [guard_of_pos henabled]
    cases x.environment.spec.ingress with
    | none => rfl
    | some settings =>
      exact congrArg (fun m => some (Ingress.mk m _ _)) (ObjectMeta.mergeExisting_merged _ _)
  · dsimp only
    rw [guard_of_neg henabled]
    rfl

/-- One snapshot follows another one if what is different in it of the workload has been brought to
its target. -/
structure Follows (x y : Snapshot) : Prop where
  key : y.key = x.key
  environment : y.environment = x.environment
  config : y.config = x.config
  found {k : Kind} :
    Stage.deploy.Makes k → y.found k = x.found k ∨ y.found k = (Collection.mk x x.target).wanted k

theorem Follows.refl (x : Snapshot) : x.Follows x := ⟨rfl, rfl, rfl, fun _ => .inl rfl⟩

/-- What is wanted of a workload depends on nothing else than what is asked for and what is found of
it. -/
theorem Follows.target_eq {x y : Snapshot} (h : x.Follows y) :
    y.targetDeployment = { x with deployment := y.deployment }.targetDeployment ∧
    y.targetService = { x with service := y.service }.targetService ∧
    y.targetIngress = { x with ingress := y.ingress }.targetIngress := by
  obtain ⟨hkey, henvironment, hconfig, _⟩ := h
  cases x
  cases y
  cases hkey
  cases henvironment
  cases hconfig
  exact ⟨rfl, rfl, rfl⟩

theorem Follows.wanted_eq {x y : Snapshot} (h : x.Follows y) {k : Kind}
    (hk : Stage.deploy.Makes k) :
    (Collection.mk y y.target).wanted k = (Collection.mk x x.target).wanted k := by
  obtain ⟨hdeployment, hservice, hingress⟩ := h.target_eq
  rcases hk with rfl | rfl | rfl
  · have hfound : y.deployment = x.deployment ∨ y.deployment = some x.targetDeployment :=
      h.found Stage.deploy_makes_deployment
    change some y.targetDeployment = some x.targetDeployment
    rw [hdeployment]
    rcases hfound with hfound | hfound <;> rw [hfound]
    rw [targetDeployment_settled]
  · have hfound : y.service = x.service ∨ y.service = x.targetService :=
      h.found Stage.deploy_makes_service
    change y.targetService = x.targetService
    rw [hservice]
    rcases hfound with hfound | hfound <;> rw [hfound]
    exact targetService_settled x
  · have hfound : y.ingress = x.ingress ∨ y.ingress = x.targetIngress :=
      h.found Stage.deploy_makes_ingress
    change y.targetIngress = x.targetIngress
    rw [hingress]
    rcases hfound with hfound | hfound <;> rw [hfound]
    exact targetIngress_settled x

end Snapshot
end EnvOperator
