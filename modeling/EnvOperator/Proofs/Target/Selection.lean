import EnvOperator.Proofs.Run.Basic

/-! # What selectors select

Deployments and services find their pods by labels. The pods of an environment carry the
environment's name and nothing that tells those of the workload from those that build it, and the
selectors look for the name alone. They select the pods of every environment of the name, builders
included.
-/
namespace EnvOperator

namespace LabelSelector

def Within (selector labels : StringMap) : Prop :=
  ∀ entry ∈ selector.entries, labels.get? entry.1 = some entry.2

instance {selector labels : StringMap} : Decidable (Within selector labels) :=
  inferInstanceAs (Decidable (∀ entry ∈ selector.entries, _))

/-- An operator with its values holds of the value of a label. One that nobody knows holds of
none. -/
def holds (operator : String) (values : List String) (value : Option String) : Bool :=
  match operator with
  | "In" => value.any values.contains
  | "NotIn" => !value.any values.contains
  | "Exists" => value.isSome
  | "DoesNotExist" => value.isNone
  | _ => false

def meets (labels : StringMap) (requirement : Schema.labelSelectorRequirement.Val) : Bool :=
  let (name, operator, values, _) : String × String × Option (List String) × Unit := requirement
  holds operator (values.getD []) (labels.get? name)

def Selects (s : LabelSelector) (labels : StringMap) : Prop :=
  Within (s.matchLabels.getD ∅) labels ∧ ∀ requirement ∈ s.matchExpressions.getD [],
    meets labels requirement = true

instance {s : LabelSelector} {labels : StringMap} : Decidable (s.Selects labels) :=
  inferInstanceAs (Decidable (_ ∧ _))

end LabelSelector

def PodTemplate.podLabels (t : PodTemplate) : StringMap := (t.metadata.bind (·.labels)).getD ∅

def Deployment.Selects (d : Deployment) (labels : StringMap) : Prop :=
  ∃ spec ∈ d.spec, spec.selector.Selects labels

/-- Pods of some labels are endpoints of a service. Without a selector, or with an empty one, there
are none. -/
def Service.Selects (v : Service) (labels : StringMap) : Prop :=
  ∃ selector ∈ v.spec.bind (·.selector), selector.isEmpty = false ∧
    LabelSelector.Within selector labels

instance {d : Deployment} {labels : StringMap} : Decidable (d.Selects labels) :=
  inferInstanceAs (Decidable (∃ spec ∈ d.spec, _))

instance {v : Service} {labels : StringMap} : Decidable (v.Selects labels) :=
  inferInstanceAs (Decidable (∃ selector ∈ v.spec.bind (·.selector), _))

namespace Target

def workloadPods (t : Target) : StringMap := (t.deployment.spec.map (·.template.podLabels)).getD ∅

def builderPods (t : Target) : StringMap := (t.job.spec.map (·.template.podLabels)).getD ∅

end Target

theorem Naming.within_environmentLabels {environment environment' : String} :
    LabelSelector.Within (selectorLabels environment) (environmentLabels environment') ↔
      environment = environment' := by
  have hentries : (selectorLabels environment).entries = [(environmentLabel, environment)] := rfl
  have hlabel : (environmentLabels environment').get? environmentLabel = some environment' := by
    have hne : environmentLabel ≠ managedByLabel := by decide
    simp [environmentLabels, SortedMap.ofList, hne]
  rw [LabelSelector.Within, hentries, List.forall_mem_singleton, hlabel, Option.some.injEq]
  exact eq_comm

namespace Snapshot
variable {x : Snapshot} {labels : StringMap}

theorem selects_targetDeployment :
    x.targetDeployment.Selects labels ↔
    LabelSelector.Within (Naming.selectorLabels x.key.name) labels := by
  constructor
  · rintro ⟨spec, hspec, hwithin, _⟩
    cases hspec
    exact hwithin
  · intro hwithin
    exact ⟨_, rfl, hwithin, List.forall_mem_nil _⟩

theorem selects_targetService {v : Service} (h : x.targetService = some v) :
    v.Selects labels ↔ LabelSelector.Within (Naming.selectorLabels x.key.name) labels := by
  have hselector : v.spec.bind (·.selector) = some (Naming.selectorLabels x.key.name) := by
    obtain ⟨_, _, h⟩ := Option.bind_eq_some_iff.mp h
    obtain ⟨settings, _, h⟩ := Option.bind_eq_some_iff.mp h
    cases h
    rfl
  unfold Service.Selects
  rw [hselector]
  constructor
  · rintro ⟨selector, hselector, _, hwithin⟩
    cases hselector
    exact hwithin
  · intro hwithin
    exact ⟨_, rfl, rfl, hwithin⟩

/-- The selectors of an environment select the pods of another one, both those of its workload and
those that build it, if and only if it bears the same name. -/
theorem selects_pods_iff (x y : Snapshot) : ∀ pods ∈ [y.target.workloadPods, y.target.builderPods],
    (x.target.deployment.Selects pods ↔ x.key.name = y.key.name) ∧
    ∀ v ∈ x.target.service, (v.Selects pods ↔ x.key.name = y.key.name) := by
  intro pods hpods
  have hlabels : pods = Naming.environmentLabels y.key.name := by
    rcases List.mem_cons.mp hpods with hworkload | hpods
    · exact hworkload
    · exact List.mem_singleton.mp hpods
  rw [hlabels]
  constructor
  · exact selects_targetDeployment.trans Naming.within_environmentLabels
  · intro v hv
    exact (selects_targetService hv).trans Naming.within_environmentLabels

end Snapshot

def Sample.exposed : World := first.world.modify .environment key fun e =>
  { e with spec := { e.spec with service := some { enabled := true } } }

set_option maxRecDepth 100000 in
theorem Sample.collected_exposed :
    ∃ c w₀ v, (Collection.collect "kiln-system" {} key).run.inWorld exposed =
    (.ok (some c), w₀) ∧ c.target = c.snapshot.target ∧ c.target.service = some v ∧
    c.snapshot.key = key := by
  have hfound :
      (((Collection.collect "kiln-system" {} key).run.inWorld exposed).1.toOption.join.bind fun c =>
      c.target.service).isSome = true := by decide +kernel
  obtain ⟨v, hv⟩ := Option.isSome_iff_exists.mp hfound
  obtain ⟨c, hc, hv⟩ := Option.bind_eq_some_iff.mp hv
  have hcollect : (Collection.collect "kiln-system" {} key).run.inWorld exposed =
      (.ok (some c), _) :=
    Prod.ext (Except.ok_of_toOption (Option.join_eq_some_iff.mp hc)) rfl
  obtain ⟨⟨hx, htarget⟩, _⟩ := World.collect_effect hcollect
  exact ⟨c, _, v, hcollect, htarget, hv, hx.key_eq⟩

/-- The service of an environment selects the pods of its workload, and no builder of an environment
of another name. -/
theorem Snapshot.selects_pods_iff_exposed : ∃ c w₀ v,
    (Collection.collect "kiln-system" {} Sample.key).run.inWorld Sample.exposed =
      (.ok (some c), w₀) ∧
    c.target.service = some v ∧ v.Selects c.target.workloadPods ∧
    ¬ v.Selects { c.snapshot with key := ⟨"dev", "api"⟩ }.target.builderPods := by
  obtain ⟨c, w₀, v, hcollect, htarget, hv, hkey⟩ := Sample.collected_exposed
  have hservice : v ∈ c.snapshot.target.service := by rwa [htarget] at hv
  have hother : c.snapshot.key.name ≠ "api" := by
    rw [hkey]
    decide
  refine ⟨c, w₀, v, hcollect, hv, ?_, ?_⟩
  · rw [htarget]
    exact ((c.snapshot.selects_pods_iff c.snapshot _ List.mem_cons_self).2 v hservice).mpr rfl
  · have hbuilder := c.snapshot.selects_pods_iff { c.snapshot with key := ⟨"dev", "api"⟩ } _
      (List.mem_cons_of_mem _ List.mem_cons_self)
    exact mt (hbuilder.2 v hservice).mp hother

/-- Builders of an environment are endpoints of its service, and the deployment's selector selects
them. -/
theorem Collection.selectors_match_builder : ∃ c w₀ v,
    (Collection.collect "kiln-system" {} Sample.key).run.inWorld Sample.exposed =
      (.ok (some c), w₀) ∧
    c.target.service = some v ∧ v.Selects c.target.builderPods ∧
    c.target.deployment.Selects c.target.builderPods := by
  obtain ⟨c, w₀, v, hcollect, htarget, hv, _⟩ := Sample.collected_exposed
  have hwithin : LabelSelector.Within (Naming.selectorLabels c.snapshot.key.name)
      (Naming.environmentLabels c.snapshot.key.name) := Naming.within_environmentLabels.mpr rfl
  refine ⟨c, w₀, v, hcollect, hv, ?_, ?_⟩
  · rw [htarget] at hv ⊢
    exact (Snapshot.selects_targetService hv).mpr hwithin
  · rw [htarget]
    exact Snapshot.selects_targetDeployment.mpr hwithin

end EnvOperator
