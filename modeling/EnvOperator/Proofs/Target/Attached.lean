import EnvOperator.Proofs.Pass.Applying
import EnvOperator.Proofs.Pass.Outcomes

/-! # What others have attached

The metadata of a workload's object lies on top of what was found of it: labels and annotations that
were found win over those of the environment, and only the revision is always the environment's own.
What the object is called, whose it is and which version of it was found are not a matter of layers.
-/
namespace EnvOperator

namespace ObjectMeta
variable {m : ObjectMeta} {own : List String} {given found : Option StringMap}

def labelAt? (m : ObjectMeta) (name : String) : Option String :=
  m.labels.bind fun labels => labels.get? name

def annotationAt? (m : ObjectMeta) (name : String) : Option String :=
  m.annotations.bind fun annotations => annotations.get? name

/-- A name of the object's own keeps the given value, and any other takes the value found, if there
is one. -/
theorem get?_mergeMap (own : List String) (given found : Option StringMap) (name : String) :
    ((mergeMap own given found).bind fun entries => entries.get? name) =
      if (own.contains name && (given.bind fun entries => entries.get? name).isSome) = true then
        given.bind fun entries => entries.get? name
      else (found.bind fun entries => entries.get? name).or
        (given.bind fun entries => entries.get? name) := by
  cases found with
  | none =>
    change (given.bind fun entries => entries.get? name) = _
    rw [Option.bind_none, Option.none_or, ite_self]
  | some entries =>
    have hgiven : (given.getD ∅).get? name = given.bind fun entries => entries.get? name := by
      cases given <;> rfl
    change (mergeEntries own (given.getD ∅) entries).get? name = _
    rw [get?_mergeEntries, SortedMap.contains, hgiven]
    rfl

theorem labelAt?_mergeExisting (m : ObjectMeta) (existing : Option ObjectMeta) (name : String) :
    (m.mergeExisting existing).labelAt? name =
      (existing.bind (·.labelAt? name)).or (m.labelAt? name) := by
  cases existing with
  | none => rfl
  | some found => exact (get?_mergeMap [] m.labels found.labels name).trans (if_neg (by simp))

theorem annotationAt?_mergeExisting (m : ObjectMeta) (existing : Option ObjectMeta)
    (name : String) : (m.mergeExisting existing).annotationAt? name =
      if name = Naming.revisionAnnotation ∧ (m.annotationAt? name).isSome = true then
        m.annotationAt? name
      else (existing.bind (·.annotationAt? name)).or (m.annotationAt? name) := by
  cases existing with
  | none => exact (ite_self (m.annotationAt? name)).symm
  | some found =>
    refine (get?_mergeMap [Naming.revisionAnnotation] m.annotations found.annotations name).trans ?_
    simp only [List.contains_cons, List.contains_nil, Bool.or_false, Bool.and_eq_true, beq_iff_eq]
    rfl

end ObjectMeta

def Kind.component : Kind → String
  | .job => "build"
  | .deployment => "workload"
  | .service | .ingress => "network"
  | .environment | .environmentConfig | .secret => ""

def Naming.ownLabel? (environment component name : String) : Option String :=
  if name = componentLabel then some component
  else if name = managedByLabel then some manager
  else if name = environmentLabel then some environment
  else none

/-- The metadata of an object of a workload, renewed by its environment from what was found of the
object. -/
structure Environment.Renews (e : Environment) (key : ObjectKey) (k : Kind)
    (found : Option ObjectMeta) (m : ObjectMeta) : Prop where
  name : m.name = some key.name
  ns : m.ns = some key.ns
  ownerReferences : m.ownerReferences = e.ownerReference.map fun owner => [owner]
  resourceVersion : m.resourceVersion = found.bind (·.resourceVersion)
  labels (name : String) :
    m.labelAt? name = (found.bind (·.labelAt? name)).or (Naming.ownLabel? key.name k.component name)
  annotations (name : String) : m.annotationAt? name =
    if name = Naming.revisionAnnotation then some (e.spec.revision.getD "")
      else found.bind (·.annotationAt? name)

namespace Snapshot
variable (x : Snapshot) (name component : String)

theorem labelAt?_ownedMeta (entry : String) :
    (x.ownedMeta name component).labelAt? entry = Naming.ownLabel? x.key.name component entry := by
  simp [ObjectMeta.labelAt?, ownedMeta, Naming.environmentLabels, SortedMap.ofList,
    Naming.ownLabel?]

theorem annotationAt?_ownedMeta (entry : String) :
    (x.ownedMeta name component).annotationAt? entry =
    if entry = Naming.revisionAnnotation then some x.revisionText else none := by
  simp [ObjectMeta.annotationAt?, ownedMeta, revisionAnnotations, SortedMap.ofList]

variable {x name component}

theorem renews_mergeExisting {e : Environment} {k : Kind} (hname : name = x.key.name)
    (howner : x.environment.ownerReference = e.ownerReference)
    (hrevision : x.revision = e.spec.revision) (existing : Option ObjectMeta) :
    e.Renews x.key k existing ((x.ownedMeta name k.component).mergeExisting existing) where
  name := by cases existing <;> exact congrArg some hname
  ns := by cases existing <;> rfl
  ownerReferences := by
    rw [← howner]
    cases existing <;> rfl
  resourceVersion := by cases existing <;> rfl
  labels entry := by rw [ObjectMeta.labelAt?_mergeExisting, labelAt?_ownedMeta]
  annotations entry := by
    rw [ObjectMeta.annotationAt?_mergeExisting, annotationAt?_ownedMeta, ← hrevision]
    by_cases h : entry = Naming.revisionAnnotation
    · rw [if_pos h, if_pos h, if_pos ⟨h, rfl⟩]
      rfl
    · rw [if_neg h, if_neg h, if_neg fun hboth => h hboth.1, Option.or_none]

end Snapshot

namespace Collection
variable {c : Collection} {k : Kind} {o : k.Object}

theorem metadata_workload (hc : c.target = c.snapshot.target) (hk : k ∈ workloadKinds)
    (h : c.wanted k = some o) :
    k.metadata o = (c.snapshot.ownedMeta c.snapshot.key.name k.component).mergeExisting
      ((c.snapshot.found k).map k.metadata) := by
  rw [wanted.eq_def, hc] at h
  rcases mem_workloadKinds.mp hk with rfl | rfl | rfl
  · cases h
    rfl
  · exact Snapshot.metadata_targetService h
  · exact Snapshot.metadata_targetIngress h

theorem renews_wanted {configNamespace : String} {defaults : Defaults} {key : ObjectKey}
    {s : MemoryStore} {e : Environment} (hx : c.snapshot.Reflects configNamespace defaults key s)
    (hc : c.target = c.snapshot.target) (he : s.stored? .environment key = some e)
    (hk : k ∈ workloadKinds) (h : c.wanted k = some o) :
    e.Renews key k ((s.stored? k key).map k.metadata) (k.metadata o) := by
  obtain ⟨e', he', henv, _, hrevision⟩ := hx.exists_environment
  cases he.symm.trans he'
  have hfound : s.stored? k key = c.snapshot.found k := by
    rw [← hx.stored_eq (mem_workloadKinds.mp hk).isMade, own_of_makes (mem_workloadKinds.mp hk)]
  have howner : c.snapshot.environment.ownerReference = e.ownerReference := by
    rw [henv]
    rfl
  rw [hfound, metadata_workload hc hk h, ← hx.key_eq]
  exact Snapshot.renews_mergeExisting rfl howner hrevision _

end Collection
end EnvOperator
