import EnvOperator.Pipeline.Build

/-! # Deploying the workload

The deployment, the service and the ingress are brought to their targets in this
order, and then the rollout is followed until every replica runs the revision.
-/
namespace EnvOperator

/-- Writing that ends with the first error. -/
abbrev Writing := ExceptT PassError Dialogue

namespace Writing

def request (r : Request) : Writing Unit :=
  ExceptT.mk do return ((← Dialogue.request r).map fun _ => ()).mapError .store

/-- Delete an object; one that is already gone is no error. -/
def delete (k : Kind) (object : k.Object) : Writing Unit :=
  match k.keyOf object with
  | .error e => throw (.store e)
  | .ok key => ExceptT.mk do
    match ← Dialogue.request (.delete k key) with
    | .ok () => return .ok ()
    | .error e => return if e.isNotFound then .ok () else .error (.store e)

/-- What comes of a deletion that was asked for. -/
def deleted : Except StoreError Unit → Except PassError Unit
  | .ok () => .ok ()
  | .error e => if e.isNotFound then .ok () else .error (.store e)

theorem run_delete {k : Kind} {object : k.Object} {key : ObjectKey} (h : k.keyOf object = .ok key) :
    (delete k object).run = Dialogue.request (.delete k key) >>= fun a => pure (deleted a) := by
  unfold delete
  rw [h]
  refine congrArg (Dialogue.request (.delete k key) >>= ·) (funext fun a => ?_)
  cases a <;> rfl

/-- Bring an object from what was found to what is wanted. -/
def apply (k : Kind) (found wanted : Option k.Object) : Writing Unit :=
  match wanted, found with
  | some object, some _ => request (.replace k object)
  | some object, none => request (.create k object)
  | none, some existing => delete k existing
  | none, none => return ()

end Writing

namespace Deployment

/-- The revision the deployment was last made for. -/
def revision (d : Deployment) : Option String :=
  d.metadata.annotations.bind (·.get? Naming.revisionAnnotation)

/-- The counts of the status belong to the present specification. One without a generation never
changed. -/
def rolloutObserved (d : Deployment) : Bool :=
  d.metadata.generation.all fun generation => generation ≤
    (d.status.bind (·.observedGeneration)).getD 0

def updatedReplicas (d : Deployment) : Int32 := (d.status.bind (·.updatedReplicas)).getD 0

def availableReplicas (d : Deployment) : Int32 := (d.status.bind (·.availableReplicas)).getD 0

/-- Every replica runs the revision and is available. -/
def runs (d : Deployment) (revision : Option String) (replicas : Int32) : Bool :=
  d.revision == revision && d.rolloutObserved &&
    decide (replicas ≤ d.updatedReplicas) && decide (replicas ≤ d.availableReplicas)

end Deployment

namespace Collection

def applyWorkload (c : Collection) : Writing Unit := do
  Writing.apply .deployment c.snapshot.deployment (some c.target.deployment)
  Writing.apply .service c.snapshot.service c.target.service
  Writing.apply .ingress c.snapshot.ingress c.target.ingress

/-- After a conflict the workload is applied again; any other error ends the pipeline. -/
def afterApply (status : EnvironmentStatus) : Except PassError Unit → Transition
  | .ok () => .move status .deployVerify
  | .error (.store (.conflict what)) => .fail status .deploy (.store (.conflict what))
  | .error e => .fail status .deploymentFailed e

def deploy (c : Collection) (status : EnvironmentStatus) : Dialogue Transition := do
  return afterApply status (← c.applyWorkload.run)

def verifyDeployment (c : Collection) (status : EnvironmentStatus) : Transition :=
  let revision := c.snapshot.revision
  if c.snapshot.deployment.any (·.runs revision c.snapshot.environment.spec.replicaCount) then
    .move { status with deployedRevision := revision } .deployed
  else .move status .deployVerify

end Collection
end EnvOperator
