import EnvOperator.Snapshot.Collect

/-! # Building the image

A step of the pipeline comes to a transition: the stage to go on with, the error met on the way if
there was one, and the status as the step leaves it.

A build job of the right shape is left alone. Any other is deleted and made anew, followed until it
ends, and the image it leaves behind is looked up in the registry.
-/
namespace EnvOperator

structure Transition where
  next : Stage
  error : Option PassError := none
  status : EnvironmentStatus

namespace Transition

def move (status : EnvironmentStatus) (next : Stage) : Transition := { next, status }

def fail (status : EnvironmentStatus) (next : Stage) (e : PassError) : Transition :=
  { next, error := some e, status }

end Transition

namespace Collection

/-- Remember the revision this run of the pipeline is for. -/
def begin (c : Collection) (status : EnvironmentStatus) : Transition :=
  .move { status with expectedRevision := c.snapshot.revision } .buildImage

/-- Delete a stale build job; one that is already gone is no error. -/
def deleteStaleJob (job : Job) : Dialogue (Except StoreError Unit) :=
  match ObjectKey.ofMeta job.metadata with
  | .error e => return .error e
  | .ok key => do
    match ← Dialogue.request (.delete .job key) with
    | .ok () => return .ok ()
    | .error e => return if e.isNotFound then .ok () else .error e

/-- Where the pipeline goes after trying to create the job. A job of that name may still be
vanishing. -/
def afterCreate (status : EnvironmentStatus) : Except StoreError Job → Transition
  | .ok _ => .move status .buildImageWait
  | .error (.alreadyExists _) => .move status .buildImage
  | .error e => .fail status .buildImageFailed (.store e)

def createJob (c : Collection) (status : EnvironmentStatus) : Dialogue Transition := do
  return afterCreate status (← Dialogue.request (.create .job c.target.job))

def buildImage (c : Collection) (status : EnvironmentStatus) : Dialogue Transition :=
  match c.snapshot.job with
  | none => c.createJob status
  | some job =>
    if job.sameShape c.target.job then return .move status .deploy
    else do
      match ← deleteStaleJob job with
      | .error e => return .fail status .buildImage (.store e)
      | .ok () => c.createJob status

/-- Why the job has failed, if it has. -/
def failureReason (s : JobStatus) : Option String := do
  let condition ← (← s.conditions).find? fun c => c.type == "Failed" && c.status == "True"
  return (condition.message.or condition.reason).getD "unknown"

def followJob (status : EnvironmentStatus) (s : JobStatus) : Transition :=
  if 0 < s.active.getD 0 ∧ 0 < s.failed.getD 0 then .move status .buildImageFailing
  else if s.completionTime.isSome then .move status .buildImageVerify
  else
    match failureReason s with
    | some reason => .fail status .buildImageFailed (.buildFailed reason)
    | none => .move status .buildImageWait

def waitForBuild (c : Collection) (status : EnvironmentStatus) : Transition :=
  match c.snapshot.job with
  | none => .move status .buildImage
  | some job =>
    match job.status with
    | none => .move status .buildImageWait
    | some s => followJob status s

def verifyImage (c : Collection) (status : EnvironmentStatus) : Dialogue Transition := do
  let repository := c.snapshot.key.name
  let tag := c.snapshot.revisionText
  match ← Dialogue.hasTag (c.snapshot.config.spec.registry.url.getD "") repository tag with
  | .ok true => return .move status .deploy
  | .ok false => return .fail status .buildImageFailed (.imageMissing repository tag)
  | .error e => return .fail status .buildImageFailed (.registry e)

end Collection
end EnvOperator
