import EnvOperator.Pipeline.Deploy
import EnvOperator.Progress.Stall
import EnvOperator.Progress.Tracker
import EnvOperator.Settings.Load

/-! # Passes

Every stage has its step; the stages at which the pipeline ends do nothing. A pass collects what
there is, decides which stage has its turn, takes that stage's step, and stores the status if it has
changed. What the operator keeps between passes is the tracker and the stalls; both can be lost
without harm.
-/
namespace EnvOperator

def Collection.step (c : Collection) (status : EnvironmentStatus) : Stage → Dialogue Transition
  | .initial => return c.begin status
  | .buildImage => c.buildImage status
  | .buildImageWait | .buildImageFailing => return c.waitForBuild status
  | .buildImageVerify => c.verifyImage status
  | .deploy => c.deploy status
  | .deployVerify => return c.verifyDeployment status
  | .deployed => return .move status .deployed
  | .buildImageFailed => return .move status .buildImageFailed
  | .deploymentFailed => return .move status .deploymentFailed
  | .failed => return .move status .failed

inductive Outcome
  /-- The environment no longer exists. -/
  | gone
  /-- Nothing had its turn: there is no revision, it already runs, or the pipeline has failed. -/
  | idle (stage : Stage)
  /-- This pass has finished the pipeline. -/
  | deployed
  /-- Another pass has to follow after a delay. -/
  | requeue (delay : Nat)
deriving DecidableEq

/-- What the operator remembers between passes. -/
structure PassMemory where
  tracker : Tracker := ∅
  stalls : StallTable

namespace PassMemory

def track (m : PassMemory) (key : ObjectKey) (stage : Stage) (now : Instant) : PassMemory :=
  { m with tracker := m.tracker.track key stage.description stage now }

def forget (m : PassMemory) (key : ObjectKey) : PassMemory :=
  ⟨m.tracker.forget key, m.stalls.clear key.text⟩

end PassMemory

/-- The failure that a stalled waiting stage comes to. -/
def Stage.escalated : Stage → Stage
  | .deployVerify => .deploymentFailed
  | _ => .buildImageFailed

/-- Count the pass; a stage that has stalled is given up and its count forgotten. -/
def StallTable.escalate (t : StallTable) (key : String) (next : Stage) : Stage × StallTable :=
  match t.record key next with
  | (true, t) => (next.escalated, t.clear key)
  | (false, t) => (next, t)

/-- Whose turn it is. A new revision starts the pipeline over. -/
def EnvironmentStatus.turn (status : EnvironmentStatus) (revision : Option String) : Option Stage :=
  match revision with
  | none => none
  | some revision =>
    if status.expectedRevision ≠ some revision then some .initial
    else if status.deployedRevision = some revision then none
    else if status.stage.isFailure then none
    else some status.stage

def Outcome.ofStage (settings : Settings) (stage : Stage) : Outcome :=
  if stage = .deployed then .deployed else .requeue settings.requeueDelay

namespace Pass

abbrev Result := Except PassError Outcome × PassMemory

/-- Store a status that has changed, with the time of the change. -/
def persist (key : ObjectKey) (before status : EnvironmentStatus) (now : Instant) :
    Dialogue (Except StoreError Unit) :=
  if status = before then return .ok ()
  else Dialogue.request (.updateStatus key { status with lastUpdated := some now })

/-- Finish a pass whose step has been taken. -/
def finish (settings : Settings) (now : Instant) (key : ObjectKey) (before : EnvironmentStatus)
    (m : PassMemory) (t : Transition) : Dialogue Result := do
  let (next, stalls) := m.stalls.escalate key.text t.next
  let m := { m with stalls }
  match ← persist key before { t.status with stage := next } now with
  | .error e => return (.error (.store e), m)
  | .ok () =>
    let m := m.track key next now
    match t.error with
    | some e => return (.error e, m)
    | none => return (.ok (.ofStage settings next), m)

/-- Go on with an environment that was found. -/
def proceed (settings : Settings) (now : Instant) (key : ObjectKey) (m : PassMemory)
    (c : Collection) : Dialogue Result := do
  let before := c.snapshot.environment.statusOrInitial
  let m := m.track key before.stage now
  match before.turn c.snapshot.revision with
  | none => return (.ok (.idle before.stage), m)
  | some stage => finish settings now key before m (← c.step { before with stage } stage)

def run (settings : Settings) (now : Instant) (key : ObjectKey) (m : PassMemory) :
    Dialogue Result := do
  match ← (Collection.collect settings.configNamespace settings.defaults key).run with
  | .error e => return (.error e, m)
  | .ok none => return (.ok .gone, m.forget key)
  | .ok (some c) => proceed settings now key m c

end Pass
end EnvOperator
