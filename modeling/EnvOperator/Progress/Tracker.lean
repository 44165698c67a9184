import EnvOperator.Environment.Stage
import EnvOperator.Store.Key

/-! # The tracker

The latest stage of every environment, with the one before it, for those who
watch from outside. The first stage recorded counts as its own predecessor.
Where an environment stands between what is asked for and what runs can be told from its stage.
-/
namespace EnvOperator

inductive Convergence
  | converged
  | converging
  | diverged
deriving DecidableEq

namespace Convergence

def ofStage (s : Stage) : Convergence :=
  if s = .deployed then converged else if s.isFailure then diverged else converging

def name : Convergence → String
  | converged => "Converged"
  | converging => "Converging"
  | diverged => "Diverged"

end Convergence

structure Tracked where
  status : String
  stage : Stage
  lastStage : Stage
  updatedAt : Instant
deriving DecidableEq

namespace Tracked

def hasChanged (t : Tracked) : Bool := t.stage != t.lastStage

def convergence (t : Tracked) : Convergence := .ofStage t.stage

def isDeployed (t : Tracked) : Bool := t.convergence == .converged

def isConverging (t : Tracked) : Bool := t.convergence == .converging

def isFailed (t : Tracked) : Bool := t.convergence == .diverged

end Tracked

abbrev Tracker := SortedMap ObjectKey Tracked

namespace Tracker

/-- What a record of this stage makes of what was recorded before. -/
def next (before : Option Tracked) (status : String) (stage : Stage) (now : Instant) : Tracked :=
  { status, stage, lastStage := (before.map (·.stage)).getD stage, updatedAt := now }

/-- Record a stage, and say what is known from then on. -/
def record (t : Tracker) (key : ObjectKey) (status : String) (stage : Stage) (now : Instant) :
    Tracked × Tracker :=
  let entry := next (t.get? key) status stage now
  (entry, t.insert key entry)

def track (t : Tracker) (key : ObjectKey) (status : String) (stage : Stage) (now : Instant) :
    Tracker :=
  (t.record key status stage now).2

def forget (t : Tracker) (key : ObjectKey) : Tracker := t.erase key

def hasChanged (t : Tracker) (key : ObjectKey) : Bool := (t.get? key).any (·.hasChanged)

theorem get?_track (t : Tracker) (key other : ObjectKey) (status : String) (stage : Stage)
    (now : Instant) : (t.track key status stage now).get? other =
      if other = key then some (next (t.get? key) status stage now) else t.get? other :=
  SortedMap.get?_insert t key other _

theorem get?_forget (t : Tracker) (key other : ObjectKey) :
    (t.forget key).get? other = if other = key then none else t.get? other :=
  SortedMap.get?_erase t key other

end Tracker
end EnvOperator
