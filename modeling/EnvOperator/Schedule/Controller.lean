import EnvOperator.Pipeline.Pass
import EnvOperator.Pipeline.World

/-! # The controller

Once time passes, the controller lists the environments and starts a pass for each
of them, and another one a while after a pass that asks for it or has failed. The
clock counts milliseconds, passes take no time, and a delay lasts at least one tick.

A shutdown stops a controller that has its list. One that has not, because no time
has passed or the list cannot be read, goes on waiting for it and never stops.
-/
namespace EnvOperator

inductive Action
  | awaitChange
  | requeue (delay : Nat)
deriving DecidableEq

def Outcome.action : Outcome → Action
  | .requeue delay => .requeue delay
  | .gone | .idle _ | .deployed => .awaitChange

namespace Pass

/-- A pass for an object as it was listed, whose metadata may lack a key. -/
def ofListed (settings : Settings) (now : Instant) (listed : ObjectMeta) (m : PassMemory) :
    Dialogue Result :=
  match ObjectKey.ofMeta listed with
  | .error e => return (.error (.store e), m)
  | .ok key => run settings now key m

def action (settings : Settings) : Except PassError Outcome → Action
  | .ok outcome => outcome.action
  | .error _ => .requeue settings.errorBackoff

end Pass

/-- A pass that is due at a time. -/
structure Due where
  time : Nat
  listed : ObjectMeta

/-- How far a controller has come. -/
inductive Phase
  /-- It has not asked for the list yet. -/
  | fresh
  /-- It waits for a list that does not come. -/
  | waiting
  | running
  | stopped
deriving DecidableEq

structure Controller where
  /-- The metadata of the environments, if their list can be read. -/
  listing : Option (List ObjectMeta)
  phase : Phase := .fresh
  clock : Nat := 0
  queue : List Due := []
  memory : PassMemory
  world : World

namespace Controller

/-- Objects of the same name in the same namespace are one. -/
def distinct : List ObjectMeta → List ObjectMeta
  | [] => []
  | m :: rest => m :: (distinct rest).filter fun n => !(n.ns == m.ns && n.name == m.name)

def start (settings : Settings) (listing : Option (List ObjectMeta)) (world : World) :
    Controller where
  listing
  memory := { stalls := { ceiling := settings.maxWaitPasses } }
  world

/-- Ask for the list, once. -/
def takeList (c : Controller) : Controller :=
  match c.phase, c.listing with
  | .fresh, some listed =>
    { c with phase := .running, queue := (distinct listed).map fun m => ⟨c.clock, m⟩ }
  | .fresh, none => { c with phase := .waiting }
  | _, _ => c

/-- The earliest pass due by a time, of several the first, and what else is due. -/
def earliest (deadline : Nat) : List Due → Option (Due × List Due)
  | [] => none
  | d :: rest =>
    match earliest deadline rest with
    | some (e, left) => if e.time < d.time then some (e, d :: left) else some (d, rest)
    | none => if d.time ≤ deadline then some (d, rest) else none

def runPass (settings : Settings) (now : Instant) (c : Controller) (d : Due) (queue : List Due) :
    Controller :=
  let ((result, memory), world) := (Pass.ofListed settings now d.listed c.memory).inWorld c.world
  let queue :=
    match Pass.action settings result with
    | .requeue delay => queue ++ [⟨d.time + max 1 delay, d.listed⟩]
    | .awaitChange => queue
  { c with queue, memory, world }

/-- Start the passes that are due by a time, at most so many. -/
def runDue (settings : Settings) (now : Instant) (deadline : Nat) : Nat → Controller → Controller
  | 0, c => c
  | fuel + 1, c =>
    match earliest deadline c.queue with
    | none => c
    | some (d, queue) => runDue settings now deadline fuel (runPass settings now c d queue)

/-- Let time pass. No object has more than one pass in a tick. -/
def sleep (settings : Settings) (now : Instant) (span : Nat) (c : Controller) : Controller :=
  let c := if span = 0 then c else c.takeList
  let c := runDue settings now (c.clock + span) ((span + 1) * c.queue.length) c
  { c with clock := c.clock + span }

def shutDown (c : Controller) : Controller :=
  match c.phase with
  | .fresh | .waiting => { c with phase := .waiting }
  | .running | .stopped => { c with phase := .stopped, queue := [] }

def hasStopped (c : Controller) : Bool := c.phase == .stopped

end Controller
end EnvOperator
