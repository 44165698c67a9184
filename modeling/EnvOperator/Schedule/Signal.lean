/-! # The shutdown signal

A signal holds a value that its sender may change until the sender is gone.
Whoever waits for a shutdown stops waiting once the value is true or nobody can
change it any more.
-/
namespace EnvOperator

inductive SignalEvent
  | send (value : Bool)
  | drop
deriving DecidableEq

structure Signal where
  value : Bool
  dropped : Bool := false
  /-- The wait has ended; it does not begin again. -/
  ended : Bool := false
deriving DecidableEq

namespace Signal

/-- Let the one who waits look at the signal. -/
def look (s : Signal) : Signal := { s with ended := s.ended || s.value || s.dropped }

def after (s : Signal) : SignalEvent → Signal
  | .send value => if s.dropped then s else { s with value }
  | .drop => { s with dropped := true }

/-- Whether the wait has ended, at first and after each event. -/
def watch (s : Signal) : List SignalEvent → List Bool
  | [] => [s.look.ended]
  | e :: rest => s.look.ended :: (s.look.after e).watch rest

end Signal
end EnvOperator
