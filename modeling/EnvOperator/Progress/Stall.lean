import EnvOperator.Data.SortedMap
import EnvOperator.Environment.Stage

/-! # Stalls

How many passes in a row have left a resource in the same waiting stage. Beyond a
ceiling the resource has stalled; without a ceiling nothing ever does.
-/
namespace EnvOperator

structure StallTable where
  ceiling : Option UInt32
  counts : SortedMap String (Stage × UInt32) := ∅

namespace StallTable

def passes (t : StallTable) (key : String) : UInt32 := ((t.counts.get? key).map Prod.snd).getD 0

def clear (t : StallTable) (key : String) : StallTable := { t with counts := t.counts.erase key }

/-- The length of the run of passes in `stage` that the next one belongs to. -/
def nextCount (before : Option (Stage × UInt32)) (stage : Stage) : UInt32 :=
  match before with
  | some (s, n) => if s = stage then n + 1 else 1
  | none => 1

/-- Record a pass, and say whether it goes beyond the ceiling. -/
def record (t : StallTable) (key : String) (stage : Stage) : Bool × StallTable :=
  if stage.isWaiting then
    let count := nextCount (t.counts.get? key) stage
    (t.ceiling.any (· < count), { t with counts := t.counts.insert key (stage, count) })
  else (false, t.clear key)

end StallTable
end EnvOperator
