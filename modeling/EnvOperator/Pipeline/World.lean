import EnvOperator.Pipeline.Dialogue
import EnvOperator.Registry.Basic
import EnvOperator.Store.Memory

/-! # Worlds

A store in memory, a registry in memory, and the failures that are still to come.
A failure strikes the next request of its method before the store sees it.
-/
namespace EnvOperator

/-- So many requests of a method fail with an error. -/
structure Fault where
  method : Method
  error : StoreError
  times : Nat

namespace Fault

/-- The error that strikes a request of a method, and the failures that are left then. -/
def take? (method : Method) : List Fault → Option (StoreError × List Fault)
  | [] => none
  | f :: rest =>
    if f.method = method ∧ 0 < f.times then some (f.error, { f with times := f.times - 1 } :: rest)
    else (take? method rest).map fun (e, left) => (e, f :: left)

end Fault

structure World where
  store : MemoryStore := {}
  registry : RegistryDouble := {}
  faults : List Fault := []

namespace World

def inject (w : World) (f : Fault) : World := { w with faults := w.faults ++ [f] }

def request (r : Request) (w : World) : r.Answer × World :=
  match Fault.take? r.method w.faults with
  | some (e, left) => (.error e, { w with faults := left })
  | none =>
    let (answer, store) := w.store.answer r
    (answer, { w with store })

def answer : (q : Query) → World → q.Answer × World
  | .store r, w => w.request r
  | .tags url repository, w => (w.registry.listTags url repository, w)

end World

/-- Hold a dialogue with a world. -/
def Dialogue.inWorld {α : Type} (d : Dialogue α) (w : World) : α × World := d.run World.answer w

end EnvOperator
