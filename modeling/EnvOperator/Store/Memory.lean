import EnvOperator.Store.Request

/-! # The store in memory

Objects are kept as documents, so that every read hands out a copy of its own.
Writes are remembered in the order they come, whether or not they succeed.
Writes of a kind can be made to fail, and so can the next replacement of a kind,
as if somebody had changed the object since it was read.
-/
namespace EnvOperator

structure MemoryStore where
  objects : SortedMap ObjectId Json := ∅
  calls : List StoreCall := []
  failingWrites : List Kind := []
  conflicts : List Kind := []

namespace MemoryStore

/-- Store an object without remembering a call. -/
def put (s : MemoryStore) (k as : Kind) (object : as.Object) : Except StoreError MemoryStore := do
  let key ← as.keyOf object
  return { s with objects := s.objects.insert ⟨k, key⟩ (as.codec.encode object) }

def remove (s : MemoryStore) (k : Kind) (key : ObjectKey) : MemoryStore :=
  { s with objects := s.objects.erase ⟨k, key⟩ }

def failWrites (s : MemoryStore) (k : Kind) : MemoryStore :=
  { s with failingWrites := s.failingWrites.insert k }

def conflictNextReplace (s : MemoryStore) (k : Kind) : MemoryStore :=
  { s with conflicts := s.conflicts.insert k }

def logged (s : MemoryStore) (call : StoreCall) : MemoryStore :=
  { s with calls := s.calls ++ [call] }

def read (s : MemoryStore) (k : Kind) (key : ObjectKey) : Except StoreError (Option k.Object) :=
  match s.objects.get? ⟨k, key⟩ with
  | none => .ok none
  | some document =>
    match k.codec.decode document with
    | none => .error .serialization
    | some object => .ok (some object)

def create (s : MemoryStore) (k : Kind) (object : k.Object) :
    Except StoreError k.Object × MemoryStore :=
  match k.keyOf object with
  | .error e => (.error e, s)
  | .ok key =>
    let s := s.logged (.create k key)
    let id : ObjectId := ⟨k, key⟩
    if k ∈ s.failingWrites then (.error (.api ("injected write failure for " ++ id.text)), s)
    else if s.objects.contains id then (.error (.alreadyExists id.text), s)
    else (.ok object, { s with objects := s.objects.insert id (k.codec.encode object) })

def replace (s : MemoryStore) (k : Kind) (object : k.Object) :
    Except StoreError k.Object × MemoryStore :=
  match k.keyOf object with
  | .error e => (.error e, s)
  | .ok key =>
    let s := s.logged (.replace k key)
    let id : ObjectId := ⟨k, key⟩
    if k ∈ s.failingWrites then (.error (.api ("injected write failure for " ++ id.text)), s)
    else if k ∈ s.conflicts then
      (.error (.conflict (id.text ++ " has been modified")),
        { s with conflicts := s.conflicts.erase k })
    else if s.objects.contains id then
      (.ok object, { s with objects := s.objects.insert id (k.codec.encode object) })
    else (.error (.notFound id.text), s)

def delete (s : MemoryStore) (k : Kind) (key : ObjectKey) : Except StoreError Unit × MemoryStore :=
  let s := s.logged (.delete k key)
  let id : ObjectId := ⟨k, key⟩
  if s.objects.contains id then (.ok (), { s with objects := s.objects.erase id })
  else (.error (.notFound id.text), s)

def updateStatus (s : MemoryStore) (key : ObjectKey) (status : EnvironmentStatus) :
    Except StoreError Unit × MemoryStore :=
  let s := s.logged (.updateStatus key)
  let id : ObjectId := ⟨.environment, key⟩
  match s.read .environment key with
  | .error e => (.error e, s)
  | .ok none => (.error (.notFound id.text), s)
  | .ok (some environment) =>
    let document := Environment.codec.encode { environment with status := some status }
    (.ok (), { s with objects := s.objects.insert id document })

def answer (s : MemoryStore) : (r : Request) → r.Answer × MemoryStore
  | .get k key => (s.read k key, s)
  | .create k object => s.create k object
  | .replace k object => s.replace k object
  | .delete k key => s.delete k key
  | .updateStatus key status => s.updateStatus key status

end MemoryStore
end EnvOperator
