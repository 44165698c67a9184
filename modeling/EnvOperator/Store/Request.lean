import EnvOperator.Store.Kind

/-! # Requests to the object store

What can be asked of a store and what it answers. A request that changes objects
is a write; of a write only its verb and what it is about are remembered.
-/
namespace EnvOperator

inductive Request
  | get (k : Kind) (key : ObjectKey)
  | create (k : Kind) (object : k.Object)
  | replace (k : Kind) (object : k.Object)
  | delete (k : Kind) (key : ObjectKey)
  | updateStatus (key : ObjectKey) (status : EnvironmentStatus)

/-- The verb of a request and the kind it is about. -/
inductive Method
  | get (k : Kind)
  | create (k : Kind)
  | replace (k : Kind)
  | delete (k : Kind)
  | updateStatus
deriving DecidableEq

/-- A write as a store remembers it. -/
inductive StoreCall
  | create (k : Kind) (key : ObjectKey)
  | replace (k : Kind) (key : ObjectKey)
  | delete (k : Kind) (key : ObjectKey)
  | updateStatus (key : ObjectKey)
deriving DecidableEq

namespace Request

/-- What a request gives when it succeeds; a missing object is a result of reading. -/
abbrev Result : Request → Type
  | get k _ => Option k.Object
  | create k _ => k.Object
  | replace k _ => k.Object
  | delete _ _ => Unit
  | updateStatus _ _ => Unit

abbrev Answer (r : Request) : Type := Except StoreError r.Result

def method : Request → Method
  | get k _ => .get k
  | create k _ => .create k
  | replace k _ => .replace k
  | delete k _ => .delete k
  | updateStatus _ _ => .updateStatus

end Request
end EnvOperator
