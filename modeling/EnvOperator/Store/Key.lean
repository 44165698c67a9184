import EnvOperator.Cluster.Meta

/-! # Keys and errors of the object store

An object is known by its namespace and its name. The errors are what a store can
answer instead of an object.
-/
namespace EnvOperator

inductive StoreError
  | notFound (what : String)
  | alreadyExists (what : String)
  | conflict (what : String)
  | invalid (what : String)
  /-- A document that is not an object of the kind it is stored under. -/
  | serialization
  | api (what : String)
deriving DecidableEq

namespace StoreError

def message : StoreError → String
  | notFound what => "not found: " ++ what
  | alreadyExists what => "already exists: " ++ what
  | conflict what => "conflict: " ++ what
  | invalid what => "invalid object: " ++ what
  | serialization => "serialization error"
  | api what => "api error: " ++ what

def isNotFound : StoreError → Bool
  | notFound _ => true
  | _ => false

def isConflict : StoreError → Bool
  | conflict _ => true
  | _ => false

end StoreError

structure ObjectKey where
  ns : String
  name : String
deriving DecidableEq

namespace ObjectKey

def text (key : ObjectKey) : String := key.ns ++ "/" ++ key.name

/-- The key of another object in the same namespace. -/
def sibling (key : ObjectKey) (name : String) : ObjectKey := ⟨key.ns, name⟩

def ofMeta (m : ObjectMeta) : Except StoreError ObjectKey :=
  match m.ns, m.name with
  | some ns, some name => .ok ⟨ns, name⟩
  | _, _ => .error (.invalid "object metadata is missing namespace or name")

theorem ofMeta_eq_ok {m : ObjectMeta} {key : ObjectKey} :
    ofMeta m = .ok key ↔ m.ns = some key.ns ∧ m.name = some key.name := by
  obtain ⟨ns, name⟩ := key
  unfold ofMeta
  split <;> simp_all

instance : Ord ObjectKey := ⟨compareLex (compareOn ObjectKey.ns) (compareOn ObjectKey.name)⟩

instance : Std.TransOrd ObjectKey :=
  inferInstanceAs (Std.TransCmp (compareLex (compareOn ObjectKey.ns) (compareOn ObjectKey.name)))

instance : Std.LawfulEqOrd ObjectKey where
  eq_of_compare {a b} h := by
    have h : (compare a.ns b.ns).then (compare a.name b.name) = .eq := h
    rw [Ordering.then_eq_eq, Std.LawfulEqCmp.compare_eq_iff_eq,
      Std.LawfulEqCmp.compare_eq_iff_eq] at h
    cases a; cases b; simp_all

end ObjectKey
end EnvOperator
