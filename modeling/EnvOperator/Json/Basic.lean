import EnvOperator.Number.Binary64

/-! # JSON documents

Objects keep their members in the order they were written, repeated names
included; a name means its last member. Whole numbers are kept apart from
decimals, because only the former can be read as integers.

A part of a text may keep to the grammar and stand for no document: a string with
half of a surrogate pair, a number beyond double precision, or what is nested too
deeply. Such a part does no harm where nobody looks at it, so it has a place in a
document, but no value is ever read from it.
-/
namespace EnvOperator

inductive Json where
  | null
  | bool (b : Bool)
  | integer (i : Int)
  /-- A number written with a fraction or an exponent, minus zero, or a whole number that fits no
  64-bit integer. -/
  | decimal (negative : Bool) (magnitude : Binary64)
  | string (s : String)
  | array (items : List Json)
  | object (members : List (String × Json))
  /-- A part that stands for no document. -/
  | unreadable
deriving Inhabited

namespace Json

abbrev Members := List (String × Json)

mutual
def same : Json → Json → Bool
  | null, null => true
  | bool a, bool b => a == b
  | integer a, integer b => a == b
  | decimal n x, decimal m y => n == m && x == y
  | string a, string b => a == b
  | array xs, array ys => sameItems xs ys
  | object ms, object ns => sameMembers ms ns
  | unreadable, unreadable => true
  | _, _ => false
def sameItems : List Json → List Json → Bool
  | [], [] => true
  | x :: xs, y :: ys => same x y && sameItems xs ys
  | _, _ => false
def sameMembers : Members → Members → Bool
  | [], [] => true
  | (n, x) :: xs, (m, y) :: ys => n == m && same x y && sameMembers xs ys
  | _, _ => false
end

mutual
theorem eq_of_same : ∀ {a b : Json}, same a b = true → a = b
  | null, b, h => by cases b <;> simp_all [same]
  | bool _, b, h => by cases b <;> simp_all [same]
  | integer _, b, h => by cases b <;> simp_all [same]
  | decimal _ _, b, h => by cases b <;> simp_all [same]
  | string _, b, h => by cases b <;> simp_all [same]
  | array xs, b, h => by
    cases b <;> simp only [same, Bool.false_eq_true] at h
    rw [eq_of_sameItems h]
  | object xs, b, h => by
    cases b <;> simp only [same, Bool.false_eq_true] at h
    rw [eq_of_sameMembers h]
  | unreadable, b, h => by cases b <;> simp_all [same]
theorem eq_of_sameItems : ∀ {xs ys : List Json}, sameItems xs ys = true → xs = ys
  | [], ys, h => by cases ys <;> simp_all [sameItems]
  | x :: xs, ys, h => by
    cases ys with
    | nil => simp [sameItems] at h
    | cons y ys =>
      simp only [sameItems, Bool.and_eq_true] at h
      rw [eq_of_same h.1, eq_of_sameItems h.2]
theorem eq_of_sameMembers : ∀ {xs ys : Members}, sameMembers xs ys = true → xs = ys
  | [], ys, h => by cases ys <;> simp_all [sameMembers]
  | (n, x) :: xs, ys, h => by
    cases ys with
    | nil => simp [sameMembers] at h
    | cons y ys =>
      simp only [sameMembers, Bool.and_eq_true, beq_iff_eq] at h
      rw [h.1.1, eq_of_same h.1.2, eq_of_sameMembers h.2]
end

mutual
theorem same_self : ∀ a : Json, same a a = true
  | null | bool _ | integer _ | decimal _ _ | string _ | unreadable => by simp [same]
  | array xs => by simp [same, sameItems_self xs]
  | object xs => by simp [same, sameMembers_self xs]
theorem sameItems_self : ∀ xs : List Json, sameItems xs xs = true
  | [] => rfl
  | x :: xs => by simp [sameItems, same_self x, sameItems_self xs]
theorem sameMembers_self : ∀ xs : Members, sameMembers xs xs = true
  | [] => rfl
  | (n, x) :: xs => by simp [sameMembers, same_self x, sameMembers_self xs]
end

instance : DecidableEq Json := fun a b =>
  decidable_of_iff (same a b = true) ⟨eq_of_same, fun h => h ▸ same_self a⟩

def ofNat (n : Nat) : Json := integer n

def ofOption {α : Type} (f : α → Json) : Option α → Json
  | none => null
  | some a => f a

/-- The last member of a name. -/
def lookup (name : String) : Members → Option Json
  | [] => none
  | (n, j) :: rest => (lookup name rest).or (if n = name then some j else none)

/-- The member of a name in an object; other documents have none. -/
def member? (j : Json) (name : String) : Option Json :=
  match j with
  | object ms => lookup name ms
  | _ => none

/-- The members that do not count, because a later one has the same name. -/
def overwritten : Members → Members
  | [] => []
  | (n, j) :: rest =>
    if (lookup n rest).isSome then (n, j) :: overwritten rest else overwritten rest

mutual
/-- The document has no unreadable part. -/
def isReadable : Json → Bool
  | array xs => areReadable xs
  | object ms => haveReadable ms
  | unreadable => false
  | _ => true
def areReadable : List Json → Bool
  | [] => true
  | x :: xs => isReadable x && areReadable xs
def haveReadable : Members → Bool
  | [] => true
  | (_, x) :: rest => isReadable x && haveReadable rest
end

/-- Replace the member of a name in place, or add it at the end. -/
def assign (name : String) (value : Json) : Members → Members
  | [] => [(name, value)]
  | (n, j) :: rest => if n = name then (n, value) :: rest else (n, j) :: assign name value rest

mutual
/-- Keep only the last member of every name, throughout the document. -/
def collapse : Json → Json
  | array xs => array (collapseItems xs)
  | object ms => object (collapseMembers [] ms)
  | j => j
def collapseItems : List Json → List Json
  | [] => []
  | x :: xs => collapse x :: collapseItems xs
def collapseMembers (seen : Members) : Members → Members
  | [] => seen
  | (n, x) :: rest => collapseMembers (assign n (collapse x) seen) rest
end

end Json
end EnvOperator
