import EnvOperator.Data.SortedMap
import EnvOperator.Json.Basic
import EnvOperator.Text.Base64
import EnvOperator.Time.Rfc3339

/-! # Values as JSON documents

A codec writes values of a type as documents and reads them back. A member codec
says how one member of an object is left out or found missing, and a record is a
row of such members. Records are put together member by member and then carried
over to a structure type.
-/
namespace EnvOperator

structure Codec (α : Type) where
  encode : α → Json
  decode : Json → Option α

/-- How one member of an object is written, if at all, and read, if it is there. -/
structure MemberCodec (α : Type) where
  write : α → Option Json
  read : Option Json → Option α

/-- The members of an object: reading looks them up by name. -/
structure RecordCodec (α : Type) where
  names : List String
  write : α → Json.Members
  read : (String → Option Json) → Option α

inductive IntOrString
  | int (i : Int32)
  | string (s : String)
deriving DecidableEq

namespace Codec
variable {α β : Type}

def string : Codec String where
  encode := .string
  decode
    | .string s => some s
    | _ => none

def bool : Codec Bool where
  encode := .bool
  decode
    | .bool b => some b
    | _ => none

/-- Whole numbers between two bounds, carried over to a type of that range. -/
def ranged (least greatest : Int) (ofInt : Int → α) (toInt : α → Int) : Codec α where
  encode a := .integer (toInt a)
  decode
    | .integer i => if least ≤ i ∧ i ≤ greatest then some (ofInt i) else none
    | _ => none

def int32 : Codec Int32 := ranged (-2147483648) 2147483647 Int32.ofInt Int32.toInt
def int64 : Codec Int64 := ranged (-9223372036854775808) 9223372036854775807 Int64.ofInt Int64.toInt
def nat16 : Codec UInt16 := ranged 0 65535 (fun i => .ofNat i.toNat) (fun u => u.toNat)
def nat32 : Codec UInt32 := ranged 0 4294967295 (fun i => .ofNat i.toNat) (fun u => u.toNat)

/-- Bytes are written in base64; a null stands for no bytes. -/
def bytes : Codec Bytes where
  encode b := .string (Base64.encode b)
  decode
    | .string s => Base64.decode s
    | .null => some []
    | _ => none

def instant : Codec Instant where
  encode t := .string (Rfc3339.write t)
  decode
    | .string s => Rfc3339.read s
    | _ => none

def timestamp : Codec Timestamp where
  encode t := .string (Rfc3339.write t.instant)
  decode
    | .string s => (Rfc3339.read s).map .ofInstant
    | _ => none

def intOrString : Codec IntOrString where
  encode
    | .int i => int32.encode i
    | .string s => .string s
  decode
    | .string s => some (.string s)
    | j => (int32.decode j).map .int

/-- Any document but null, without unreadable parts. -/
def anything : Codec { j : Json // j ≠ .null ∧ j.isReadable } where
  encode j := j.val
  decode j := if h : j ≠ .null ∧ j.isReadable then some ⟨j, h⟩ else none

def decodeItems (c : Codec α) : List Json → Option (List α)
  | [] => some []
  | x :: xs => do return (← c.decode x) :: (← decodeItems c xs)

def list (c : Codec α) : Codec (List α) where
  encode xs := .array (xs.map c.encode)
  decode
    | .array xs => decodeItems c xs
    | _ => none

def decodeBindings (c : Codec α) : Json.Members → Option (List (String × α))
  | [] => some []
  | (n, x) :: rest => do return (n, ← c.decode x) :: (← decodeBindings c rest)

def map (c : Codec α) : Codec (SortedMap String α) where
  encode m := .object (m.entries.map fun e => (e.1, c.encode e.2))
  decode
    | .object ms => (decodeBindings c ms).map .ofList
    | _ => none

/-- Values of another type that stand for values of this one. -/
def imap (c : Codec α) (wrap : α → β) (unwrap : β → α) : Codec β where
  encode b := c.encode (unwrap b)
  decode j := (c.decode j).map wrap

end Codec

namespace MemberCodec
variable {α : Type}

/-- An unset value is left out; null and absence are unset. -/
def optional (c : Codec α) : MemberCodec (Option α) where
  write a := a.map c.encode
  read
    | none | some .null => some none
    | some j => (c.decode j).map some

/-- Always written; null and absence stand for an empty value. -/
def required (c : Codec α) (empty : α) : MemberCodec α where
  write a := some (c.encode a)
  read
    | none | some .null => some empty
    | some j => c.decode j

/-- Always written; only absence stands for a default. -/
def defaulted (c : Codec α) (default : α) : MemberCodec α where
  write a := some (c.encode a)
  read
    | none => some default
    | some j => c.decode j

/-- Always written and never absent. -/
def mandatory (c : Codec α) : MemberCodec α where
  write a := some (c.encode a)
  read
    | none => none
    | some j => c.decode j

end MemberCodec

namespace RecordCodec
variable {α β : Type}

def nil : RecordCodec Unit where
  names := []
  write _ := []
  read _ := some ()

def cons (name : String) (m : MemberCodec α) (rest : RecordCodec β) : RecordCodec (α × β) where
  names := name :: rest.names
  write v := ((m.write v.1).map fun j => (name, j)).toList ++ rest.write v.2
  read find := do return (← m.read (find name), ← rest.read find)

def imap (r : RecordCodec α) (wrap : α → β) (unwrap : β → α) : RecordCodec β where
  names := r.names
  write b := r.write (unwrap b)
  read find := (r.read find).map wrap

/-- Read the members of an object, the last one of every name; one that does not count because of a
later one has to be null or readable in its place all the same. -/
def readMembers (r : RecordCodec α) (ms : Json.Members) : Option α := do
  let a ← r.read fun name => Json.lookup name ms
  if (Json.overwritten ms).all fun m =>
      m.2 == .null || (r.read fun name => if name = m.1 then
        some m.2 else Json.lookup name ms).isSome then
    return a
  else none

/-- Objects; members of other names are ignored. -/
def object (r : RecordCodec α) : Codec α where
  encode a := .object (r.write a)
  decode
    | .object ms => r.readMembers ms
    | _ => none

def decodeStrict (r : RecordCodec α) : Json → Option α
  | .object ms =>
    if r.names.any fun name => 1 < ms.countP (fun m => m.1 == name) then none
    else r.read fun name => Json.lookup name ms
  | .array xs =>
    if r.names.length < xs.length then none else r.read fun name => (r.names.zip xs).lookup name
  | _ => none

/-- Objects that name no member twice; an array gives the members in their order. -/
def strict (r : RecordCodec α) : Codec α where
  encode a := .object (r.write a)
  decode := r.decodeStrict

def typeMembers (apiVersion kind : String) : Json.Members :=
  [("apiVersion", .string apiVersion), ("kind", .string kind)]

/-- Objects of one API type: the type is written, and whatever a document says of its type must
agree. -/
def ofKind (apiVersion kind : String) (r : RecordCodec α) : Codec α where
  encode a := .object (typeMembers apiVersion kind ++ r.write a)
  decode
    | .object ms =>
      if ms.all fun m => (typeMembers apiVersion kind).all fun t => m.1 != t.1 || m.2 == t.2 then
        r.readMembers ms
      else none
    | _ => none

/-- Objects of one API type that are read whatever type they claim; an array has to give every
member. -/
def asKind (apiVersion kind : String) (r : RecordCodec α) : Codec α where
  encode a := .object (typeMembers apiVersion kind ++ r.write a)
  decode
    | .array xs => if xs.length = r.names.length then r.decodeStrict (.array xs) else none
    | j => r.decodeStrict j

end RecordCodec
end EnvOperator
