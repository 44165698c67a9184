import EnvOperator.Json.Codec

/-! # Shapes of documents

A shape describes the documents of one type: which members an object may have,
which of them are always written, and what their values look like. The values of a
shape hold exactly what it describes, so reading a document into them drops
every member the shape does not name.
-/
namespace EnvOperator

inductive Presence
  /-- Unset when it is missing. -/
  | optional
  /-- Empty when it is missing. -/
  | required
  /-- Never missing. -/
  | mandatory

mutual
inductive Shape
  | flag
  | int32
  | int64
  | text
  | bytes
  | time
  | intOrString
  | anything
  | list (item : Shape)
  | map (item : Shape)
  | record (fields : Fields)
inductive Fields
  | nil
  | cons (name : String) (presence : Presence) (shape : Shape) (rest : Fields)
end

def Fields.of : List (String × Presence × Shape) → Fields
  | [] => .nil
  | (name, presence, shape) :: rest => .cons name presence shape (of rest)

/-- A record with these fields. -/
def Shape.recordOf (fields : List (String × Presence × Shape)) : Shape := .record (.of fields)

def opt (name : String) (shape : Shape) : String × Presence × Shape := (name, .optional, shape)

def req (name : String) (shape : Shape) : String × Presence × Shape := (name, .required, shape)

def must (name : String) (shape : Shape) : String × Presence × Shape := (name, .mandatory, shape)

mutual
def Shape.Val : Shape → Type
  | .flag => Bool
  | .int32 => Int32
  | .int64 => Int64
  | .text => String
  | .bytes => Bytes
  | .time => Timestamp
  | .intOrString => IntOrString
  | .anything => { j : Json // j ≠ .null ∧ j.isReadable }
  | .list item => List item.Val
  | .map item => SortedMap String item.Val
  | .record fields => fields.Val
def Fields.Val : Fields → Type
  | .nil => Unit
  | .cons _ .optional shape rest => Option shape.Val × rest.Val
  | .cons _ .required shape rest => shape.Val × rest.Val
  | .cons _ .mandatory shape rest => shape.Val × rest.Val
end

mutual
def Shape.decEq : (s : Shape) → DecidableEq s.Val
  | .flag => inferInstanceAs (DecidableEq Bool)
  | .int32 => inferInstanceAs (DecidableEq Int32)
  | .int64 => inferInstanceAs (DecidableEq Int64)
  | .text => inferInstanceAs (DecidableEq String)
  | .bytes => inferInstanceAs (DecidableEq Bytes)
  | .time => inferInstanceAs (DecidableEq Timestamp)
  | .intOrString => inferInstanceAs (DecidableEq IntOrString)
  | .anything => inferInstanceAs (DecidableEq { j : Json // j ≠ .null ∧ j.isReadable })
  | .list item =>
    have := item.decEq
    inferInstanceAs (DecidableEq (List item.Val))
  | .map item =>
    have := item.decEq
    inferInstanceAs (DecidableEq (SortedMap String item.Val))
  | .record fields => fields.decEq
def Fields.decEq : (fs : Fields) → DecidableEq fs.Val
  | .nil => inferInstanceAs (DecidableEq Unit)
  | .cons _ .optional shape rest =>
    have := shape.decEq
    have := rest.decEq
    inferInstanceAs (DecidableEq (Option shape.Val × rest.Val))
  | .cons _ .required shape rest =>
    have := shape.decEq
    have := rest.decEq
    inferInstanceAs (DecidableEq (shape.Val × rest.Val))
  | .cons _ .mandatory shape rest =>
    have := shape.decEq
    have := rest.decEq
    inferInstanceAs (DecidableEq (shape.Val × rest.Val))
end

instance (s : Shape) : DecidableEq s.Val := s.decEq

instance (fs : Fields) : DecidableEq fs.Val := fs.decEq

mutual
/-- What stands for a required value that is missing. -/
def Shape.empty : (s : Shape) → s.Val
  | .flag => false
  | .int32 => (0 : Int32)
  | .int64 => (0 : Int64)
  | .text => ""
  | .bytes => ([] : Bytes)
  | .time => Timestamp.epoch
  | .intOrString => IntOrString.int 0
  | .anything => ⟨.object [], by simp, rfl⟩
  | .list _ => []
  | .map item => (∅ : SortedMap String item.Val)
  | .record fields => fields.empty
/-- All optional members unset and all others empty. -/
def Fields.empty : (fs : Fields) → fs.Val
  | .nil => ()
  | .cons _ .optional _ rest => (none, rest.empty)
  | .cons _ .required shape rest => (shape.empty, rest.empty)
  | .cons _ .mandatory shape rest => (shape.empty, rest.empty)
end

mutual
def Shape.codec : (s : Shape) → Codec s.Val
  | .flag => Codec.bool
  | .int32 => Codec.int32
  | .int64 => Codec.int64
  | .text => Codec.string
  | .bytes => Codec.bytes
  | .time => Codec.timestamp
  | .intOrString => Codec.intOrString
  | .anything => Codec.anything
  | .list item => Codec.list item.codec
  | .map item => Codec.map item.codec
  | .record fields => fields.codec.object
def Fields.codec : (fs : Fields) → RecordCodec fs.Val
  | .nil => .nil
  | .cons name .optional shape rest => .cons name (.optional shape.codec) rest.codec
  | .cons name .required shape rest => .cons name (.required shape.codec shape.empty) rest.codec
  | .cons name .mandatory shape rest => .cons name (.mandatory shape.codec) rest.codec
end

instance (s : Shape) : Inhabited s.Val := ⟨s.empty⟩

instance (fs : Fields) : Inhabited fs.Val := ⟨fs.empty⟩

end EnvOperator
