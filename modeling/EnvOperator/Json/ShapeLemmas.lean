import EnvOperator.Json.CodecLemmas
import EnvOperator.Json.Shape

/-! # Lawful shapes

The documents of a shape read back if no record in it has two members of one
name.
-/
namespace EnvOperator

def Fields.names : Fields → List String
  | .nil => []
  | .cons name _ _ rest => name :: rest.names

mutual
/-- No record of the shape has two members of one name. -/
def Shape.distinct : Shape → Bool
  | .list item => item.distinct
  | .map item => item.distinct
  | .record fields => decide fields.names.Nodup && fields.distinct
  | _ => true
def Fields.distinct : Fields → Bool
  | .nil => true
  | .cons _ _ shape rest => shape.distinct && rest.distinct
end

@[simp] theorem Fields.names_codec : ∀ fs : Fields, fs.codec.names = fs.names
  | .nil => rfl
  | .cons name .optional _ rest => congrArg (name :: ·) rest.names_codec
  | .cons name .required _ rest => congrArg (name :: ·) rest.names_codec
  | .cons name .mandatory _ rest => congrArg (name :: ·) rest.names_codec

mutual
theorem Shape.lawful : ∀ s : Shape, s.distinct = true → s.codec.Lawful
  | .flag, _ => Codec.lawful_bool
  | .int32, _ => Codec.lawful_int32
  | .int64, _ => Codec.lawful_int64
  | .text, _ => Codec.lawful_string
  | .bytes, _ => Codec.lawful_bytes
  | .time, _ => Codec.lawful_timestamp
  | .intOrString, _ => Codec.lawful_intOrString
  | .anything, _ => Codec.lawful_anything
  | .list item, h => Codec.lawful_list (item.lawful h)
  | .map item, h => Codec.lawful_map (item.lawful h)
  | .record fields, h => by
    simp only [Shape.distinct, Bool.and_eq_true, decide_eq_true_eq] at h
    exact (fields.lawful h.2).object (fields.names_codec ▸ h.1)
theorem Fields.lawful : ∀ fs : Fields, fs.distinct = true → fs.codec.Lawful
  | .nil, _ => RecordCodec.lawful_nil
  | .cons name .optional shape rest, h => by
    simp only [Fields.distinct, Bool.and_eq_true] at h
    exact RecordCodec.lawful_cons (MemberCodec.lawful_optional (shape.lawful h.1)) (rest.lawful h.2)
  | .cons name .required shape rest, h => by
    simp only [Fields.distinct, Bool.and_eq_true] at h
    exact RecordCodec.lawful_cons (MemberCodec.lawful_required (shape.lawful h.1) _)
      (rest.lawful h.2)
  | .cons name .mandatory shape rest, h => by
    simp only [Fields.distinct, Bool.and_eq_true] at h
    exact RecordCodec.lawful_cons (MemberCodec.lawful_mandatory (shape.lawful h.1))
      (rest.lawful h.2)
end

end EnvOperator
