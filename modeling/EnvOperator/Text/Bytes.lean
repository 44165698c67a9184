import EnvOperator.Text.Digit

/-! # Bytes

Bytes spell a text when they are its UTF-8 encoding. In a percent-encoded text a percent sign with
two hexadecimal digits stands for a byte, and any other percent sign stands for itself.
-/
namespace EnvOperator

abbrev Bytes := List UInt8

namespace Bytes

def ofText (s : String) : Bytes := s.toUTF8.data.toList

/-- The text that bytes spell, if they spell any. -/
def text? (bs : Bytes) : Option String := String.fromUTF8? (ByteArray.mk bs.toArray)

end Bytes

namespace Text

def percentBytes : Bytes → Bytes
  | 37 :: a :: b :: rest =>
    match hexDigit (Char.ofNat a.toNat), hexDigit (Char.ofNat b.toNat) with
    | some x, some y => UInt8.ofNat (x * 16 + y) :: percentBytes rest
    | _, _ => 37 :: percentBytes (a :: b :: rest)
  | c :: rest => c :: percentBytes rest
  | [] => []

/-- The text a percent-encoded text stands for, if its bytes are UTF-8. -/
def percentDecode (s : String) : Option String := Bytes.text? (percentBytes (Bytes.ofText s))

end Text
end EnvOperator
