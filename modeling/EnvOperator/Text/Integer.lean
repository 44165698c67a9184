import EnvOperator.Text.Digit

/-! # Reading whole numbers of a bounded range

A number is an optional sign and decimal digits, nothing else. The fault named is
the one met first from the left: a character that is no digit, or the digit that
leaves the range. A minus sign counts as a digit out of place when the range has
no negative numbers.
-/
namespace EnvOperator
namespace Text

inductive IntegerFault
  | empty
  | invalidDigit
  | tooLarge
  | tooSmall
deriving DecidableEq

def IntegerFault.message : IntegerFault → String
  | .empty => "cannot parse integer from empty string"
  | .invalidDigit => "invalid digit found in string"
  | .tooLarge => "number too large to fit in target type"
  | .tooSmall => "number too small to fit in target type"

structure IntegerRange where
  least : Int
  greatest : Int

namespace IntegerRange

def int32 : IntegerRange := ⟨-2147483648, 2147483647⟩
def int64 : IntegerRange := ⟨-9223372036854775808, 9223372036854775807⟩
def nat16 : IntegerRange := ⟨0, 65535⟩
def nat32 : IntegerRange := ⟨0, 4294967295⟩
def nat64 : IntegerRange := ⟨0, 18446744073709551615⟩

def signed (r : IntegerRange) : Bool := r.least < 0

end IntegerRange

/-- The number the digits spell after `value`, as long as it stays within `bound`. -/
def readMagnitude (bound : Nat) (beyond : IntegerFault) (value : Nat) :
    List Char → Except IntegerFault Nat
  | [] => .ok value
  | c :: rest =>
    match decimalDigit c with
    | none => .error .invalidDigit
    | some d =>
      if bound < value * 10 + d then .error beyond
        else readMagnitude bound beyond (value * 10 + d) rest

def readInteger (range : IntegerRange) (s : String) : Except IntegerFault Int :=
  let natural (cs : List Char) : Except IntegerFault Int :=
    (readMagnitude range.greatest.toNat .tooLarge 0 cs).map Int.ofNat
  match s.toList with
  | [] => .error .empty
  | ['+'] | ['-'] => .error .invalidDigit
  | '+' :: cs => natural cs
  | '-' :: cs =>
    if range.signed then (readMagnitude range.least.natAbs .tooSmall 0 cs).map fun n => -(n : Int)
    else .error .invalidDigit
  | cs => natural cs

end Text
end EnvOperator
