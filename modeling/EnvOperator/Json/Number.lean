import EnvOperator.Json.Basic

/-! # Numbers in JSON text

A number is read as a 64-bit count and a power of ten. Digits that no longer fit
the count are left out: in front of the point they still raise the power, behind
it they have no effect.
-/
namespace EnvOperator
namespace Json
open Text

/-- The digits at the front. -/
def takeDigits (cs : List Char) : List Nat × List Char :=
  ((cs.takeWhile fun c => (decimalDigit c).isSome).filterMap decimalDigit,
    cs.dropWhile fun c => (decimalDigit c).isSome)

/-- Counts are below this bound. -/
def countBound : Nat := 18446744073709551616

/-- Append digits to a count until one no longer fits, and tell how many are left. -/
def count (value : Nat) : List Nat → Nat × Nat
  | [] => (value, 0)
  | d :: rest =>
    if value * 10 + d < countBound then count (value * 10 + d) rest else (value, rest.length + 1)

def spell (digits : List Nat) : Nat := digits.foldl (fun value d => value * 10 + d) 0

/-- The digits behind a point; there are none without a point, and at least one with it. -/
def readFraction (cs : List Char) : Option (List Nat × List Char) :=
  match cs with
  | '.' :: rest =>
    let (digits, rest) := takeDigits rest
    if digits.isEmpty then none else some (digits, rest)
  | _ => some ([], cs)

/-- An exponent after `e` or `E`; `none` inside when there is no such mark. -/
def readExponent (cs : List Char) : Option (Option Int × List Char) :=
  match cs with
  | c :: rest =>
    if c = 'e' ∨ c = 'E' then
      let (negative, rest) := match rest with
        | '-' :: r => (true, r)
        | '+' :: r => (false, r)
        | r => (false, r)
      let (digits, rest) := takeDigits rest
      if digits.isEmpty then none
      else some (some (if negative then -(spell digits : Int) else spell digits), rest)
    else some (none, cs)
  | [] => some (none, [])

/-- `± n · 10 ^ exponent`, unless it lies beyond double precision. -/
def scientific (negative : Bool) (n : Nat) (exponent : Int) : Json :=
  ((Binary64.ofScientific n exponent).map (decimal negative)).getD unreadable

/-- A count stays a whole number if its sign leaves it one of 64 bits and it is not minus zero. -/
def whole (negative : Bool) (n : Nat) : Json :=
  if !negative then integer n
  else if n = 0 ∨ 9223372036854775808 < n then scientific true n 0
  else integer (-(n : Int))

def readNumber (cs : List Char) : Option (Json × List Char) := do
  let (negative, cs) := match cs with
    | '-' :: r => (true, r)
    | r => (false, r)
  let (front, rest) := takeDigits cs
  if front.isEmpty ∨ (1 < front.length ∧ front.head? = some 0) then none
  let (fraction, rest) ← readFraction rest
  let (exponent, rest) ← readExponent rest
  let (value, raised) := count 0 front
  if fraction.isEmpty ∧ exponent.isNone ∧ raised = 0 then return (whole negative value, rest)
  let (value, left) := count value fraction
  let lowered := fraction.length - left
  return (scientific negative value ((raised : Int) - lowered + exponent.getD 0), rest)

end Json
end EnvOperator
