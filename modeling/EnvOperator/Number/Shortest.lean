import EnvOperator.Number.Binary64

/-! # The shortest decimal text of a number

A number of double precision is written with the fewest digits that read back as
it, and of those with the nearest. Numbers of ordinary size are written out, the
others with an exponent.
-/
namespace EnvOperator
namespace Binary64

/-- A number `digits · 10 ^ exponent`. -/
structure Decimal where
  digits : Nat
  exponent : Int
deriving DecidableEq

/-- The reals that round to a number, in quarters of its last place: from, at and until. -/
def neighbourhood (x : Binary64) : Nat × Nat × Nat :=
  let at4 := 4 * x.mantissa
  (if x.mantissa = twoTo 52 ∧ leastExponent < x.exponent then at4 - 1 else at4 - 2, at4, at4 + 2)

/-- The multiple of a power of ten that is nearest to a number among those that round to it. -/
def onGrid (x : Binary64) (power : Int) : Option Decimal :=
  let (low, middle, high) := x.neighbourhood
  let quarter := x.exponent - 2
  -- a quarter of the last place is `unit` and the power of ten is `step`, on a common scale
  let unit := twoTo quarter.toNat * Text.tenTo (-power).toNat
  let step := twoTo (-quarter).toNat * Text.tenTo power.toNat
  let inside (digits : Nat) : Bool :=
    if x.mantissa % 2 = 0 then low * unit ≤ digits * step && digits * step ≤ high * unit
    else low * unit < digits * step && digits * step < high * unit
  let below := middle * unit / step
  let nearest := nearestWhole (middle * unit) step
  if inside nearest then some ⟨nearest, power⟩
  else if inside below then some ⟨below, power⟩
  else if inside (below + 1) then some ⟨below + 1, power⟩
  else none

/-- The shortest decimal among the powers of ten below `10 ^ (n - 345)`, the greatest power
first. -/
def searchGrids (x : Binary64) : Nat → Decimal
  | 0 => ⟨0, 0⟩
  | n + 1 =>
    match x.onGrid ((n : Int) - 345) with
    | some d => d
    | none => searchGrids x n

def shortest (x : Binary64) : Decimal := if x.mantissa = 0 then ⟨0, 0⟩ else searchGrids x 655

namespace Decimal

def zeros (n : Nat) : List Char := List.replicate n '0'

def exponentText (e : Int) : String := if e < 0 then "e" ++ toString e else "e+" ++ toString e

/-- Numbers from `10 ^ -5` and below `10 ^ 16` are written out, with at least one digit after the
point. -/
def text (d : Decimal) : String :=
  let digits := Nat.toDigits 10 d.digits
  let point : Int := digits.length + d.exponent
  if 0 ≤ d.exponent ∧ point ≤ 16 then String.ofList (digits ++ zeros d.exponent.toNat) ++ ".0"
  else if 0 < point ∧ point ≤ 16 then
    String.ofList (digits.take point.toNat ++ '.' :: digits.drop point.toNat)
  else if -5 < point ∧ point ≤ 0 then String.ofList ('0' :: '.' :: zeros (-point).toNat ++ digits)
  else
    match digits with
    | [first] => String.ofList [first] ++ exponentText (point - 1)
    | first :: rest => String.ofList (first :: '.' :: rest) ++ exponentText (point - 1)
    | [] => ""

end Decimal

/-- The text of a number, with a minus sign if it is negative. -/
def text (negative : Bool) (x : Binary64) : String :=
  (if negative then "-" else "") ++ x.shortest.text

end Binary64
end EnvOperator
