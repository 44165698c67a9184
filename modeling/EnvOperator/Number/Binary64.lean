import EnvOperator.Text.Digit

/-! # Numbers of double precision

The finite numbers of double precision from zero upwards, each a mantissa of at
most 53 bits times a power of two. A quotient is rounded to the nearest of them,
and products and quotients by powers of ten are rounded once.
-/
namespace EnvOperator

/-- The number `mantissa · 2 ^ exponent`; the mantissa has 53 bits unless the exponent is the
least. -/
structure Binary64 where
  mantissa : Nat
  exponent : Int
deriving DecidableEq, Inhabited

namespace Binary64

/-- The exponent of the smallest numbers. -/
def leastExponent : Int := -1074

/-- The exponent of the largest numbers. -/
def greatestExponent : Int := 971

def zero : Binary64 := ⟨0, leastExponent⟩

def twoTo (n : Nat) : Nat := 1 <<< n

/-- The quotient `num / den · 2 ^ shift` as a numerator and a denominator. -/
def shifted (num den : Nat) (shift : Int) : Nat × Nat :=
  (num * twoTo shift.toNat, den * twoTo (-shift).toNat)

/-- The exponent at which a quotient has 53 bits in front of the point, or the least one. -/
def place (num den : Nat) : Int :=
  let guess : Int := (num.log2 : Int) - den.log2 - 52
  let (n, d) := shifted num den (-guess)
  max leastExponent (if d * twoTo 52 ≤ n then guess else guess - 1)

/-- A quotient as a whole number, a half going to the even neighbour. -/
def nearestWhole (num den : Nat) : Nat :=
  let below := num / den
  let rest := num % den
  if den < 2 * rest ∨ (den = 2 * rest ∧ below % 2 = 1) then below + 1 else below

/-- The number nearest to a quotient, of two the one with an even mantissa; none beyond the
largest. -/
def ofQuotient (num den : Nat) : Option Binary64 :=
  if num = 0 then some zero
  else
    let exponent := place num den
    let (n, d) := shifted num den (-exponent)
    let mantissa := nearestWhole n d
    let (mantissa, exponent) :=
      if mantissa = twoTo 53 then (twoTo 52, exponent + 1) else (mantissa, exponent)
    if greatestExponent < exponent then none else some ⟨mantissa, exponent⟩

def ofNat (n : Nat) : Option Binary64 := ofQuotient n 1

/-- The product, rounded. -/
def mul (x y : Binary64) : Option Binary64 :=
  let (n, d) := shifted (x.mantissa * y.mantissa) 1 (x.exponent + y.exponent)
  ofQuotient n d

/-- The quotient by a number that is not zero, rounded. -/
def div (x y : Binary64) : Option Binary64 :=
  let (n, d) := shifted x.mantissa y.mantissa (x.exponent - y.exponent)
  ofQuotient n d

/-- The number nearest to a power of ten. -/
def powerOfTen (n : Nat) : Option Binary64 := ofNat (Text.tenTo n)

/-- The greatest power of ten within double precision. -/
def greatestPower : Nat := 308

/-- `n · 10 ^ exponent`, rounded after every step: the count `n` is rounded first, then multiplied
or divided by a rounded power of ten. Two divisions by the greatest power leave nothing of a 64-bit
count. -/
def ofScientific (n : Nat) (exponent : Int) : Option Binary64 := do
  let x ← ofNat n
  if n = 0 then return zero
  if (greatestPower : Int) < exponent then none
  else if 0 ≤ exponent then x.mul (← powerOfTen exponent.toNat)
  else if -(greatestPower : Int) ≤ exponent then x.div (← powerOfTen (-exponent).toNat)
  else
    let x ← x.div (← powerOfTen greatestPower)
    let exponent := exponent + greatestPower
    if -(greatestPower : Int) ≤ exponent then x.div (← powerOfTen (-exponent).toNat)
      else return zero

end Binary64
end EnvOperator
