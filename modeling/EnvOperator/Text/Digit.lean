/-! # Digits and blanks -/
namespace EnvOperator
namespace Text

def decimalDigit (c : Char) : Option Nat :=
  if '0'.toNat ≤ c.toNat ∧ c.toNat ≤ '9'.toNat then some (c.toNat - '0'.toNat) else none

def hexDigit (c : Char) : Option Nat :=
  if '0'.toNat ≤ c.toNat ∧ c.toNat ≤ '9'.toNat then some (c.toNat - '0'.toNat)
  else if 'a'.toNat ≤ c.toNat ∧ c.toNat ≤ 'f'.toNat then some (c.toNat - 'a'.toNat + 10)
  else if 'A'.toNat ≤ c.toNat ∧ c.toNat ≤ 'F'.toNat then some (c.toNat - 'A'.toNat + 10)
  else none

/-- The decimal digit of a number below ten. -/
def digitChar (n : Nat) : Char := Char.ofNat ('0'.toNat + n)

/-- The hexadecimal digit of a number below sixteen, in lower case. -/
def hexChar (n : Nat) : Char := Char.ofNat (if n < 10 then '0'.toNat + n else 'a'.toNat + (n - 10))

/-- A one with so many zeros. -/
def tenTo : Nat → Nat
  | 0 => 1
  | n + 1 => tenTo n * 10

/-- The last `width` decimal digits of a number, most significant first. -/
def fixedDigits : Nat → Nat → List Char
  | 0, _ => []
  | width + 1, n => fixedDigits width (n / 10) ++ [digitChar (n % 10)]

/-- The first `most` characters as far as they are digits, and the number they spell. -/
def takeNumber (most : Nat) (cs : List Char) : Nat × Nat × List Char :=
  go most 0 0 cs
where
  go : Nat → Nat → Nat → List Char → Nat × Nat × List Char
    | 0, value, count, cs => (value, count, cs)
    | _ + 1, value, count, [] => (value, count, [])
    | most + 1, value, count, c :: rest =>
      match decimalDigit c with
      | some d => go most (value * 10 + d) (count + 1) rest
      | none => (value, count, c :: rest)

/-- A number of at least one and at most `most` digits at the front. -/
def number? (most : Nat) (cs : List Char) : Option (Nat × List Char) :=
  match takeNumber most cs with
  | (_, 0, _) => none
  | (value, _, rest) => some (value, rest)

/-- The blank characters of Unicode. -/
def isWhite (c : Char) : Bool :=
  let n := c.toNat
  (9 ≤ n && n ≤ 13) || n == 0x20 || n == 0x85 || n == 0xA0 || n == 0x1680 ||
    (0x2000 ≤ n && n ≤ 0x200A) ||
    n == 0x2028 || n == 0x2029 || n == 0x202F || n == 0x205F || n == 0x3000

def skipWhite (cs : List Char) : List Char := cs.dropWhile isWhite

end Text
end EnvOperator
