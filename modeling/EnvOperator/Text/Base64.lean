import EnvOperator.Text.Bytes

/-! # Base64

Bytes in groups of three as four characters of the standard alphabet, the last
group filled up with equals signs. Reading accepts what writing produces and
nothing else.
-/
namespace EnvOperator
namespace Base64

def digit (n : Nat) : Char :=
  if n < 26 then Char.ofNat ('A'.toNat + n)
  else if n < 52 then Char.ofNat ('a'.toNat + (n - 26))
  else if n < 62 then Char.ofNat ('0'.toNat + (n - 52))
  else if n = 62 then '+' else '/'

def digitValue (c : Char) : Option Nat :=
  let n := c.toNat
  if 'A'.toNat ≤ n ∧ n ≤ 'Z'.toNat then some (n - 'A'.toNat)
  else if 'a'.toNat ≤ n ∧ n ≤ 'z'.toNat then some (n - 'a'.toNat + 26)
  else if '0'.toNat ≤ n ∧ n ≤ '9'.toNat then some (n - '0'.toNat + 52)
  else if c = '+' then some 62
  else if c = '/' then some 63
  else none

def encodeChars : Bytes → List Char
  | [] => []
  | [a] => [digit (a.toNat / 4), digit (a.toNat % 4 * 16), '=', '=']
  | [a, b] =>
    [digit (a.toNat / 4), digit (a.toNat % 4 * 16 + b.toNat / 16), digit (b.toNat % 16 * 4), '=']
  | a :: b :: c :: rest =>
    digit (a.toNat / 4) :: digit (a.toNat % 4 * 16 + b.toNat / 16) ::
      digit (b.toNat % 16 * 4 + c.toNat / 64) :: digit (c.toNat % 64) :: encodeChars rest

def decodeChars : List Char → Option Bytes
  | [] => some []
  | [a, b, '=', '='] => do
    let x ← digitValue a
    let y ← digitValue b
    if y % 16 = 0 then some [UInt8.ofNat (x * 4 + y / 16)] else none
  | [a, b, c, '='] => do
    let x ← digitValue a
    let y ← digitValue b
    let z ← digitValue c
    if z % 4 = 0 then some [UInt8.ofNat (x * 4 + y / 16), UInt8.ofNat (y % 16 * 16 + z / 4)]
      else none
  | a :: b :: c :: d :: rest => do
    let x ← digitValue a
    let y ← digitValue b
    let z ← digitValue c
    let w ← digitValue d
    let tail ← decodeChars rest
    return UInt8.ofNat (x * 4 + y / 16) :: UInt8.ofNat (y % 16 * 16 + z / 4) ::
      UInt8.ofNat (z % 4 * 64 + w) :: tail
  | _ => none

def encode (bs : Bytes) : String := String.ofList (encodeChars bs)

def decode (s : String) : Option Bytes := decodeChars s.toList

theorem digitValue_digit {n : Nat} (h : n < 64) : digitValue (digit n) = some n := by
  have : ∀ n : Fin 64, digitValue (digit n) = some n.val := by decide
  exact this ⟨n, h⟩

theorem digit_ne_pad {n : Nat} (h : n < 64) : digit n ≠ '=' := by
  have : ∀ n : Fin 64, digit n ≠ '=' := by decide
  exact this ⟨n, h⟩

theorem byte_of_parts {a : UInt8} {n : Nat} (h : n = a.toNat) : UInt8.ofNat n = a := by
  subst h; simp

theorem decodeChars_encodeChars (bs : Bytes) : decodeChars (encodeChars bs) = some bs := by
  fun_induction encodeChars bs with
  | case1 => rfl
  | case2 a =>
    have ha := a.toNat_lt
    simp only [decodeChars, Option.bind_eq_bind]
    rw [digitValue_digit (by omega), digitValue_digit (by omega)]
    simp only [Option.bind_some]
    rw [if_pos (by omega), byte_of_parts (a := a) (by omega)]
  | case3 a b =>
    have ha := a.toNat_lt
    have hb := b.toNat_lt
    rw [decodeChars]
    · rw [digitValue_digit (by omega), digitValue_digit (by omega), digitValue_digit (by omega)]
      simp only [Option.bind_eq_bind, Option.bind_some]
      rw [if_pos (by omega), byte_of_parts (a := a) (by omega), byte_of_parts (a := b) (by omega)]
    · simpa using digit_ne_pad (by omega)
  | case4 a b c rest ih =>
    have ha := a.toNat_lt
    have hb := b.toNat_lt
    have hc := c.toNat_lt
    rw [decodeChars]
    · rw [digitValue_digit (by omega), digitValue_digit (by omega), digitValue_digit (by omega),
        digitValue_digit (by omega), ih]
      simp only [Option.bind_eq_bind, Option.bind_some]
      rw [byte_of_parts (a := a) (by omega), byte_of_parts (a := b) (by omega), byte_of_parts
        (a := c) (by omega)]
      rfl
    · intro h; exact absurd h (digit_ne_pad (by omega))
    · intro h; exact absurd h (digit_ne_pad (by omega))

theorem decode_encode (bs : Bytes) : decode (encode bs) = some bs := by
  simp [decode, encode, decodeChars_encodeChars]

end Base64

end EnvOperator
