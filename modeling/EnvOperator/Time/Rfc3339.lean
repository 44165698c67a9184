import EnvOperator.Time.Instant
import EnvOperator.Text.Digit

/-! # RFC 3339 time stamps

Writing gives the date and time in universal time, with no fraction or one of
three, six or nine digits, whichever is the shortest that is exact. Reading also
takes other offsets, a space or a small `t` before the time, blanks between the
parts, and fractions of any length, of which nine digits count.
-/
namespace EnvOperator
namespace Rfc3339
open Text

/-! ## Writing -/

/-- Years have four digits, or as many more as they need. -/
def yearWidth (n : Nat) : Nat := if n ≤ 9999 then 4 else if n ≤ 99999 then 5 else 6

/-- Years of four digits stand alone, all others carry a sign. -/
def yearChars (year : Int) : List Char :=
  let digits := fixedDigits (yearWidth year.natAbs) year.natAbs
  if 0 ≤ year ∧ year ≤ 9999 then digits else (if year < 0 then '-' else '+') :: digits

def fractionChars (nano : Nat) : List Char :=
  if nano = 0 then []
  else if nano % 1000000 = 0 then '.' :: fixedDigits 3 (nano / 1000000)
  else if nano % 1000 = 0 then '.' :: fixedDigits 6 (nano / 1000)
  else '.' :: fixedDigits 9 nano

/-- Date and time without an offset. -/
def clockChars (t : Instant) : List Char :=
  let leap := t.nano / 1000000000
  yearChars t.date.year ++ '-' :: fixedDigits 2 t.date.month ++ '-' :: fixedDigits 2 t.date.day ++
    'T' :: fixedDigits 2 (t.second / 3600) ++ ':' :: fixedDigits 2 (t.second / 60 % 60) ++
    ':' :: fixedDigits 2 (t.second % 60 + leap) ++ fractionChars (t.nano % 1000000000)

def writeChars (t : Instant) : List Char := clockChars t ++ ['Z']

def write (t : Instant) : String := String.ofList (writeChars t)

/-- With the offset of universal time in figures. -/
def writeOffset (t : Instant) : String := String.ofList (clockChars t) ++ "+00:00"

/-! ## Reading -/

def expect (c : Char) : List Char → Option (List Char)
  | d :: rest => if d = c then some rest else none
  | [] => none

def readYear (cs : List Char) : Option (Int × List Char) :=
  match skipWhite cs with
  | '-' :: rest => (number? rest.length rest).map fun r => (-(r.1 : Int), r.2)
  | '+' :: rest => (number? rest.length rest).map fun r => ((r.1 : Int), r.2)
  | rest => (number? 4 rest).map fun r => ((r.1 : Int), r.2)

def readDate (cs : List Char) : Option (Date × List Char) := do
  let (year, cs) ← readYear cs
  let (month, cs) ← number? 2 (skipWhite (← expect '-' (skipWhite cs)))
  let (day, cs) ← number? 2 (skipWhite (← expect '-' (skipWhite cs)))
  return (← Date.of? year month day, cs)

/-- A fraction after a point, in nanoseconds. -/
def readFraction (cs : List Char) : Option (Nat × List Char) :=
  match cs with
  | '.' :: rest =>
    match takeNumber 9 rest with
    | (_, 0, _) => none
    | (value, count, rest) =>
      some (value * tenTo (9 - count), rest.dropWhile (fun c => (decimalDigit c).isSome))
  | _ => some (0, cs)

/-- The second of the day and the nanoseconds; second 60 is a leap second. -/
def readTime (cs : List Char) : Option (Nat × Nat × List Char) := do
  let (hour, cs) ← number? 2 (skipWhite cs)
  let (minute, cs) ← number? 2 (skipWhite (← expect ':' (skipWhite cs)))
  let (second, cs) ← number? 2 (skipWhite (← expect ':' (skipWhite cs)))
  let (nano, cs) ← readFraction cs
  if 24 ≤ hour ∨ 60 ≤ minute ∨ 61 ≤ second then none
  if second = 60 then return (hour * 3600 + minute * 60 + 59, 1000000000 + nano, cs)
  return (hour * 3600 + minute * 60 + second, nano, cs)

def twoDigits : List Char → Option (Nat × List Char)
  | a :: b :: rest => do return ((← decimalDigit a) * 10 + (← decimalDigit b), rest)
  | _ => none

/-- Seconds ahead of universal time. -/
def readOffset (cs : List Char) : Option (Int × List Char) :=
  let signedOffset (negative : Bool) (cs : List Char) : Option (Int × List Char) := do
    let (hours, cs) ← twoDigits cs
    let (minutes, cs) ← twoDigits (cs.dropWhile (fun c => c == ':' || isWhite c))
    if 60 ≤ minutes ∨ 24 ≤ hours then none
    let seconds : Int := hours * 3600 + minutes * 60
    return (if negative then -seconds else seconds, cs)
  match cs with
  | 'Z' :: rest => some (0, rest)
  | 'z' :: rest => some (0, rest)
  | '+' :: rest => signedOffset false rest
  | '-' :: rest => signedOffset true rest
  | '−' :: rest => signedOffset true rest
  | a :: b :: c :: rest =>
    if [a.toUpper, b.toUpper, c.toUpper] = ['U', 'T', 'C'] then some (0, rest) else none
  | _ => none

def readChars (cs : List Char) : Option Instant := do
  let (date, cs) ← readDate cs
  let cs ← match cs with
    | 'T' :: rest => some rest
    | 't' :: rest => some rest
    | ' ' :: rest => some rest
    | _ => none
  let (second, nano, cs) ← readTime cs
  let (offset, cs) ← readOffset (skipWhite cs)
  if (skipWhite cs).isEmpty then (← Instant.of? date second nano).atOffset? offset else none

def read (s : String) : Option Instant := readChars s.toList

end Rfc3339
end EnvOperator
