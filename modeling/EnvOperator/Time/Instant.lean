/-! # Calendar dates and instants

An instant is a moment of universal time: a date of the Gregorian calendar, the
second of that day and a fraction in nanoseconds. A fraction of a second or more
marks a leap second, which may follow the last second of any minute.
-/
namespace EnvOperator

def isLeapYear (year : Int) : Bool := year % 4 == 0 && (year % 100 != 0 || year % 400 == 0)

def daysIn (year : Int) (month : Nat) : Nat :=
  if month = 2 then if isLeapYear year then 29 else 28
  else if month = 4 ∨ month = 6 ∨ month = 9 ∨ month = 11 then 30 else 31

/-- The years a calendar date can lie in. -/
def firstYear : Int := -262143
def lastYear : Int := 262142

structure Date where
  year : Int
  month : Nat
  day : Nat
  valid : firstYear ≤ year ∧ year ≤ lastYear ∧ 1 ≤ month ∧ month ≤ 12 ∧ 1 ≤ day ∧
    day ≤ daysIn year month
deriving DecidableEq

namespace Date

def of? (year : Int) (month day : Nat) : Option Date :=
  if h : firstYear ≤ year ∧ year ≤ lastYear ∧ 1 ≤ month ∧ month ≤ 12 ∧ 1 ≤ day ∧
    day ≤ daysIn year month then
    some ⟨year, month, day, h⟩
  else none

def epoch : Date := ⟨1970, 1, 1, by decide⟩

def next? (d : Date) : Option Date :=
  (of? d.year d.month (d.day + 1)).or ((of? d.year (d.month + 1) 1).or (of? (d.year + 1) 1 1))

def previous? (d : Date) : Option Date :=
  if d.day = 1 then
    if d.month = 1 then of? (d.year - 1) 12 31
      else of? d.year (d.month - 1) (daysIn d.year (d.month - 1))
  else of? d.year d.month (d.day - 1)

end Date

structure Instant where
  date : Date
  second : Nat
  nano : Nat
  valid : second < 86400 ∧ nano < 2000000000 ∧ (1000000000 ≤ nano → second % 60 = 59)
deriving DecidableEq

namespace Instant

def of? (date : Date) (second nano : Nat) : Option Instant :=
  if h : second < 86400 ∧ nano < 2000000000 ∧ (1000000000 ≤ nano → second % 60 = 59) then
    some ⟨date, second, nano, h⟩
  else none

def epoch : Instant := ⟨.epoch, 0, 0, by decide⟩

/-- The instant at which clocks that are `offset` seconds ahead show `clock`. -/
def atOffset? (clock : Instant) (offset : Int) : Option Instant :=
  let second := (clock.second : Int) - offset
  if second < 0 then do of? (← clock.date.previous?) (second + 86400).toNat clock.nano
  else if 86400 ≤ second then do of? (← clock.date.next?) (second - 86400).toNat clock.nano
  else of? clock.date second.toNat clock.nano

end Instant

/-- An instant given to the second; a leap second is one too. -/
structure Timestamp where
  instant : Instant
  whole : instant.nano % 1000000000 = 0
deriving DecidableEq

namespace Timestamp

def epoch : Timestamp := ⟨.epoch, rfl⟩

/-- Cut off the fraction. -/
def ofInstant (t : Instant) : Timestamp :=
  ⟨⟨t.date, t.second, t.nano / 1000000000 * 1000000000, by have := t.valid; omega⟩, by simp⟩

@[simp] theorem ofInstant_instant (t : Timestamp) : ofInstant t.instant = t := by
  obtain ⟨⟨date, second, nano, valid⟩, whole⟩ := t
  simp only [ofInstant, mk.injEq, Instant.mk.injEq, true_and]
  simp only at whole
  omega

end Timestamp
end EnvOperator
