import EnvOperator.Time.Rfc3339Lemmas

/-! # Time stamps at other offsets

A clock may run ahead of universal time, or behind it. What it shows is read as the instant at which
it shows it, to the nanosecond, also where that instant lies in another day, month or year.
-/
namespace EnvOperator
open Text

theorem le_daysIn (year : Int) (month : Nat) : 28 ≤ daysIn year month := by
  unfold daysIn
  repeat' split
  all_goals omega

namespace Date
variable {d e : Date} {year : Int} {month day : Nat}

theorem of?_eq_some :
    of? year month day = some d ↔ d.year = year ∧ d.month = month ∧ d.day = day := by
  constructor
  · intro h
    obtain ⟨_, hd⟩ := Option.dite_none_right_eq_some.mp h
    cases hd
    exact ⟨rfl, rfl, rfl⟩
  · rintro ⟨rfl, rfl, rfl⟩
    exact Rfc3339.Date.of?_self d

theorem of?_eq_none (h : ¬ (month ≤ 12 ∧ day ≤ daysIn year month)) : of? year month day = none :=
  dif_neg fun hv => h ⟨hv.2.2.2.1, hv.2.2.2.2.2⟩

theorem isSome_of?
    (h : firstYear ≤ year ∧ year ≤ lastYear ∧ 1 ≤ month ∧ month ≤ 12 ∧ 1 ≤ day ∧
      day ≤ daysIn year month) :
    (of? year month day).isSome := by
  rw [of?, dif_pos h]
  rfl

/-- One date is the day after another: in the same month, or the first of the next month or of the
next year. -/
def IsNext (d e : Date) : Prop :=
  (e.year = d.year ∧ e.month = d.month ∧ e.day = d.day + 1) ∨
  (e.year = d.year ∧ e.month = d.month + 1 ∧ e.day = 1 ∧ d.day = daysIn d.year d.month) ∨
  (e.year = d.year + 1 ∧ e.month = 1 ∧ e.day = 1 ∧ d.month = 12 ∧ d.day = 31)

theorem next?_eq (d : Date) : d.next? =
    if d.day < daysIn d.year d.month then of? d.year d.month (d.day + 1)
    else if d.month < 12 then of? d.year (d.month + 1) 1
    else of? (d.year + 1) 1 1 := by
  have hv := d.valid
  have hdays := le_daysIn d.year (d.month + 1)
  unfold next?
  -- After the last day of a month there is no day more in it, and after December no month more in
  -- the year.
  by_cases hday : d.day < daysIn d.year d.month
  · have hsome : (of? d.year d.month (d.day + 1)).isSome := isSome_of? (by omega)
    rw [if_pos hday, Option.or_of_isSome hsome]
  · have hday' : of? d.year d.month (d.day + 1) = none := of?_eq_none (by omega)
    rw [if_neg hday, hday', Option.none_or]
    by_cases hmonth : d.month < 12
    · have hsome : (of? d.year (d.month + 1) 1).isSome := isSome_of? (by omega)
      rw [if_pos hmonth, Option.or_of_isSome hsome]
    · have hmonth' : of? d.year (d.month + 1) 1 = none := of?_eq_none (by omega)
      rw [if_neg hmonth, hmonth', Option.none_or]

theorem daysIn_of_december (h : d.month = 12) : daysIn d.year d.month = 31 := by
  rw [h]
  rfl

theorem daysIn_congr (hyear : e.year = d.year) (hmonth : e.month = d.month) :
    daysIn e.year e.month = daysIn d.year d.month := by
  rw [hyear, hmonth]

theorem next?_eq_some_iff : d.next? = some e ↔ d.IsNext e := by
  have hd := d.valid
  have he := e.valid
  have hdecember := daysIn_of_december (d := d)
  -- Dates in the same month are in a month of the same length, which arithmetic alone does not
  -- know.
  have hsame := daysIn_congr (d := d) (e := e)
  rw [next?_eq, IsNext]
  split
  · rw [of?_eq_some]
    omega
  · split
    · rw [of?_eq_some]
      omega
    · rw [of?_eq_some]
      omega

theorem previous?_eq_some_iff : e.previous? = some d ↔ d.IsNext e := by
  have hd := d.valid
  have he := e.valid
  have hdecember := daysIn_of_december (d := d)
  rw [previous?, IsNext]
  split
  · split
    · rw [of?_eq_some]
      omega
    · rw [of?_eq_some]
      have hbefore (h : d.year = e.year) (h' : d.month = e.month - 1) :
          daysIn e.year (e.month - 1) = daysIn d.year d.month := by rw [h, h']
      omega
  · rw [of?_eq_some]
    omega

/-- Only the last year of the calendar has a day without a next one. -/
theorem exists_next? (h : d.year < lastYear) : ∃ e, d.next? = some e := by
  have hd := d.valid
  have hdays := le_daysIn d.year (d.month + 1)
  have hnewYear := le_daysIn (d.year + 1) 1
  rw [← Option.isSome_iff_exists, next?_eq]
  split
  · exact isSome_of? (by omega)
  · split
    · exact isSome_of? (by omega)
    · exact isSome_of? (by omega)

theorem exists_previous? (h : firstYear < d.year) : ∃ e, d.previous? = some e := by
  have hd := d.valid
  have hdays := le_daysIn d.year (d.month - 1)
  have hdecember : daysIn (d.year - 1) 12 = 31 := rfl
  rw [← Option.isSome_iff_exists, previous?]
  split
  · split
    · exact isSome_of? (by omega)
    · exact isSome_of? (by omega)
  · exact isSome_of? (by omega)

end Date

namespace Instant
variable {t clock : Instant} {offset : Int}

theorem of?_eq_some {date : Date} {second nano : Nat} :
    of? date second nano = some t ↔ t.date = date ∧ t.second = second ∧ t.nano = nano := by
  constructor
  · intro h
    obtain ⟨_, ht⟩ := Option.dite_none_right_eq_some.mp h
    cases ht
    exact ⟨rfl, rfl, rfl⟩
  · rintro ⟨rfl, rfl, rfl⟩
    exact Rfc3339.Instant.of?_self t

/-- The instant lies on the day that the clock shows, on the day before or on the day after. -/
theorem atOffset?_eq_some (hday : -86400 < offset ∧ offset < 86400) :
    clock.atOffset? offset = some t ↔ t.nano = clock.nano ∧
    ((t.date = clock.date ∧ (t.second : Int) = clock.second - offset) ∨
      (t.date.IsNext clock.date ∧ (t.second : Int) = clock.second - offset + 86400) ∨
      (clock.date.IsNext t.date ∧ (t.second : Int) = clock.second - offset - 86400)) := by
  have ht := t.valid
  have hclock := clock.valid
  unfold atOffset?
  dsimp only
  split
  · simp only [Option.bind_eq_bind, Option.bind_eq_some_iff, of?_eq_some,
      Date.previous?_eq_some_iff]
    constructor
    · rintro ⟨_, hprevious, rfl, hsecond, hnano⟩
      exact ⟨hnano, .inr (.inl ⟨hprevious, by omega⟩)⟩
    · rintro ⟨hnano, ⟨_, hsecond⟩ | ⟨hprevious, hsecond⟩ | ⟨_, hsecond⟩⟩
      · omega
      · exact ⟨_, hprevious, rfl, by omega, hnano⟩
      · omega
  · split
    · simp only [Option.bind_eq_bind, Option.bind_eq_some_iff, of?_eq_some, Date.next?_eq_some_iff]
      constructor
      · rintro ⟨_, hnext, rfl, hsecond, hnano⟩
        exact ⟨hnano, .inr (.inr ⟨hnext, by omega⟩)⟩
      · rintro ⟨hnano, ⟨_, hsecond⟩ | ⟨_, hsecond⟩ | ⟨hnext, hsecond⟩⟩
        · omega
        · omega
        · exact ⟨_, hnext, rfl, by omega, hnano⟩
    · rw [of?_eq_some]
      constructor
      · rintro ⟨hdate, hsecond, hnano⟩
        exact ⟨hnano, .inl ⟨hdate, by omega⟩⟩
      · rintro ⟨hnano, ⟨hdate, hsecond⟩ | ⟨_, hsecond⟩ | ⟨_, hsecond⟩⟩
        · exact ⟨hdate, by omega, hnano⟩
        · omega
        · omega

/-- What a clock shows at an instant is shown at no other one. -/
theorem atOffset?_neg_eq_some_iff (hday : -86400 < offset ∧ offset < 86400) :
    t.atOffset? (-offset) = some clock ↔ clock.atOffset? offset = some t := by
  rw [atOffset?_eq_some (by omega), atOffset?_eq_some hday]
  constructor
  · rintro ⟨hnano, ⟨hdate, hsecond⟩ | ⟨hdate, hsecond⟩ | ⟨hdate, hsecond⟩⟩
    · exact ⟨hnano.symm, .inl ⟨hdate.symm, by omega⟩⟩
    · exact ⟨hnano.symm, .inr (.inr ⟨hdate, by omega⟩)⟩
    · exact ⟨hnano.symm, .inr (.inl ⟨hdate, by omega⟩)⟩
  · rintro ⟨hnano, ⟨hdate, hsecond⟩ | ⟨hdate, hsecond⟩ | ⟨hdate, hsecond⟩⟩
    · exact ⟨hnano.symm, .inl ⟨hdate.symm, by omega⟩⟩
    · exact ⟨hnano.symm, .inr (.inr ⟨hdate, by omega⟩)⟩
    · exact ⟨hnano.symm, .inr (.inl ⟨hdate, by omega⟩)⟩

/-- Away from the ends of the calendar there is an instant at which a clock that is whole minutes
ahead or behind, and less than a day, shows a date and time. -/
theorem exists_atOffset? (hminutes : offset % 60 = 0) (hday : -86400 < offset ∧ offset < 86400)
    (hfirst : firstYear < clock.date.year) (hlast : clock.date.year < lastYear) :
    ∃ t, clock.atOffset? offset = some t := by
  have hv := clock.valid
  obtain ⟨before, hbefore⟩ := Date.exists_previous? hfirst
  obtain ⟨after, hafter⟩ := Date.exists_next? hlast
  have hof {second : Int} (date : Date)
      (h : 0 ≤ second ∧ second < 86400 ∧ second % 60 = clock.second % 60) :
      ∃ t, of? date second.toNat clock.nano = some t := ⟨_, dif_pos (by omega)⟩
  unfold atOffset?
  dsimp only
  rw [hbefore, hafter]
  split
  · exact hof before (by omega)
  · split
    · exact hof after (by omega)
    · exact hof clock.date (by omega)

end Instant

namespace Rfc3339

/-- How far a clock runs ahead of universal time or behind it, as a time stamp gives it. -/
structure Offset where
  behind : Bool
  hours : Nat
  minutes : Nat
  valid : hours < 24 ∧ minutes < 60

namespace Offset

/-- Seconds ahead of universal time. -/
def seconds (o : Offset) : Int :=
  let seconds : Int := o.hours * 3600 + o.minutes * 60
  if o.behind then -seconds else seconds

def sign (o : Offset) : Char := if o.behind then '-' else '+'

def digits (o : Offset) : List Char := fixedDigits 2 o.hours ++ ':' :: fixedDigits 2 o.minutes

theorem seconds_lt_day (o : Offset) : -86400 < o.seconds ∧ o.seconds < 86400 := by
  have hv := o.valid
  unfold seconds
  dsimp only
  split <;> omega

theorem seconds_mod_minute (o : Offset) : o.seconds % 60 = 0 := by
  unfold seconds
  dsimp only
  split <;> omega

end Offset

/-- A date and time as a clock at an offset shows it. -/
def writeAt (clock : Instant) (o : Offset) : String :=
  String.ofList (clockChars clock ++ o.sign :: o.digits)

theorem twoDigits_fixedDigits {n : Nat} (h : n < 100) (cs : List Char) :
    twoDigits (fixedDigits 2 n ++ cs) = some (n, cs) := by
  have hhigh : decimalDigit (digitChar (n / 10 % 10)) = some (n / 10 % 10) :=
    decimalDigit_digitChar (by omega)
  have hlow : decimalDigit (digitChar (n % 10)) = some (n % 10) := decimalDigit_digitChar (by omega)
  have hn : n / 10 % 10 * 10 + n % 10 = n := by omega
  simp [fixedDigits, twoDigits, hhigh, hlow, hn]

theorem digitChar_no_separator {n : Nat} (h : n < 10) :
    (digitChar n == ':' || isWhite (digitChar n)) = false := by
  have : ∀ n : Fin 10, (digitChar n == ':' || isWhite (digitChar n)) = false := by decide
  exact this ⟨n, h⟩

theorem dropWhile_fixedDigits (n : Nat) :
    (fixedDigits 2 n).dropWhile (fun c => c == ':' || isWhite c) = fixedDigits 2 n := by
  obtain ⟨d, rest, hd, hdigits⟩ := exists_fixedDigits_succ 1 n
  rw [hdigits, List.dropWhile_cons_of_neg (by simpa using digitChar_no_separator hd)]

theorem readOffset_digits (o : Offset) :
    readOffset (o.sign :: o.digits) = some (o.seconds, []) := by
  obtain ⟨behind, hours, minutes, hhours, hminutes⟩ := o
  have hread (cs : List Char) : twoDigits (fixedDigits 2 hours ++ cs) = some (hours, cs) :=
    twoDigits_fixedDigits (by omega) cs
  have hlast : twoDigits (fixedDigits 2 minutes) = some (minutes, []) := by
    simpa using twoDigits_fixedDigits (n := minutes) (by omega) []
  have hrange : ¬ (60 ≤ minutes ∨ 24 ≤ hours) := by omega
  cases behind with
  | false =>
    simp [readOffset, Offset.sign, Offset.digits, Offset.seconds, hread, dropWhile_fixedDigits,
      hlast, hrange]
  | true =>
    simp [readOffset, Offset.sign, Offset.digits, Offset.seconds, hread, dropWhile_fixedDigits,
      hlast, hrange]

theorem read_writeAt (clock : Instant) (o : Offset) :
    read (writeAt clock o) = clock.atOffset? o.seconds := by
  have hsign : decimalDigit o.sign = none ∧ o.sign ≠ '.' ∧ isWhite o.sign = false := by
    unfold Offset.sign
    split <;> decide
  rw [read, writeAt, String.toList_ofList]
  refine readChars_clockChars clock hsign.1 hsign.2.1 ?_
  rw [skipWhite_of_not_white _ hsign.2.2, readOffset_digits]

/-- An instant is read back from what a clock shows of it, whatever the offset of the clock. -/
theorem read_writeAt_of_shown {t clock : Instant} {o : Offset}
    (h : t.atOffset? (-o.seconds) = some clock) : read (writeAt clock o) = some t := by
  rw [read_writeAt, (Instant.atOffset?_neg_eq_some_iff o.seconds_lt_day).mp h]

/-- Away from the ends of the calendar every clock shows every instant. -/
theorem exists_shown (t : Instant) (o : Offset)
    (h : firstYear < t.date.year ∧ t.date.year < lastYear) :
    ∃ clock, t.atOffset? (-o.seconds) = some clock := by
  have hday := o.seconds_lt_day
  have hminutes := o.seconds_mod_minute
  exact Instant.exists_atOffset? (by omega) (by omega) h.1 h.2

end Rfc3339
end EnvOperator
