import EnvOperator.Text.DigitLemmas
import EnvOperator.Time.Rfc3339

/-! # Time stamps read back

Every instant is read back from its time stamp, to the nanosecond and with its
leap second.
-/
namespace EnvOperator
namespace Rfc3339
open Text

theorem skipWhite_of_not_white {c : Char} (cs : List Char) (h : isWhite c = false) :
    skipWhite (c :: cs) = c :: cs := by
  simp [skipWhite, h]

theorem digitChar_ne_sign {n : Nat} (h : n < 10) : digitChar n ≠ '-' ∧ digitChar n ≠ '+' := by
  have : ∀ n : Fin 10, digitChar n ≠ '-' ∧ digitChar n ≠ '+' := by decide
  exact this ⟨n, h⟩

theorem lt_yearWidth {n : Nat} (h : n ≤ 999999) : n < tenTo (yearWidth n) ∧ 0 < yearWidth n := by
  unfold yearWidth
  split
  · simp only [tenTo]; omega
  · split <;> simp only [tenTo] <;> omega

theorem readYear_yearChars {year : Int} (h : firstYear ≤ year ∧ year ≤ lastYear) (cs : List Char) :
    readYear (yearChars year ++ '-' :: cs) = some (year, '-' :: cs) := by
  simp only [firstYear, lastYear] at h
  have hw := lt_yearWidth (n := year.natAbs) (by omega)
  have hdash : decimalDigit '-' = none := by decide
  unfold yearChars
  split
  · rename_i hy
    have h4 : yearWidth year.natAbs = 4 := if_pos (by omega)
    simp only [readYear, skipWhite_fixedDigits _ _ _ hw.2]
    obtain ⟨d, rest, hd, hdigits⟩ := exists_fixedDigits_succ 3 year.natAbs
    have hne := digitChar_ne_sign hd
    have hn := number?_of_stop 4 cs hw.2 (by omega) hw.1 hdash
    rw [h4] at hn ⊢
    rw [hdigits] at hn ⊢
    split
    · rename_i heq; simp_all
    · rename_i heq; simp_all
    · rw [hn]
      simp only [Option.map_some, Option.some.injEq, Prod.mk.injEq, and_true]
      omega
  · have hn := number?_of_stop (fixedDigits (yearWidth year.natAbs) year.natAbs ++ '-' :: cs).length
      cs hw.2
      (by simp [length_fixedDigits]) hw.1 hdash
    split
    · simp only [List.cons_append, readYear,
        skipWhite_of_not_white _ (show isWhite '-' = false by decide)]
      rw [hn]
      simp only [Option.map_some, Option.some.injEq, Prod.mk.injEq, and_true]
      omega
    · simp only [List.cons_append, readYear,
        skipWhite_of_not_white _ (show isWhite '+' = false by decide)]
      rw [hn]
      simp only [Option.map_some, Option.some.injEq, Prod.mk.injEq, and_true]
      omega

theorem Date.of?_self (d : Date) : Date.of? d.year d.month d.day = some d := dif_pos d.valid

theorem Instant.of?_self (t : Instant) : Instant.of? t.date t.second t.nano = some t :=
  dif_pos t.valid

theorem daysIn_le (year : Int) (month : Nat) : daysIn year month ≤ 31 := by
  unfold daysIn
  repeat' split
  all_goals omega

theorem readDate_chars (d : Date) (cs : List Char) :
    readDate
      (yearChars d.year ++ '-' :: (fixedDigits 2 d.month ++ '-' :: (fixedDigits 2 d.day ++ cs))) =
      some (d, cs) := by
  have hv := d.valid
  have hd := daysIn_le d.year d.month
  simp only [readDate, readYear_yearChars ⟨hv.1, hv.2.1⟩, Option.bind_eq_bind, Option.bind_some,
    expect, skipWhite_of_not_white _ (show isWhite '-' = false by decide), if_true,
    skipWhite_fixedDigits _ _ _ (show 0 < 2 by decide),
    number?_fixedDigits 2 d.month _ (by decide) (by simp only [tenTo]; omega),
    number?_fixedDigits 2 d.day _ (by decide) (by simp only [tenTo]; omega), Date.of?_self]
  rfl

theorem readFraction_fractionChars {nano : Nat} (h : nano < 1000000000) {c : Char} (cs : List Char)
    (hc : decimalDigit c = none) (hp : c ≠ '.') :
    readFraction (fractionChars nano ++ c :: cs) = some (nano, c :: cs) := by
  have stop (width n : Nat) (hw : width ≤ 9) (hw0 : 0 < width) (hn : n < tenTo width) :
      readFraction (('.' :: fixedDigits width n) ++ c :: cs) =
        some (n * tenTo (9 - width), c :: cs) := by
    obtain ⟨k, hk⟩ := Nat.exists_eq_add_of_le' hw
    have := go_fixedDigits width k 0 0 n (c :: cs) hn
    simp only [Nat.zero_add, Nat.zero_mul, ← hk] at this
    obtain ⟨w, rfl⟩ := Nat.exists_eq_add_of_lt hw0
    cases k <;> simp_all [readFraction, takeNumber, takeNumber.go]
  unfold fractionChars
  split
  · rename_i h0
    subst h0
    simp only [List.nil_append, readFraction]
    split
    · rename_i heq; simp_all
    · rfl
  · split
    · rw [stop 3 _ (by decide) (by decide) (by simp only [tenTo]; omega)]
      simp [tenTo]; omega
    · split
      · rw [stop 6 _ (by decide) (by decide) (by simp only [tenTo]; omega)]
        simp [tenTo]; omega
      · rw [stop 9 _ (by decide) (by decide) (by simp only [tenTo]; omega)]
        simp [tenTo]

theorem readTime_chars {hour minute second nano : Nat} (hh : hour < 24) (hm : minute < 60)
    (hs : second ≤ 60) (hn : nano < 1000000000) {c : Char} (cs : List Char)
    (hc : decimalDigit c = none) (hp : c ≠ '.') :
    readTime (fixedDigits 2 hour ++ ':' :: (fixedDigits 2 minute ++ ':' :: (fixedDigits 2 second ++
      (fractionChars nano ++ c :: cs)))) =
      if second = 60 then some (hour * 3600 + minute * 60 + 59, 1000000000 + nano, c :: cs)
      else some (hour * 3600 + minute * 60 + second, nano, c :: cs) := by
  simp only [readTime, Option.bind_eq_bind, Option.bind_some, expect,
    skipWhite_of_not_white _ (show isWhite ':' = false by decide), if_true,
    skipWhite_fixedDigits _ _ _ (show 0 < 2 by decide),
    number?_fixedDigits 2 hour _ (by decide) (by simp only [tenTo]; omega),
    number?_fixedDigits 2 minute _ (by decide) (by simp only [tenTo]; omega),
    number?_fixedDigits 2 second _ (by decide) (by simp only [tenTo]; omega),
    readFraction_fractionChars hn cs hc hp]
  rw [if_neg (by omega)]
  rfl

theorem atOffset?_zero (t : Instant) : t.atOffset? 0 = some t := by
  have hv := t.valid
  unfold Instant.atOffset?
  simp only [Int.sub_zero]
  rw [if_neg (by omega), if_neg (by omega)]
  simpa using Instant.of?_self t

/-- A date and time with an offset is read as the instant at which clocks at that offset show it. -/
theorem readChars_clockChars (t : Instant) {c : Char} {cs : List Char} {offset : Int}
    (hc : decimalDigit c = none) (hp : c ≠ '.')
    (hoffset : readOffset (skipWhite (c :: cs)) = some (offset, [])) :
    readChars (clockChars t ++ c :: cs) = t.atOffset? offset := by
  have hv := t.valid
  simp only [clockChars, List.append_assoc, List.cons_append, readChars, readDate_chars,
    Option.bind_eq_bind, Option.bind_some]
  rw [readTime_chars (by omega) (by omega) (by omega) (by omega) cs hc hp]
  have hof := Instant.of?_self t
  have hend : (skipWhite []).isEmpty = true := rfl
  split
  · rename_i hs
    have h1 : t.second / 3600 * 3600 + t.second / 60 % 60 * 60 + 59 = t.second := by omega
    have h2 : 1000000000 + t.nano % 1000000000 = t.nano := by omega
    simp only [Option.bind_some, h1, h2, hof, hoffset, hend, if_true]
  · rename_i hs
    have h1 : t.second / 3600 * 3600 + t.second / 60 % 60 * 60 +
        (t.second % 60 + t.nano / 1000000000) = t.second := by
      omega
    have h2 : t.nano % 1000000000 = t.nano := by omega
    simp only [Option.bind_some, h1, h2, hof, hoffset, hend, if_true]

theorem readChars_writeChars (t : Instant) : readChars (writeChars t) = some t := by
  have hzone : readOffset (skipWhite ['Z']) = some (0, []) := by decide
  rw [writeChars, readChars_clockChars t (by decide) (by decide) hzone, atOffset?_zero]

theorem read_write (t : Instant) : read (write t) = some t := by
  simp [read, write, readChars_writeChars]

end Rfc3339
end EnvOperator
