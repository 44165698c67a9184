import EnvOperator.Text.Digit

/-! # Digits read back

A number written with a fixed count of digits is read back from the front of any
text, whatever follows.
-/
namespace EnvOperator
namespace Text

theorem decimalDigit_digitChar {n : Nat} (h : n < 10) : decimalDigit (digitChar n) = some n := by
  have : ∀ n : Fin 10, decimalDigit (digitChar n) = some n.val := by decide
  exact this ⟨n, h⟩

theorem isWhite_digitChar {n : Nat} (h : n < 10) : isWhite (digitChar n) = false := by
  have : ∀ n : Fin 10, isWhite (digitChar n) = false := by decide
  exact this ⟨n, h⟩

theorem go_fixedDigits (width : Nat) :
    ∀ (most value count n : Nat) (cs : List Char), n < tenTo width →
    takeNumber.go (most + width) value count (fixedDigits width n ++ cs) =
      takeNumber.go most (value * tenTo width + n) (count + width) cs := by
  induction width with
  | zero =>
    intro most value count n cs h; simp only [tenTo] at h;
      simp [fixedDigits, tenTo, show n = 0 by omega]
  | succ w ih =>
    intro most value count n cs h
    have h' : n / 10 < tenTo w := by simp only [tenTo] at h; omega
    have := ih (most + 1) value count (n / 10) (digitChar (n % 10) :: cs) h'
    rw [show most + (w + 1) = most + 1 + w by omega]
    simp only [fixedDigits, List.append_assoc, List.singleton_append, this]
    simp only [takeNumber.go, decimalDigit_digitChar (Nat.mod_lt n (by decide : 10 > 0))]
    congr 1
    have : value * (tenTo w * 10) = value * tenTo w * 10 := by rw [Nat.mul_assoc]
    simp only [tenTo]
    omega

theorem number?_fixedDigits (width n : Nat) (cs : List Char) (hw : 0 < width)
    (h : n < tenTo width) : number? width (fixedDigits width n ++ cs) = some (n, cs) := by
  have := go_fixedDigits width 0 0 0 n cs h
  simp only [Nat.zero_add, Nat.zero_mul] at this
  cases width with
  | zero => omega
  | succ w => simp [number?, takeNumber, this, takeNumber.go]

theorem skipWhite_fixedDigits (width n : Nat) (cs : List Char) (hw : 0 < width) :
    skipWhite (fixedDigits width n ++ cs) = fixedDigits width n ++ cs := by
  induction width generalizing n cs with
  | zero => omega
  | succ w ih =>
    simp only [fixedDigits, List.append_assoc, List.singleton_append]
    cases w with
    | zero => simp [fixedDigits, skipWhite, isWhite_digitChar (Nat.mod_lt n (by decide : 10 > 0))]
    | succ w => exact ih (n / 10) _ (by omega)

theorem number?_of_stop (most : Nat) {width n : Nat} {c : Char} (cs : List Char) (hw : 0 < width)
    (hm : width ≤ most) (h : n < tenTo width) (hc : decimalDigit c = none) :
    number? most (fixedDigits width n ++ c :: cs) = some (n, c :: cs) := by
  obtain ⟨k, rfl⟩ := Nat.exists_eq_add_of_le' hm
  have := go_fixedDigits width k 0 0 n (c :: cs) h
  simp only [Nat.zero_add, Nat.zero_mul] at this
  cases width with
  | zero => omega
  | succ w => cases k <;> simp_all [number?, takeNumber, takeNumber.go]

theorem length_fixedDigits (width n : Nat) : (fixedDigits width n).length = width := by
  induction width generalizing n with
  | zero => rfl
  | succ w ih => simp [fixedDigits, ih]

theorem exists_fixedDigits_succ (width n : Nat) :
    ∃ d cs, d < 10 ∧ fixedDigits (width + 1) n = digitChar d :: cs := by
  induction width generalizing n with
  | zero => exact ⟨n % 10, [], Nat.mod_lt _ (by decide), rfl⟩
  | succ w ih =>
    obtain ⟨d, cs, hd, h⟩ := ih (n / 10)
    exact ⟨d, cs ++ [digitChar (n % 10)], hd, by rw [fixedDigits, h]; rfl⟩

end Text

end EnvOperator
