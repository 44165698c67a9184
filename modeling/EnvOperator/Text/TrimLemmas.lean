import EnvOperator.Text.Trim
import Mathlib.Data.List.TakeWhile

/-! # Lemmas about trimming and cutting texts -/
namespace EnvOperator
namespace Text
variable {c : Char} {front s rest : String} {xs cs ds : List Char}

theorem stripChars_eq_some : stripChars xs cs = some ds ↔ cs = xs ++ ds := by
  induction xs generalizing cs with
  | nil => simp [stripChars]
  | cons x xs ih =>
    cases cs with
    | nil => simp [stripChars]
    | cons d cs =>
      by_cases h : x = d
      · simp [stripChars, h, ih]
      · simp [stripChars, h, Ne.symm h]

theorem startsWith_iff : startsWith front s = true ↔ ∃ rest, s = front ++ rest := by
  unfold startsWith
  rw [Option.isSome_iff_exists]
  constructor
  · rintro ⟨ds, h⟩
    refine ⟨String.ofList ds, String.toList_injective ?_⟩
    rw [String.toList_append, String.toList_ofList]
    exact stripChars_eq_some.mp h
  · rintro ⟨rest, rfl⟩
    exact ⟨rest.toList, stripChars_eq_some.mpr String.toList_append⟩

theorem startsWith_append (front rest : String) : startsWith front (front ++ rest) = true :=
  startsWith_iff.mpr ⟨rest, rfl⟩

/-- Trimming cuts a text in two, and of the end it leaves nothing. -/
theorem exists_trimEnd (c : Char) (s : String) : ∃ rest, s = trimEnd c s ++ rest := by
  refine ⟨String.ofList (s.toList.reverse.takeWhile (· == c)).reverse, String.toList_injective ?_⟩
  have hsplit := congrArg List.reverse
    (List.takeWhile_append_dropWhile (p := (· == c)) (l := s.toList.reverse))
  rw [List.reverse_append, List.reverse_reverse] at hsplit
  rw [String.toList_append, trimEnd, String.toList_ofList, String.toList_ofList]
  exact hsplit.symm

theorem startsWith_of_trimEnd (h : startsWith front (trimEnd c s) = true) :
    startsWith front s = true := by
  obtain ⟨rest, hrest⟩ := startsWith_iff.mp h
  obtain ⟨tail, htail⟩ := exists_trimEnd c s
  rw [hrest, String.append_assoc] at htail
  exact startsWith_iff.mpr ⟨_, htail⟩

/-- What is trimmed away altogether consists of the one character. -/
theorem eq_of_trimEnd_eq_empty (h : trimEnd c s = "") {d : Char} (hd : d ∈ s.toList) : d = c := by
  have hnil : s.toList.reverse.dropWhile (· == c) = [] := by
    have hchars := congrArg String.toList h
    rw [trimEnd, String.toList_ofList] at hchars
    exact List.reverse_eq_nil_iff.mp hchars
  simpa using List.dropWhile_eq_nil_iff.mp hnil d (List.mem_reverse.mpr hd)

theorem startsWith_of_trimEnd_eq_empty (h : trimEnd c s = "") (hfront : ∃ d ∈ front.toList, d ≠ c) :
    startsWith front s = false := by
  obtain ⟨d, hd, hne⟩ := hfront
  refine Bool.eq_false_iff.mpr fun hstarts => ?_
  obtain ⟨rest, rfl⟩ := startsWith_iff.mp hstarts
  refine hne (eq_of_trimEnd_eq_empty h ?_)
  rw [String.toList_append]
  exact List.mem_append_left _ hd

/-- A front that something else follows is not reached from the end. -/
theorem trimEnd_append (front : String) (h : trimEnd c rest ≠ "") :
    trimEnd c (front ++ rest) = front ++ trimEnd c rest := by
  have hne : (rest.toList.reverse.dropWhile (· == c)).isEmpty = false := by
    rw [List.isEmpty_eq_false_iff]
    intro hnil
    apply h
    rw [trimEnd, trimEndChars, hnil]
    rfl
  apply String.toList_injective
  rw [String.toList_append, trimEnd, trimEnd, String.toList_ofList, String.toList_ofList,
    String.toList_append]
  unfold trimEndChars
  rw [List.reverse_append, List.dropWhile_append, hne]
  simp

/-- Copies of a character at the end of a text that ends otherwise are what is trimmed. -/
theorem trimEnd_append_replicate (h : s.toList.getLast? ≠ some c) (times : Nat) :
    trimEnd c (s ++ String.ofList (List.replicate times c)) = s := by
  have hself : s.toList.reverse.dropWhile (· == c) = s.toList.reverse := by
    rw [List.dropWhile_eq_self_iff]
    intro hlength hlast
    rw [List.getLast?_eq_head?_reverse, List.head?_eq_getElem?,
      List.getElem?_eq_getElem hlength] at h
    exact h (congrArg some (eq_of_beq hlast))
  apply String.toList_injective
  rw [trimEnd, String.toList_ofList, trimEndChars, String.toList_append, String.toList_ofList,
    List.reverse_append, List.reverse_replicate, List.dropWhile_append_of_pos (by simp), hself,
    List.reverse_reverse]

theorem dropFront_eq_self (h : stripChars xs cs = none) (times : Nat) :
    dropFront xs times cs = cs := by
  cases times with
  | zero => rfl
  | succ times => rw [dropFront, h]

theorem dropRepeated_eq_self (h : startsWith front s = false) : dropRepeated front s = s := by
  have hnone : stripChars front.toList s.toList = none := by simpa [startsWith] using h
  rw [dropRepeated, dropFront_eq_self hnone, String.ofList_toList]

/-- A front that does not stand there again is removed once. -/
theorem dropRepeated_append (hfront : front ≠ "") (h : startsWith front rest = false) :
    dropRepeated front (front ++ rest) = rest := by
  have hnone : stripChars front.toList rest.toList = none := by simpa [startsWith] using h
  have honce : stripChars front.toList (front ++ rest).toList = some rest.toList :=
    stripChars_eq_some.mpr String.toList_append
  rw [dropRepeated]
  cases hlength : (front ++ rest).toList.length with
  | zero =>
    rw [String.toList_append, List.length_append] at hlength
    have hempty : front.toList = [] := List.eq_nil_of_length_eq_zero (by omega)
    exact absurd (String.toList_eq_nil_iff.mp hempty) hfront
  | succ times =>
    rw [dropFront, honce]
    dsimp only
    rw [dropFront_eq_self hnone, String.ofList_toList]

/-- A text can be cut at the first place of a character in one way only. -/
theorem cut_inj {before before' after after' : List Char} (h : c ∉ before) (h' : c ∉ before') :
    before ++ c :: after = before' ++ c :: after' ↔ before = before' ∧ after = after' := by
  have hfirst {xs ys : List Char} (hxs : c ∉ xs) : (xs ++ c :: ys).takeWhile (· != c) = xs := by
    rw [List.takeWhile_append_of_pos fun d hd => bne_iff_ne.mpr (ne_of_mem_of_not_mem hd hxs)]
    simp
  constructor
  · intro heq
    have hbefore : before = before' := by rw [← hfirst h, heq, hfirst h']
    rw [hbefore, List.append_cancel_left_eq, List.cons.injEq] at heq
    exact ⟨hbefore, heq.2⟩
  · rintro ⟨rfl, rfl⟩
    rfl

/-- Trimming does not see how often the character stands around the text. -/
theorem trim_surrounded (c : Char) (s : String) (before after : Nat) :
    trim c
      (String.ofList (List.replicate before c) ++ s ++ String.ofList (List.replicate after c)) =
        trim c s := by
  have hfront (cs : List Char) :
      (List.replicate before c ++ cs).dropWhile (· == c) = cs.dropWhile (· == c) :=
    List.dropWhile_append_of_pos (by simp)
  have hback (cs : List Char) :
      trimEndChars c (cs ++ List.replicate after c) = trimEndChars c cs := by
    unfold trimEndChars
    rw [List.reverse_append, List.reverse_replicate, List.dropWhile_append_of_pos (by simp)]
  apply String.toList_injective
  simp only [trim, String.toList_ofList, String.toList_append, List.append_assoc, hfront]
  rw [List.dropWhile_append]
  split
  · rename_i hempty
    rw [List.isEmpty_iff.mp hempty]
    simp [trimEndChars]
  · exact hback _

/-- A trimmed text does not begin with the character. -/
theorem head?_trim (c : Char) (s : String) : (trim c s).toList.head? ≠ some c := by
  intro h
  have htrim : trim c s = trimEnd c (trimStart c s) := by simp [trim, trimEnd, trimStart]
  obtain ⟨rest, hrest⟩ := exists_trimEnd c (trimStart c s)
  have hhead : (s.toList.dropWhile (· == c)).head? = some c := by
    have hchars := congrArg (fun t : String => t.toList.head?) hrest
    rw [String.toList_append, List.head?_append, ← htrim, h, trimStart,
      String.toList_ofList] at hchars
    exact hchars
  have hnot := List.head?_dropWhile_not (· == c) s.toList
  rw [hhead] at hnot
  simp at hnot

end Text
end EnvOperator
