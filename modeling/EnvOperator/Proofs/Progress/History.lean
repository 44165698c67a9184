/-! # Histories of keyed tables

A table keeps something for every key, and the calls to it come in any order. If a call changes only
what is kept for its own key, then what is kept for a key is made of what has been recorded for it
since it was last dropped, whatever has been recorded for other keys in between.
-/
namespace EnvOperator

inductive TableCall (κ α : Type)
  | record (key : κ) (a : α)
  /-- What is kept for a key is dropped. -/
  | drop (key : κ)

namespace TableCall
variable {κ α β τ : Type}

def key : TableCall κ α → κ
  | .record k _ => k
  | .drop k => k

variable [DecidableEq κ]

def recorded? (k : κ) : TableCall κ α → Option α
  | .record k' a => if k' = k then some a else none
  | .drop _ => none

def drops (k : κ) : TableCall κ α → Bool
  | .record _ _ => false
  | .drop k' => k' = k

/-- What has been recorded for a key since it was last dropped. Of calls as of records, the latest
comes first. -/
def recorded (k : κ) (past : List (TableCall κ α)) : List α :=
  (past.takeWhile fun c => !c.drops k).filterMap (recorded? k)

variable {k : κ} {a : α} {c : TableCall κ α} {past later : List (TableCall κ α)}

@[simp] theorem recorded_nil (k : κ) : recorded k ([] : List (TableCall κ α)) = [] := rfl

@[simp] theorem recorded_record_self (k : κ) (a : α) (past : List (TableCall κ α)) :
    recorded k (.record k a :: past) = a :: recorded k past := by
  simp [recorded, drops, recorded?]

@[simp] theorem recorded_drop_self (k : κ) (past : List (TableCall κ α)) :
    recorded k (.drop k :: past) = [] := by
  simp [recorded, drops]

theorem recorded_cons_of_ne (h : c.key ≠ k) : recorded k (c :: past) = recorded k past := by
  have hkeeps : c.drops k = false ∧ recorded? k c = none := by
    cases c with
    | record k' a => exact ⟨rfl, if_neg h⟩
    | drop k' => exact ⟨decide_eq_false h, rfl⟩
  rw [recorded, List.takeWhile_cons_of_pos (by simp [hkeeps.1]), List.filterMap_cons_none hkeeps.2,
    recorded]

theorem recorded_append_of_ne (h : ∀ c ∈ later, c.key ≠ k) :
    recorded k (later ++ past) = recorded k past := by
  induction later with
  | nil => rfl
  | cons c later ih =>
    rw [List.cons_append, recorded_cons_of_ne (h c List.mem_cons_self),
      ih fun c hc => h c (List.mem_cons_of_mem _ hc)]

theorem recorded_of_ne (h : ∀ c ∈ past, c.key ≠ k) : recorded k past = [] := by
  rw [← List.append_nil past, recorded_append_of_ne h, recorded_nil]

/-- Calls change what a table keeps for their own key only: a record makes something of what was
kept, and nothing is kept after a drop. -/
structure Local (look : τ → κ → Option β) (call : τ → TableCall κ α → τ)
    (make : Option β → α → Option β) : Prop where
  record (t : τ) (k : κ) (a : α) : look (call t (.record k a)) k = make (look t k) a
  drop (t : τ) (k : κ) : look (call t (.drop k)) k = none
  others (t : τ) {c : TableCall κ α} {k : κ} (h : c.key ≠ k) : look (call t c) k = look t k

/-- What is kept for a key is made of what has been recorded for it since it was last dropped. -/
theorem Local.look_eq {look : τ → κ → Option β} {call : τ → TableCall κ α → τ}
    {make : Option β → α → Option β} (h : Local look call make) {first : τ}
    (hfirst : ∀ k, look first k = none) (past : List (TableCall κ α)) (k : κ) :
    look (past.foldr (fun c t => call t c) first) k =
      (recorded k past).foldr (fun a before => make before a) none := by
  induction past with
  | nil => exact hfirst k
  | cons c past ih =>
    rw [List.foldr_cons]
    by_cases hk : c.key = k
    · cases c with
      | record k' a =>
        obtain rfl : k' = k := hk
        rw [h.record, ih, recorded_record_self, List.foldr_cons]
      | drop k' =>
        obtain rfl : k' = k := hk
        rw [h.drop, recorded_drop_self, List.foldr_nil]
    · rw [h.others _ hk, ih, recorded_cons_of_ne hk]

end TableCall
end EnvOperator
