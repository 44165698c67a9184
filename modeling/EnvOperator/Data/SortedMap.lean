/-! # Finite maps in key order

A finite map keeps its entries in strictly increasing order of their keys. Two
maps with the same bindings are therefore the same data, and listing a map
always gives its keys in order.
-/
namespace EnvOperator

structure SortedMap (κ α : Type) [Ord κ] where
  entries : List (κ × α)
  increasing : entries.Pairwise (fun x y => compare x.1 y.1 = .lt)

namespace SortedMap
variable {κ α β : Type} [Ord κ]

instance [DecidableEq κ] [DecidableEq α] : DecidableEq (SortedMap κ α) := fun a b =>
  decidable_of_iff (a.entries = b.entries)
    ⟨fun h => by cases a; cases b; cases h; rfl, fun h => h ▸ rfl⟩

instance : EmptyCollection (SortedMap κ α) := ⟨⟨[], .nil⟩⟩

instance : Inhabited (SortedMap κ α) := ⟨∅⟩

/-- Put a binding where its key belongs, replacing a binding of that key. -/
def place (k : κ) (v : α) : List (κ × α) → List (κ × α)
  | [] => [(k, v)]
  | x :: rest =>
    match compare k x.1 with
    | .lt => (k, v) :: x :: rest
    | .eq => (k, v) :: rest
    | .gt => x :: place k v rest

def find (k : κ) : List (κ × α) → Option α
  | [] => none
  | x :: rest => if compare k x.1 = .eq then some x.2 else find k rest

theorem mem_place {k : κ} {v : α} {xs : List (κ × α)} {x : κ × α} (h : x ∈ place k v xs) :
    x = (k, v) ∨ x ∈ xs := by
  induction xs with
  | nil => simpa [place] using h
  | cons y rest ih =>
    unfold place at h
    split at h <;> grind

theorem find_of_all_lt {k : κ} {xs : List (κ × α)} (h : ∀ x ∈ xs, compare k x.1 = .lt) :
    find k xs = none := by
  induction xs with
  | nil => rfl
  | cons y rest ih =>
    have hy := h y (by simp)
    simp [find, hy, ih (fun x hx => h x (by simp [hx]))]

def get? (m : SortedMap κ α) (k : κ) : Option α := find k m.entries

def contains (m : SortedMap κ α) (k : κ) : Bool := (m.get? k).isSome

def size (m : SortedMap κ α) : Nat := m.entries.length

def isEmpty (m : SortedMap κ α) : Bool := m.entries.isEmpty

def keys (m : SortedMap κ α) : List κ := m.entries.map Prod.fst

def toList (m : SortedMap κ α) : List (κ × α) := m.entries

def erase (m : SortedMap κ α) (k : κ) : SortedMap κ α :=
  ⟨m.entries.filter (fun x => compare k x.1 != .eq), m.increasing.filter _⟩

@[simp] theorem get?_empty (k : κ) : (∅ : SortedMap κ α).get? k = none := rfl

theorem mem_keys_iff [Std.LawfulEqOrd κ] {m : SortedMap κ α} {k : κ} :
    k ∈ m.keys ↔ (m.get? k).isSome = true := by
  unfold keys get?
  induction m.entries with
  | nil => exact iff_of_false (List.not_mem_nil) (Bool.false_ne_true)
  | cons x rest ih =>
    rw [List.map_cons, List.mem_cons, ih, find]
    by_cases h : compare k x.1 = .eq
    · rw [if_pos h]
      exact iff_of_true (.inl (Std.LawfulEqOrd.eq_of_compare h)) rfl
    · rw [if_neg h]
      exact or_iff_right fun heq => h (heq ▸ Std.ReflOrd.compare_self)

variable [Std.TransOrd κ]

theorem nodup_keys (m : SortedMap κ α) : m.keys.Nodup := by
  refine List.pairwise_map.mpr (m.increasing.imp fun {x y} hlt heq => ?_)
  rw [heq, Std.ReflOrd.compare_self] at hlt
  cases hlt

theorem place_increasing (k : κ) (v : α) {xs : List (κ × α)}
    (h : xs.Pairwise (fun x y => compare x.1 y.1 = .lt)) :
    (place k v xs).Pairwise (fun x y => compare x.1 y.1 = .lt) := by
  induction xs with
  | nil => simp [place]
  | cons y rest ih =>
    obtain ⟨hy, hrest⟩ := List.pairwise_cons.mp h
    unfold place
    split
    · rename_i hk
      exact List.pairwise_cons.mpr ⟨fun x hx => by
        rcases List.mem_cons.mp hx with rfl | hx
        · exact hk
        · exact Std.TransCmp.lt_trans hk (hy x hx), h⟩
    · rename_i hk
      exact List.pairwise_cons.mpr ⟨fun x hx => Std.TransCmp.lt_of_eq_of_lt hk (hy x hx), hrest⟩
    · rename_i hk
      refine List.pairwise_cons.mpr ⟨fun x hx => ?_, ih hrest⟩
      rcases mem_place hx with rfl | hx
      · exact Std.OrientedCmp.lt_of_gt hk
      · exact hy x hx

def insert (m : SortedMap κ α) (k : κ) (v : α) : SortedMap κ α :=
  ⟨place k v m.entries, place_increasing k v m.increasing⟩

/-- Later bindings of a key win. -/
def ofList (xs : List (κ × α)) : SortedMap κ α := xs.foldl (fun m x => m.insert x.1 x.2) ∅

/-- The bindings of both maps; those of `upper` win. -/
def overlay (m upper : SortedMap κ α) : SortedMap κ α :=
  upper.entries.foldl (fun m x => m.insert x.1 x.2) m

variable [Std.LawfulEqOrd κ]

omit [Std.TransOrd κ] in
theorem find_filter (p : κ → Bool) (k : κ) (xs : List (κ × α)) :
    find k (xs.filter fun x => p x.1) = if p k then find k xs else none := by
  induction xs with
  | nil => simp [find]
  | cons x rest ih =>
    by_cases hx : compare k x.1 = .eq
    · obtain rfl := Std.LawfulEqCmp.compare_eq_iff_eq.mp hx
      by_cases hp : p x.1 <;> simp [find, hp, ih]
    · by_cases hp : p x.1 <;> simp [find, hp, hx, ih]

omit [Std.TransOrd κ] in
@[simp] theorem get?_erase [DecidableEq κ] (m : SortedMap κ α) (k a : κ) :
    (m.erase k).get? a = if a = k then none else m.get? a := by
  have hfilter : (m.erase k).get? a = if compare k a != .eq then m.get? a else none :=
    find_filter (fun b => compare k b != .eq) a m.entries
  rw [hfilter]
  by_cases ha : a = k
  · simp [ha]
  · have hne : compare k a ≠ .eq := fun h => ha (Std.LawfulEqCmp.compare_eq_iff_eq.mp h).symm
    simp [ha, hne]

omit [Std.TransOrd κ] in
theorem find_place [DecidableEq κ] (k a : κ) (v : α) (xs : List (κ × α)) :
    find a (place k v xs) = if a = k then some v else find a xs := by
  induction xs with
  | nil => simp [place, find, Std.LawfulEqCmp.compare_eq_iff_eq]
  | cons y rest ih =>
    unfold place
    split
    · simp only [find, Std.LawfulEqCmp.compare_eq_iff_eq]
    · rename_i hk
      simp only [find, Std.LawfulEqCmp.compare_eq_iff_eq] at hk ⊢
      grind
    · rename_i hk
      have hne : k ≠ y.1 := fun h => by
        have he : compare k y.1 = .eq := Std.LawfulEqCmp.compare_eq_iff_eq.mpr h
        rw [he] at hk
        cases hk
      simp only [find, ih, Std.LawfulEqCmp.compare_eq_iff_eq]
      grind

@[simp] theorem get?_insert [DecidableEq κ] (m : SortedMap κ α) (k a : κ) (v : α) :
    (m.insert k v).get? a = if a = k then some v else m.get? a :=
  find_place k a v m.entries

theorem eq_of_find_eq {xs ys : List (κ × α)} (hx : xs.Pairwise (fun x y => compare x.1 y.1 = .lt))
    (hy : ys.Pairwise (fun x y => compare x.1 y.1 = .lt)) (h : ∀ k, find k xs = find k ys) :
    xs = ys := by
  induction xs generalizing ys with
  | nil =>
    cases ys with
    | nil => rfl
    | cons y _ => have := h y.1; simp [find, Std.ReflCmp.compare_self] at this
  | cons x xs ih =>
    cases ys with
    | nil => have := h x.1; simp [find, Std.ReflCmp.compare_self] at this
    | cons y ys =>
      obtain ⟨hx1, hx2⟩ := List.pairwise_cons.mp hx
      obtain ⟨hy1, hy2⟩ := List.pairwise_cons.mp hy
      have hk : x.1 = y.1 := by
        rcases hc : compare x.1 y.1 with _ | _ | _
        · have hn : find x.1 (y :: ys) = none := find_of_all_lt fun z hz => by
            rcases List.mem_cons.mp hz with rfl | hz
            · exact hc
            · exact Std.TransCmp.lt_trans hc (hy1 z hz)
          have := h x.1
          rw [hn] at this
          simp [find, Std.ReflCmp.compare_self] at this
        · exact Std.LawfulEqCmp.compare_eq_iff_eq.mp hc
        · have hc' := Std.OrientedCmp.lt_of_gt hc
          have hn : find y.1 (x :: xs) = none := find_of_all_lt fun z hz => by
            rcases List.mem_cons.mp hz with rfl | hz
            · exact hc'
            · exact Std.TransCmp.lt_trans hc' (hx1 z hz)
          have := h y.1
          rw [hn] at this
          simp [find, Std.ReflCmp.compare_self] at this
      have hv : x.2 = y.2 := by
        have := h x.1
        simpa [find, Std.ReflCmp.compare_self, hk] using this
      have hrest : xs = ys := ih hx2 hy2 fun k => by
        by_cases hkx : compare k x.1 = .eq
        · have hkx' := Std.LawfulEqCmp.compare_eq_iff_eq.mp hkx
          subst hkx'
          rw [find_of_all_lt hx1, find_of_all_lt (k := x.1) (fun z hz => hk ▸ hy1 z hz)]
        · have := h k
          simpa [find, hkx, ← hk] using this
      obtain ⟨x1, x2⟩ := x
      obtain ⟨y1, y2⟩ := y
      simp only at hk hv
      rw [hk, hv, hrest]

/-- A map is determined by its bindings. -/
@[ext] theorem ext {m n : SortedMap κ α} (h : ∀ k, m.get? k = n.get? k) : m = n := by
  have := eq_of_find_eq m.increasing n.increasing h
  cases m; cases n; cases this; rfl

theorem get?_foldl_insert [DecidableEq κ] {xs : List (κ × α)}
    (h : xs.Pairwise (fun x y => compare x.1 y.1 = .lt)) (m : SortedMap κ α) (k : κ) :
    (xs.foldl (fun m x => m.insert x.1 x.2) m).get? k = (find k xs).or (m.get? k) := by
  induction xs generalizing m with
  | nil => rfl
  | cons x rest ih =>
    obtain ⟨hx, hrest⟩ := List.pairwise_cons.mp h
    simp only [List.foldl_cons, ih hrest, get?_insert, find, Std.LawfulEqCmp.compare_eq_iff_eq]
    split
    · rename_i hk
      subst hk
      simp [find_of_all_lt hx]
    · rfl

@[simp] theorem get?_overlay [DecidableEq κ] (m upper : SortedMap κ α) (k : κ) :
    (m.overlay upper).get? k = (upper.get? k).or (m.get? k) :=
  get?_foldl_insert upper.increasing m k

@[simp] theorem ofList_entries [DecidableEq κ] (m : SortedMap κ α) : ofList m.entries = m :=
  ext fun k => by simp [ofList, get?_foldl_insert m.increasing]; rfl

end SortedMap
end EnvOperator
