import EnvOperator.Target.BuildJob
import Mathlib.Data.List.Induction
import Mathlib.Data.List.Nodup

/-! # Merging variables

Variables that are merged keep the order in which their names came up first, and for each name the
variable that came last. So it does not matter how the variables are grouped, and what an
environment asks for its build overrides what it needs to reach the storage.
-/

namespace List
variable {α : Type} [DecidableEq α]

/-- An element at the end is kept only if it is a new one. -/
theorem eraseDups_concat (l : List α) (a : α) :
    (l ++ [a]).eraseDups = if a ∈ l then l.eraseDups else l.eraseDups ++ [a] := by
  rw [eraseDups_append, removeAll]
  split
  · simp [*]
  · simp [*, eraseDups_cons]

theorem eraseDups_append_eraseDups (l m : List α) :
    (l ++ m.eraseDups).eraseDups = (l ++ m).eraseDups := by
  induction m using List.reverseRecOn with
  | nil => rfl
  | append_singleton m a ih =>
    rw [eraseDups_concat, ← append_assoc, eraseDups_concat, ← ih]
    by_cases ha : a ∈ m
    · simp [ha]
    · rw [if_neg ha, ← append_assoc, eraseDups_concat]
      simp

theorem eraseDups_eraseDups_append (l m : List α) :
    (l.eraseDups ++ m).eraseDups = (l ++ m).eraseDups := by
  induction m using List.reverseRecOn with
  | nil => simpa using eraseDups_append_eraseDups [] l
  | append_singleton m a ih =>
    rw [← append_assoc, ← append_assoc, eraseDups_concat, eraseDups_concat, ih]
    simp

theorem eraseDups_append_of_subset {l m : List α} (h : m ⊆ l) :
    (l ++ m).eraseDups = l.eraseDups := by
  have hnil : m.removeAll l = [] := by
    rw [removeAll, filter_eq_nil_iff]
    intro a ha
    simp [h ha]
  rw [eraseDups_append, hnil, eraseDups_nil, append_nil]

end List

namespace EnvOperator
namespace EnvVar

def last? (vs : List EnvVar) (name : String) : Option EnvVar :=
  (vs.filter fun v => v.name == name).getLast?

theorem last?_append (vs ws : List EnvVar) (name : String) :
    last? (vs ++ ws) name = (last? ws name).or (last? vs name) := by
  simp [last?, List.getLast?_append]

theorem last?_concat (vs : List EnvVar) (v : EnvVar) (name : String) :
    last? (vs ++ [v]) name = if v.name = name then some v else last? vs name := by
  rw [last?_append]
  by_cases hv : v.name = name <;> simp [last?, hv]

theorem name_of_last? {vs : List EnvVar} {name : String} {v : EnvVar} (h : last? vs name = some v) :
    v.name = name := by
  have hmem := List.mem_of_getLast? h
  simpa using (List.mem_filter.mp hmem).2

namespace Table

def names (t : Table) : List String := t.vars.map EnvVar.name

def get? (t : Table) (name : String) : Option EnvVar :=
  (t.places.get? name).bind fun i => t.vars[i]?

section
variable {t : Table} {v w : EnvVar} {name : String} {i : Nat}

theorem mem_names_iff : name ∈ t.names ↔ ∃ i, t.places.get? name = some i := by
  simp only [names, List.mem_iff_getElem?, t.placed]

/-- A variable of the name stands at every place that is kept for one. -/
theorem exists_of_place (h : t.places.get? name = some i) :
    ∃ w, t.vars[i]? = some w ∧ w.name = name := by
  have hname := (t.placed name i).mp h
  rwa [List.getElem?_map, Option.map_eq_some_iff] at hname

theorem lt_of_place (h : t.places.get? name = some i) : i < t.vars.length := by
  obtain ⟨w, hw, _⟩ := exists_of_place h
  exact (List.getElem?_eq_some_iff.mp hw).1

theorem eq_of_place {other : String} (h : t.places.get? name = some i)
    (h' : t.places.get? other = some i) : name = other := by
  have hname := (t.placed name i).mp h
  rw [(t.placed other i).mp h'] at hname
  exact (Option.some.inj hname).symm

theorem nodup_names (t : Table) : t.names.Nodup := by
  rw [List.nodup_iff_getElem?_ne_getElem?]
  intro i j hij hj heq
  obtain ⟨name, hname⟩ : ∃ name, t.names[j]? = some name := ⟨_, List.getElem?_eq_getElem hj⟩
  have hi := (t.placed name i).mpr (heq.trans hname)
  have hj := (t.placed name j).mpr hname
  rw [hi] at hj
  exact Nat.ne_of_lt hij (Option.some.inj hj)

theorem name_of_get? (h : t.get? name = some w) : w.name = name := by
  obtain ⟨i, hplace, hw⟩ := Option.bind_eq_some_iff.mp h
  obtain ⟨w', hw', hname⟩ := exists_of_place hplace
  rw [hw] at hw'
  cases hw'
  exact hname

theorem mem_vars_iff : w ∈ t.vars ↔ t.get? w.name = some w := by
  constructor
  · intro hw
    obtain ⟨i, hi⟩ := List.mem_iff_getElem?.mp hw
    have hplace : t.places.get? w.name = some i := by
      rw [t.placed, List.getElem?_map, hi]
      rfl
    rw [get?, hplace, Option.bind_some, hi]
  · intro hw
    obtain ⟨i, _, hi⟩ := Option.bind_eq_some_iff.mp hw
    exact List.mem_of_getElem? hi

theorem last?_vars (t : Table) (name : String) : last? t.vars name = t.get? name := by
  cases hlast : last? t.vars name with
  | some w =>
    obtain rfl := name_of_last? hlast
    exact (mem_vars_iff.mp (List.mem_filter.mp (List.mem_of_getLast? hlast)).1).symm
  | none =>
    rw [last?, List.getLast?_eq_none_iff, List.filter_eq_nil_iff] at hlast
    cases hget : t.get? name with
    | none => rfl
    | some w =>
      obtain rfl := name_of_get? hget
      exact absurd (beq_self_eq_true w.name) (hlast w (mem_vars_iff.mpr hget))

/-- A new name comes last. -/
theorem names_add (t : Table) (v : EnvVar) :
    (t.add v).names = if v.name ∈ t.names then t.names else t.names ++ [v.name] := by
  unfold add
  split
  · rename_i i hi
    rw [if_pos (mem_names_iff.mpr ⟨i, hi⟩)]
    exact map_name_set ((t.placed _ _).mp hi)
  · rename_i hnone
    rw [if_neg (by rw [mem_names_iff, hnone]; simp)]
    simp [names]

/-- A variable that is added is found by its name, and all others are found as before. -/
theorem get?_add (t : Table) (v : EnvVar) (name : String) :
    (t.add v).get? name = if v.name = name then some v else t.get? name := by
  unfold add
  split
  · rename_i i hi
    by_cases hname : v.name = name
    · subst hname
      simp [get?, hi, lt_of_place hi]
    · rw [if_neg hname, get?, get?]
      refine Option.bind_congr fun j hj => List.getElem?_set_ne ?_
      rintro rfl
      exact hname (t.eq_of_place hi hj)
  · rename_i hnone
    by_cases hname : v.name = name
    · subst hname
      simp [get?]
    · simp only [get?, SortedMap.get?_insert, if_neg hname, if_neg (Ne.symm hname)]
      exact Option.bind_congr fun j hj => List.getElem?_append_left (lt_of_place hj)

end

/-! ## Tables of lists -/

theorem ofList_concat (vs : List EnvVar) (v : EnvVar) : ofList (vs ++ [v]) = (ofList vs).add v := by
  simp [ofList]

theorem names_ofList (vs : List EnvVar) : (ofList vs).names = (vs.map EnvVar.name).eraseDups := by
  induction vs using List.reverseRecOn with
  | nil => rfl
  | append_singleton vs v ih =>
    rw [ofList_concat, names_add, ih, List.map_append, List.map_singleton, List.eraseDups_concat]
    simp only [List.mem_eraseDups]

theorem get?_ofList (vs : List EnvVar) (name : String) : (ofList vs).get? name = last? vs name := by
  induction vs using List.reverseRecOn with
  | nil => rfl
  | append_singleton vs v ih => rw [ofList_concat, get?_add, ih, last?_concat]

/-- A list of variables determines its table by the order of its names and by the last variable of
each. -/
theorem vars_ofList (vs : List EnvVar) :
    (ofList vs).vars = (vs.map EnvVar.name).eraseDups.filterMap (last? vs) := by
  have hself : ∀ w ∈ (ofList vs).vars, last? vs w.name = some w := fun w hw => by
    rw [← get?_ofList]
    exact mem_vars_iff.mp hw
  rw [← names_ofList, names, List.filterMap_map]
  calc (ofList vs).vars = (ofList vs).vars.filterMap some := List.filterMap_some.symm
    _ = (ofList vs).vars.filterMap (last? vs ∘ EnvVar.name) :=
      List.filterMap_congr fun w hw => (hself w hw).symm

end Table

section
variable (xs ys zs : List EnvVar)

theorem map_name_merge : (merge xs ys).map EnvVar.name = ((xs ++ ys).map EnvVar.name).eraseDups :=
  Table.names_ofList _

theorem last?_merge (name : String) :
    last? (merge xs ys) name = (last? ys name).or (last? xs name) := by
  rw [merge, Table.last?_vars, Table.get?_ofList, last?_append]

theorem merge_congr {xs ys xs' ys' : List EnvVar}
    (hnames : ((xs ++ ys).map EnvVar.name).eraseDups = ((xs' ++ ys').map EnvVar.name).eraseDups)
    (hlast : ∀ name, last? (xs ++ ys) name = last? (xs' ++ ys') name) :
    merge xs ys = merge xs' ys' := by
  rw [merge, merge, Table.vars_ofList, Table.vars_ofList, hnames, funext hlast]

theorem merge_assoc : merge (merge xs ys) zs = merge xs (merge ys zs) := by
  apply merge_congr
  · simp only [List.map_append, map_name_merge, List.eraseDups_eraseDups_append,
      List.eraseDups_append_eraseDups, List.append_assoc]
  · intro name
    simp only [last?_append, last?_merge, Option.or_assoc]

theorem merge_merge_self : merge (merge xs ys) ys = merge xs ys := by
  apply merge_congr
  · rw [List.map_append, map_name_merge, List.eraseDups_eraseDups_append]
    apply List.eraseDups_append_of_subset
    rw [List.map_append]
    exact List.subset_append_right _ _
  · intro name
    simp only [last?_append, last?_merge, ← Option.or_assoc, Option.or_self]

end

/-- The builder is given what the environment asks for, and under other names what it needs to reach
the storage. -/
theorem last?_builder (x : Snapshot) (name : String) :
    (x.buildJob.builder?.bind (·.env)).bind (last? · name) =
    (last? (x.environment.spec.build.env.getD []) name).or (last? x.storageEnv name) :=
  last?_merge _ _ name

/-- Merged variables have different names, in the order in which these came up first, and each is
the last one of its name. So lists can be merged in any grouping and more than once. The variables
of a builder are merged in this way. -/
theorem merge_last_wins (base overrides : List EnvVar) :
    ((merge base overrides).map EnvVar.name).Nodup ∧
    (merge base overrides).map EnvVar.name = ((base ++ overrides).map EnvVar.name).eraseDups ∧
    (∀ v, v ∈ merge base overrides ↔ last? (base ++ overrides) v.name = some v) ∧
    (∀ (x : Snapshot) (name : String), (x.buildJob.builder?.bind (·.env)).bind (last? · name) =
      (last? (x.environment.spec.build.env.getD []) name).or (last? x.storageEnv name)) ∧
    (∀ more, merge (merge base overrides) more = merge base (merge overrides more)) ∧
    merge (merge base overrides) overrides = merge base overrides := by
  refine ⟨Table.nodup_names _, map_name_merge base overrides, fun v => ?_, last?_builder,
    merge_assoc base overrides, merge_merge_self base overrides⟩
  rw [merge, Table.mem_vars_iff, Table.get?_ofList]

example :
    merge [{ name := "REGION", value := some "a" }, { name := "MODE" },
      { name := "REGION", value := some "b" }]
    [{ name := "FLAVOR" }, { name := "REGION", value := some "c" }] =
    [{ name := "REGION", value := some "c" }, { name := "MODE" }, { name := "FLAVOR" }] := by decide

end EnvVar
end EnvOperator
