import EnvOperator.Proofs.Documents.RoundTrip
import EnvOperator.Proofs.Store.Keys
import Mathlib.Data.List.Nodup

/-! # Histories of a store

A store that begins empty, and that objects are put into as what they are, keeps every object under
its own key. A request of it either does what it says to the one object that it names or does
nothing to any. A conflict that is to come strikes one replacement, and then no other.
-/
namespace EnvOperator

/-- What can be done to a store, by those who set it up and by those who request something of it. -/
inductive StoreAct
  | put (k : Kind) (object : k.Object)
  | remove (k : Kind) (key : ObjectKey)
  | failWrites (k : Kind)
  | conflictNextReplace (k : Kind)
  | request (r : Request)

def StoreAct.Replaces (k : Kind) : StoreAct → Prop
  | .request (.replace k' o) => k' = k ∧ ∃ key, k'.keyOf o = .ok key
  | _ => False

namespace MemoryStore
variable {s s' : MemoryStore} {k : Kind} {key : ObjectKey} {a : StoreAct} {past : List StoreAct}

/-- The store after an act. What has no key is not put. -/
def act (s : MemoryStore) : StoreAct → MemoryStore
  | .put k o => (s.put k k o).toOption.getD s
  | .remove k key => s.remove k key
  | .failWrites k => s.failWrites k
  | .conflictNextReplace k => s.conflictNextReplace k
  | .request r => (s.answer r).2

def after (past : List StoreAct) : MemoryStore := past.foldr (fun a s => s.act a) {}

theorem put_cases (s : MemoryStore) (k : Kind) (o : k.Object) :
    (∃ e, s.put k k o = .error e ∧ s.act (.put k o) = s) ∨ ∃ s', s.put k k o = .ok s' ∧
      s.act (.put k o) = s' ∧
      s'.failingWrites = s.failingWrites ∧ s'.conflicts = s.conflicts := by
  cases hkey : k.keyOf o with
  | error e =>
    have hput : s.put k k o = .error e := by rw [put, hkey]; rfl
    exact .inl ⟨e, hput, by simp [act, hput, Except.toOption]⟩
  | ok key =>
    have hput : s.put k k o =
        .ok { s with objects := s.objects.insert ⟨k, key⟩ (k.codec.encode o) } := by
      rw [put, hkey]
      rfl
    exact .inr ⟨_, hput, by simp [act, hput, Except.toOption], rfl, rfl⟩

/-! ## Objects under their own keys -/

theorem WellKeyed.act (h : s.WellKeyed) (a : StoreAct) : (s.act a).WellKeyed := by
  cases a with
  | put k o =>
    rcases s.put_cases k o with ⟨_, _, hs⟩ | ⟨s', hput, hs, _⟩
    · rwa [hs]
    · rw [hs]
      exact h.put hput
  | remove k key => exact h.erase rfl
  | failWrites k => exact h.of_objects rfl
  | conflictNextReplace k => exact h.of_objects rfl
  | request r => exact h.answer r

theorem wellKeyed_after (past : List StoreAct) : (after past).WellKeyed := by
  induction past with
  | nil => exact wellKeyed_empty
  | cons a past ih => exact ih.act a

/-! ## One object or none -/

/-- A request of a store does what it says to the one object that it names, or it fails and does
nothing to any. -/
structure Atomic (s : MemoryStore) : Prop where
  failed {r : Request} {e : StoreError} {s' : MemoryStore} (h : s.answer r = (.error e, s')) :
    s'.objects = s.objects
  others {r : Request} {id : ObjectId} (h : r.call?.map StoreCall.id ≠ some id) :
    (s.answer r).2.objects.get? id = s.objects.get? id
  /-- A write that tells the key of its object is remembered, whether or not it fails. -/
  remembered (r : Request) : (s.answer r).2.calls = s.calls ++ r.call?.toList
  create {k : Kind} (o : k.Object) : (s.create k o).1.isOk = true ↔
    ∃ key, k.keyOf o = .ok key ∧ k ∉ s.failingWrites ∧ s.objects.contains ⟨k, key⟩ = false
  replace {k : Kind} (o : k.Object) : (s.replace k o).1.isOk = true ↔
    ∃ key, k.keyOf o = .ok key ∧ k ∉ s.failingWrites ∧ k ∉ s.conflicts ∧
    s.objects.contains ⟨k, key⟩ = true
  delete (k : Kind) (key : ObjectKey) :
    (s.delete k key).1.isOk = true ↔ s.objects.contains ⟨k, key⟩ = true
  updateStatus (key : ObjectKey) (status : EnvironmentStatus) :
    (s.updateStatus key status).1.isOk = true ↔
    ∃ e, s.read .environment key = .ok (some e)
  /-- What has been written is read. -/
  written {k : Kind} {key : ObjectKey} {o v : k.Object} {s' : MemoryStore}
    (hkey : k.keyOf o = .ok key) (h : s.create k o = (.ok v, s') ∨ s.replace k o = (.ok v, s')) :
    s'.read k key = .ok (some o)
  deleted {k : Kind} {key : ObjectKey} {s' : MemoryStore} (h : s.delete k key = (.ok (), s')) :
    s'.read k key = .ok none
  updated {key : ObjectKey} {e : Environment} (status : EnvironmentStatus)
    (h : s.read .environment key = .ok (some e)) :
    (s.updateStatus key status).2.read .environment key =
      .ok (some { e with status := some status })

theorem create_isOk_iff (s : MemoryStore) (o : k.Object) : (s.create k o).1.isOk = true ↔
    ∃ key, k.keyOf o = .ok key ∧ k ∉ s.failingWrites ∧ s.objects.contains ⟨k, key⟩ = false := by
  cases s.creation k o with
  | nameless hkey hc => simp [hc, hkey, Except.isOk, Except.toBool]
  | failing _ hk hc => simp [hc, hk, Except.isOk, Except.toBool]
  | present hkey _ hid hc | made hkey hk hid hc => simp_all [Except.isOk, Except.toBool]

theorem replace_isOk_iff (s : MemoryStore) (o : k.Object) : (s.replace k o).1.isOk = true ↔
    ∃ key, k.keyOf o = .ok key ∧ k ∉ s.failingWrites ∧ k ∉ s.conflicts ∧
      s.objects.contains ⟨k, key⟩ = true := by
  cases s.replacement k o with
  | nameless hkey hc => simp [hc, hkey, Except.isOk, Except.toBool]
  | failing _ hk hc | conflicting _ _ hk hc => simp [hc, hk, Except.isOk, Except.toBool]
  | absent hkey _ _ hid hc | made hkey _ _ hid hc => simp_all [Except.isOk, Except.toBool]

theorem delete_isOk_iff (s : MemoryStore) (k : Kind) (key : ObjectKey) :
    (s.delete k key).1.isOk = true ↔ s.objects.contains ⟨k, key⟩ = true := by
  cases s.deletion k key with
  | absent hid hc | made hid hc => simp [hc, hid, Except.isOk, Except.toBool]

theorem updateStatus_isOk_iff (s : MemoryStore) (key : ObjectKey) (status : EnvironmentStatus) :
    (s.updateStatus key status).1.isOk = true ↔ ∃ e, s.read .environment key = .ok (some e) := by
  rw [← (s.read_updateStatus key status).1]
  cases (s.updateStatus key status).1 <;> simp [Except.isOk, Except.toBool]

theorem atomic (s : MemoryStore) : s.Atomic where
  failed := objects_of_error
  others := get?_answer_of_call
  remembered := s.calls_answer
  create := s.create_isOk_iff
  replace := s.replace_isOk_iff
  delete := s.delete_isOk_iff
  updateStatus := s.updateStatus_isOk_iff
  written {k key o v s'} hkey h := by
    obtain ⟨key', hkey', hobjects⟩ := h.elim create_ok replace_ok
    obtain rfl : key = key' := Except.ok.inj (hkey.symm.trans hkey')
    exact read_eq_some.mpr (stored?_of_insert hobjects)
  deleted {k key s'} h := read_eq_none.mpr (by simp [delete_ok h])
  updated {key e} status h := (s.read_updateStatus key status).2 e h

/-! ## Conflicts to come -/

theorem failingWrites_act (s : MemoryStore) (a : StoreAct) :
    k ∈ (s.act a).failingWrites ↔ a = .failWrites k ∨ k ∈ s.failingWrites := by
  cases a with
  | put k' o =>
    rcases s.put_cases k' o with ⟨_, _, hs⟩ | ⟨s', _, hs, hfailing, _⟩
    · simp [hs]
    · simp [hs, hfailing]
  | failWrites k' => simp [act, failWrites, eq_comm]
  | remove | conflictNextReplace => simp [act, remove, conflictNextReplace]
  | request r => simp [act, failingWrites_answer]

/-- Writes of a kind fail from the time on when this has been asked for. -/
theorem mem_failingWrites_after : k ∈ (after past).failingWrites ↔ .failWrites k ∈ past := by
  induction past with
  | nil => simp [after]
  | cons a past ih => rw [List.mem_cons, ← ih, eq_comm, ← failingWrites_act]; rfl

theorem nodup_conflicts_act (h : s.conflicts.Nodup) (a : StoreAct) : (s.act a).conflicts.Nodup := by
  cases a with
  | put k o =>
    rcases s.put_cases k o with ⟨_, _, hs⟩ | ⟨s', _, hs, _, hconflicts⟩
    · rwa [hs]
    · rwa [hs, hconflicts]
  | remove | failWrites => exact h
  | conflictNextReplace k => exact List.Nodup.insert h
  | request r =>
    by_cases hr : ∃ k o, r = .replace k o
    · obtain ⟨k, o, rfl⟩ := hr
      rw [act, answer, conflicts_replace]
      split
      · exact h.erase k
      · exact h
    · rwa [act, conflicts_answer_of_ne fun k o he => hr ⟨k, o, he⟩]

theorem nodup_conflicts_after (past : List StoreAct) : (after past).conflicts.Nodup := by
  induction past with
  | nil => exact List.nodup_nil
  | cons a past ih => exact nodup_conflicts_act ih a

theorem conflicts_act (h : s.conflicts.Nodup) (a : StoreAct) : k ∈ (s.act a).conflicts ↔
    a = .conflictNextReplace k ∨ k ∈ s.conflicts ∧ ¬ (a.Replaces k ∧ k ∉ s.failingWrites) := by
  cases a with
  | put k' o =>
    rcases s.put_cases k' o with ⟨_, _, hs⟩ | ⟨s', _, hs, _, hconflicts⟩
    · simp [hs, StoreAct.Replaces]
    · simp [hs, hconflicts, StoreAct.Replaces]
  | remove | failWrites => simp [act, remove, failWrites, StoreAct.Replaces]
  | conflictNextReplace k' => simp [act, conflictNextReplace, StoreAct.Replaces, eq_comm]
  | request r =>
    by_cases hr : ∃ k o, r = .replace k o
    · obtain ⟨k', o, rfl⟩ := hr
      have hkeyed : StoreAct.Replaces k (.request (.replace k' o)) ↔ k' = k ∧ (k'.keyOf o).isOk =
          true := by
        cases hkey : k'.keyOf o <;> simp [StoreAct.Replaces, hkey, Except.isOk, Except.toBool]
      rw [act, answer, conflicts_replace, hkeyed]
      by_cases hk : k' = k
      · subst hk
        split
        · simp [List.Nodup.mem_erase_iff h, *]
        · simp_all
      · split
        · simp [List.mem_erase_of_ne (Ne.symm hk), hk]
        · simp [hk]
    · have hno : ¬ StoreAct.Replaces k (.request r) := by
        intro hreplaces
        cases r with
        | replace k' o => exact hr ⟨k', o, rfl⟩
        | get | create | delete | updateStatus => exact hreplaces
      simp [act, conflicts_answer_of_ne fun k o he => hr ⟨k, o, he⟩, hno]

/-- A conflict is to come: no replacement that it could strike has come since it was asked for. -/
def Awaits (k : Kind) (past : List StoreAct) : Prop :=
  ∃ later earlier, past = later ++ .conflictNextReplace k :: earlier ∧ ∀ a ∈ later, ¬ a.Replaces k

theorem awaits_cons :
    Awaits k (a :: past) ↔ a = .conflictNextReplace k ∨ ¬ a.Replaces k ∧ Awaits k past := by
  constructor
  · rintro ⟨later, earlier, hsplit, hlater⟩
    cases later with
    | nil => exact .inl (List.cons.inj hsplit).1
    | cons b later =>
      obtain ⟨rfl, hpast⟩ := List.cons.inj hsplit
      exact .inr ⟨hlater a List.mem_cons_self, later, earlier, hpast,
        fun b hb => hlater b (List.mem_cons_of_mem _ hb)⟩
  · rintro (rfl | ⟨ha, later, earlier, rfl, hlater⟩)
    · exact ⟨[], past, rfl, fun _ hb => absurd hb List.not_mem_nil⟩
    · exact ⟨a :: later, earlier, rfl, List.forall_mem_cons.mpr ⟨ha, hlater⟩⟩

/-- Where writes of a kind do not fail, a conflict waits for the next replacement. -/
theorem mem_conflicts_after (h : .failWrites k ∉ past) :
    k ∈ (after past).conflicts ↔ Awaits k past := by
  induction past with
  | nil =>
    refine iff_of_false List.not_mem_nil ?_
    rintro ⟨later, earlier, hsplit, _⟩
    cases later <;> cases hsplit
  | cons a past ih =>
    have hpast : .failWrites k ∉ past := fun hmem => h (List.mem_cons_of_mem _ hmem)
    have hopen : k ∉ (after past).failingWrites := mt mem_failingWrites_after.mp hpast
    have hact : k ∈ (after (a :: past)).conflicts ↔ _ :=
      conflicts_act (nodup_conflicts_after past) a
    rw [hact, awaits_cons, ih hpast, and_iff_left hopen, and_comm]

/-! ## Conflicts met -/

theorem replace_conflict_iff (s : MemoryStore) (o : k.Object) :
    (∃ what, (s.replace k o).1 = .error (.conflict what)) ↔
      (∃ key, k.keyOf o = .ok key) ∧ k ∉ s.failingWrites ∧ k ∈ s.conflicts := by
  cases s.replacement k o with
  | nameless hkey hc => simp [hc, hkey]
  | failing _ hk hc => simp [hc, hk]
  | conflicting hkey hk hmet hc => simp [hc, hkey, hk, hmet]
  | absent _ _ hnot _ hc | made _ _ hnot _ hc => simp [hc, hnot]

def meets (s : MemoryStore) (k : Kind) : StoreAct → Bool
  | .request (.replace k' o) => match (s.replace k' o).1 with
    | .error (.conflict _) => k' == k
    | _ => false
  | _ => false

def conflictsMet (k : Kind) : List StoreAct → Nat
  | [] => 0
  | a :: past => conflictsMet k past + ((after past).meets k a).toNat

theorem meets_iff : s.meets k a = true ↔ a.Replaces k ∧ k ∉ s.failingWrites ∧ k ∈ s.conflicts := by
  cases a with
  | put | remove | failWrites | conflictNextReplace => simp [meets, StoreAct.Replaces]
  | request r =>
    cases r with
    | get | create | delete | updateStatus => simp [meets, StoreAct.Replaces]
    | replace k' o =>
      by_cases hk : k' = k
      · subst hk
        simp only [meets, StoreAct.Replaces, true_and, ← replace_conflict_iff]
        split <;> simp_all
      · simp only [meets, StoreAct.Replaces, hk, false_and]
        split <;> simp [hk]

theorem not_mem_conflicts_append {later : List StoreAct} (h : k ∉ (after past).conflicts)
    (hlater : .conflictNextReplace k ∉ later) : k ∉ (after (later ++ past)).conflicts := by
  induction later with
  | nil => exact h
  | cons a later ih =>
    have hrest := ih (mt (List.mem_cons_of_mem a) hlater)
    intro hmem
    rcases (conflicts_act (nodup_conflicts_after (later ++ past)) a).mp hmem with rfl | ⟨hmem, _⟩
    · exact hlater List.mem_cons_self
    · exact hrest hmem

/-- A conflict that is to come stays so, or it is met. -/
theorem meets_act (h : s.conflicts.Nodup) (ha : a ≠ .conflictNextReplace k) :
    (s.meets k a).toNat + (if k ∈ (s.act a).conflicts then 1 else 0) = if k ∈ s.conflicts then
      1 else 0 := by
  have hact := conflicts_act (k := k) h a
  by_cases hmeets : s.meets k a = true
  · obtain ⟨hreplaces, hopen, hdue⟩ := meets_iff.mp hmeets
    simp [hmeets, hact, hdue, hreplaces, hopen, ha]
  · have hmissed : s.meets k a = false := Bool.eq_false_iff.mpr hmeets
    rw [meets_iff] at hmeets
    by_cases hdue : k ∈ s.conflicts <;> simp_all

/-- Until the next one is asked for, as many conflicts are met as are no longer to come. -/
theorem conflictsMet_append (past : List StoreAct) {later : List StoreAct}
    (h : .conflictNextReplace k ∉ later) :
    conflictsMet k (later ++ past) + (if k ∈ (after (later ++ past)).conflicts then 1 else 0) =
      conflictsMet k past + if k ∈ (after past).conflicts then 1 else 0 := by
  induction later with
  | nil => rfl
  | cons a later ih =>
    have ha : a ≠ .conflictNextReplace k := fun he => h (he ▸ List.mem_cons_self)
    have hstep := meets_act (nodup_conflicts_after (later ++ past)) ha
    rw [← ih (mt (List.mem_cons_of_mem a) h), ← hstep, ← Nat.add_assoc]
    rfl

/-- A conflict that has been asked for strikes the first replacement that is not failed before, and
no other. -/
structure StrikesOnce (past : List StoreAct) : Prop where
  first {k : Kind} (o : k.Object) :
    (∃ what, ((after past).replace k o).1 = .error (.conflict what)) ↔
    (∃ key, k.keyOf o = .ok key) ∧ .failWrites k ∉ past ∧ Awaits k past
  once {k : Kind} {r : StoreAct} (newer older : List StoreAct) (hr : r.Replaces k)
    (hasked : .conflictNextReplace k ∉ newer ++ r :: older)
    (hopen : .failWrites k ∉ older ++ past) :
    conflictsMet k (newer ++ r :: older ++ .conflictNextReplace k :: past) = conflictsMet k past + 1

theorem strikesOnce (past : List StoreAct) : StrikesOnce past where
  first {k} o := by
    rw [replace_conflict_iff, mem_failingWrites_after]
    exact and_congr_right fun _ => and_congr_right mem_conflicts_after
  once {k r} newer older hr hasked hopen := by
    have hdue : k ∈ (after (.conflictNextReplace k :: past)).conflicts :=
      (conflicts_act (nodup_conflicts_after past) _).mpr (.inl rfl)
    have hstruck : k ∉ (after (r :: (older ++ .conflictNextReplace k :: past))).conflicts := by
      intro hmem
      rcases (conflicts_act (nodup_conflicts_after _) r).mp hmem with rfl | ⟨_, hno⟩
      · exact hr
      · refine hno ⟨hr, mt mem_failingWrites_after.mp ?_⟩
        simpa using hopen
    have hover : k ∉ (after (newer ++ r :: older ++ .conflictNextReplace k :: past)).conflicts := by
      rw [List.append_assoc]
      exact not_mem_conflicts_append hstruck fun hmem => hasked (List.mem_append_left _ hmem)
    have hbalance := conflictsMet_append (.conflictNextReplace k :: past) hasked
    rw [if_neg hover, if_pos hdue] at hbalance
    exact hbalance

/-- Whatever has been done to a store, it keeps every object under its own key, a request of it does
what it says to one object or nothing to any, and a conflict that is asked for strikes once. -/
theorem atomic_after (past : List StoreAct) :
    (after past).WellKeyed ∧ (after past).Atomic ∧ StrikesOnce past :=
  ⟨wellKeyed_after past, (after past).atomic, strikesOnce past⟩

end MemoryStore

namespace Sample

def token : Secret where metadata := { name := some "token", ns := some "dev" }

def contested : List StoreAct := [.conflictNextReplace .secret, .request (.create .secret token)]

end Sample

/-- The first replacement meets the conflict, and the second one does not; the secret cannot be
created twice. -/
theorem MemoryStore.atomic_after_contested :
    StoreAct.Replaces .secret (.request (.replace .secret Sample.token)) ∧
    (∃ what, ((after Sample.contested).replace .secret Sample.token).1 = .error (.conflict what)) ∧
    conflictsMet .secret (.request (.replace .secret Sample.token) :: Sample.contested) = 1 ∧
    ((after (.request (.replace .secret Sample.token) :: Sample.contested)).replace .secret
      Sample.token).1.isOk = true ∧
    ((after Sample.contested).create .secret Sample.token).1.isOk = false := by
  have hkey : Kind.secret.keyOf Sample.token = .ok ⟨"dev", "token"⟩ := rfl
  obtain ⟨_, hatomic, hstrikes⟩ := atomic_after Sample.contested
  obtain ⟨_, hstruck, _⟩ :=
    atomic_after (.request (.replace .secret Sample.token) :: Sample.contested)
  obtain ⟨_, _, honce⟩ := atomic_after [.request (.create .secret Sample.token)]
  have hreplaces : StoreAct.Replaces .secret (.request (.replace .secret Sample.token)) :=
    ⟨rfl, _, hkey⟩
  have hawaits : MemoryStore.Awaits .secret Sample.contested := awaits_cons.mpr (.inl rfl)
  refine ⟨hreplaces, (hstrikes.first _).mpr ⟨⟨_, hkey⟩, by simp [Sample.contested], hawaits⟩, ?_,
    ?_, ?_⟩
  · exact honce.once [] [] hreplaces (by simp) (by simp)
  · exact (hstruck.replace _).mpr ⟨_, hkey, by decide, by decide, by decide⟩
  · rw [Bool.eq_false_iff, ne_eq, hatomic.create]
    rintro ⟨key, hkey', _, habsent⟩
    obtain rfl := Except.ok.inj (hkey.symm.trans hkey')
    exact absurd habsent (by decide)

end EnvOperator
