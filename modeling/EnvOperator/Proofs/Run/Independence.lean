import EnvOperator.Proofs.Pass.Footprint
import EnvOperator.Proofs.Pass.Questions
import EnvOperator.Proofs.Pass.Remembering
import EnvOperator.Proofs.Run.Basic
import Mathlib.Data.List.Basic

/-! # Passes of different environments

Passes of different environments can change places. Each asks only about what its environment owns,
or about what no pass changes, and remembers only its own environment; the one thing that could
still bring two environments together is the text by which their stalls are counted.
-/
namespace EnvOperator

namespace ObjectKey
variable {key key' : ObjectKey}

/-- A key that can be told from its text. -/
def SlashFree (key : ObjectKey) : Prop := '/' ∉ key.ns.toList ∧ '/' ∉ key.name.toList

instance (key : ObjectKey) : Decidable key.SlashFree := inferInstanceAs (Decidable (_ ∧ _))

theorem SlashFree.eq_of_text (h : key.SlashFree) (ht : key.text = key'.text) : key = key' := by
  have hl : key.ns.toList ++ '/' :: key.name.toList =
      key'.ns.toList ++ '/' :: key'.name.toList := by
    simpa [text, String.toList_append] using congrArg String.toList ht
  obtain ⟨hns, _, hname⟩ := (List.append_cons_inj_of_notMem h.1 h.2).mp hl
  cases key
  cases key'
  simp_all [String.toList_inj]

end ObjectKey

theorem Pass.Asks.touches {settings : Settings} {key : ObjectKey} {w : World} {q : Query}
    (h : Asks settings key w q) (hw : w.store.WellKeyed) : key.Touches q := by
  cases h with
  | collect h =>
    cases q with
    | tags => cases h
    | store r =>
      cases r with
      | get => exact h
      | create | replace | delete | updateStatus => cases h
  | status st => rfl
  | step hf h =>
    cases h with
    | tags => trivial
    | create hk ho => exact ⟨_, hf.keyOf_wanted ho, key.owns_own hk.isMade⟩
    | replace hk _ ho => exact ⟨_, hf.keyOf_wanted ho, key.owns_own hk.isMade⟩
    | delete hk _ ho hkey =>
      have hfound := hf.reflects.stored_eq hk.isMade
      have hown := hw.keyOf_stored (hfound.trans ho)
      cases hkey.symm.trans hown
      exact key.owns_own hk.isMade

namespace PassMemory
variable {m m' a b : PassMemory} {key key' : ObjectKey}

theorem Agree.refl (key : ObjectKey) (m : PassMemory) : m.Agree key m := ⟨rfl, rfl, rfl⟩

theorem apart_graft (key : ObjectKey) (m base : PassMemory) :
    base.Apart key (m.graft key base) where
  tracked other hne := by simp [graft, hne]
  ceiling := rfl
  count other hne := by simp [graft, hne]

theorem Apart.agree (h : m.Apart key m') (hne : key' ≠ key) (ht : key'.text ≠ key.text) :
    m.Agree key' m' :=
  ⟨h.tracked key' hne, h.ceiling, h.count key'.text ht⟩

theorem graft_comm (ha : m.Apart key a) (hb : m.Apart key' b) (hne : key ≠ key')
    (ht : key.text ≠ key'.text) : b.graft key' a = a.graft key b := by
  have htracker := SortedMap.assign_comm ha.tracked hb.tracked hne
  have hcounts := SortedMap.assign_comm ha.count hb.count ht
  rw [graft, graft, htracker, hcounts, ha.ceiling, hb.ceiling]

end PassMemory

namespace Moment
variable {key : ObjectKey} {m n : Moment}

structure Agree (key : ObjectKey) (m n : Moment) : Prop where
  memory : m.memory.Agree key n.memory
  world : m.world.Agree key n.world

theorem Agree.refl (key : ObjectKey) (m : Moment) : m.Agree key m where
  memory := .refl key m.memory
  world := ⟨⟨fun _ _ => rfl, rfl, rfl⟩, rfl, rfl⟩

/-- A pass does the same at any moment that is the same for its environment, up to what is
remembered of others. -/
theorem pass_congr (settings : Settings) (now : Instant) (hw : m.world.store.WellKeyed)
    (h : m.Agree key n) : (n.pass settings now key).1 = (m.pass settings now key).1 ∧
    (n.pass settings now key).2.memory = (m.pass settings now key).2.memory.graft key n.memory ∧
    (m.pass settings now key).2.world.Agree key (n.pass settings now key).2.world := by
  have htouches (q : Query)
      (hq : q ∈ (Pass.run settings now key m.memory).asked World.answer m.world) :
      key.Touches q := (Pass.asks hq).touches hw
  obtain ⟨hr, hagree⟩ := Dialogue.agree_inWorld htouches h.world
  simp only [pass, Pass.run_graft h.memory, Dialogue.inWorld_map, hr]
  exact ⟨rfl, rfl, hagree⟩

/-- A pass leaves what is not its environment's as it is, in the world and in what is remembered. -/
theorem pass_apart (settings : Settings) (now : Instant) (hw : m.world.store.WellKeyed)
    (h : m.Agree key n) (hc : n.world.Calm) : n.world.Apart key (n.pass settings now key).2.world ∧
      n.memory.Apart key (n.pass settings now key).2.memory := by
  have htouches (q : Query)
      (hq : q ∈ (Pass.run settings now key m.memory).asked World.answer m.world) :
      key.Touches q := (Pass.asks hq).touches hw
  constructor
  · apply Dialogue.apart_inWorld _ hc
    intro q hq
    rw [Pass.run_graft h.memory, Dialogue.asked_map, Dialogue.asked_of_agree htouches h.world] at hq
    exact htouches q hq
  · rw [(pass_congr settings now hw h).2.1]
    exact PassMemory.apart_graft key _ n.memory

end Moment

/-- What two environments change between them is the same whichever comes first. -/
theorem World.objects_comm {w a b ab ba : World} {key key' : ObjectKey} (hne : key ≠ key')
    (ha : w.Apart key a) (hb : w.Apart key' b) (hab : a.Apart key' ab) (hba : b.Apart key ba)
    (hagree : a.Agree key ba) (hagree' : b.Agree key' ab) :
    ab.store.objects = ba.store.objects := by
  ext1 id
  by_cases h : key.Owns id
  · have h' : ¬ key'.Owns id := fun h' => hne (h.unique h')
    exact (hab.objects id h').trans (hagree.store.objects id (.inl h)).symm
  · by_cases h' : key'.Owns id
    · exact (hagree'.store.objects id (.inl h')).trans (hba.objects id h).symm
    · calc ab.store.objects.get? id = a.store.objects.get? id := hab.objects id h'
        _ = w.store.objects.get? id := ha.objects id h
        _ = b.store.objects.get? id := (hb.objects id h').symm
        _ = ba.store.objects.get? id := (hba.objects id h).symm

/-- In a store of well-keyed documents and with no failure still to come, passes of two environments
come to the same in either order: in their results, in what is stored, and in what is remembered. -/
theorem Moment.pass_comm {settings : Settings} {m : Moment} {key key' : ObjectKey}
    (now now' : Instant) (hne : key ≠ key') (hkey : key.SlashFree) (hw : m.world.store.WellKeyed)
    (hc : m.world.Calm) :
    ((m.pass settings now' key').2.pass settings now key).1 = (m.pass settings now key).1 ∧
    ((m.pass settings now key).2.pass settings now' key').1 = (m.pass settings now' key').1 ∧
    ((m.pass settings now key).2.pass settings now' key').2.world.store.objects =
      ((m.pass settings now' key').2.pass settings now key).2.world.store.objects ∧
    ((m.pass settings now key).2.pass settings now' key').2.memory =
      ((m.pass settings now' key').2.pass settings now key).2.memory := by
  have htext : key.text ≠ key'.text := fun h => hne (hkey.eq_of_text h)
  obtain ⟨ha, hma⟩ := pass_apart settings now hw (.refl key m) hc
  obtain ⟨hb, hmb⟩ := pass_apart settings now' hw (.refl key' m) hc
  have hagree : m.Agree key (m.pass settings now' key').2 := ⟨hmb.agree hne htext, hb.agree hne⟩
  have hagree' : m.Agree key' (m.pass settings now key).2 :=
    ⟨hma.agree hne.symm htext.symm, ha.agree hne.symm⟩
  obtain ⟨hr, hmemory, hworld⟩ := pass_congr settings now hw hagree
  obtain ⟨hr', hmemory', hworld'⟩ := pass_congr settings now' hw hagree'
  obtain ⟨hba, _⟩ := pass_apart settings now hw hagree hb.calm'
  obtain ⟨hab, _⟩ := pass_apart settings now' hw hagree' ha.calm'
  refine ⟨hr, hr', World.objects_comm hne ha hb hab hba hworld hworld', ?_⟩
  rw [hmemory, hmemory']
  exact PassMemory.graft_comm hma hmb hne htext

theorem Except.bind_ok {ε α β : Type} {x : Except ε α} {f : α → Except ε β} {b : β}
    (h : x >>= f = .ok b) : ∃ a, x = .ok a ∧ f a = .ok b := by
  cases x with
  | error e => cases h
  | ok a => exact ⟨a, rfl, h⟩

namespace Sample

def neighbour : ObjectKey := ⟨"dev", "db"⟩

def neighbours : Except StoreError MemoryStore := do
  let s ← ({} : MemoryStore).put .environmentConfig .environmentConfig config
  let s ← s.put .environment .environment
    { environment with status := some { stage := .buildImage, expectedRevision := some "1" } }
  s.put .environment .environment
    { metadata := { name := some "db", ns := some "dev" },
      spec := { revision := some "2", config := some "web" } }

theorem wellKeyed_neighbours {s : MemoryStore} (h : neighbours = .ok s) : s.WellKeyed := by
  obtain ⟨s₁, h₁, h⟩ := Except.bind_ok h
  obtain ⟨s₂, h₂, h₃⟩ := Except.bind_ok h
  exact ((MemoryStore.wellKeyed_empty.put h₁).put h₂).put h₃

def shared : Moment where
  memory := { stalls := { ceiling := some 3 } }
  world := { store := neighbours.toOption.getD {} }

end Sample

/-- The build of one image may be started before or after the pipeline of a neighbour begins. -/
theorem Moment.pass_comm_neighbours :
    Sample.key ≠ Sample.neighbour ∧ Sample.key.SlashFree ∧ Sample.shared.world.store.WellKeyed ∧
    Sample.shared.world.Calm ∧
    ((Sample.shared.pass {} .epoch Sample.neighbour).2.pass {} .epoch Sample.key).1 =
      (Sample.shared.pass {} .epoch Sample.key).1 ∧
    ((Sample.shared.pass {} .epoch Sample.key).2.pass {} .epoch Sample.neighbour).1 =
      (Sample.shared.pass {} .epoch Sample.neighbour).1 ∧
    ((Sample.shared.pass {} .epoch Sample.key).2.pass
      {} .epoch Sample.neighbour).2.world.store.objects =
      ((Sample.shared.pass {} .epoch Sample.neighbour).2.pass
        {} .epoch Sample.key).2.world.store.objects ∧
    ((Sample.shared.pass {} .epoch Sample.key).2.pass {} .epoch Sample.neighbour).2.memory =
      ((Sample.shared.pass {} .epoch Sample.neighbour).2.pass {} .epoch Sample.key).2.memory := by
  have hne : Sample.key ≠ Sample.neighbour := by decide
  have hkey : Sample.key.SlashFree := by decide
  have hw : Sample.shared.world.store.WellKeyed := Sample.wellKeyed_neighbours rfl
  have hc : Sample.shared.world.Calm := ⟨rfl, rfl⟩
  exact ⟨hne, hkey, hw, hc, Moment.pass_comm .epoch .epoch hne hkey hw hc⟩

end EnvOperator
