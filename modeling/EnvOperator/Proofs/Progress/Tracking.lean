import EnvOperator.Progress.Tracker
import EnvOperator.Proofs.Progress.History
import Mathlib.Data.Finset.Card

/-! # What is tracked

However environments are tracked and forgotten in between one another, the entry of one is made of
its two latest records since it was last forgotten: the latest one is shown, and the stage before is
that of the other.
-/
namespace EnvOperator
open TableCall (recorded)

structure Sighting where
  status : String
  stage : Stage
  time : Instant
deriving DecidableEq

/-- The entry that is left of sightings, the latest first. -/
def Tracked.ofSightings? : List Sighting → Option Tracked
  | [] => none
  | x :: earlier => some
    { status := x.status, stage := x.stage, updatedAt := x.time
      lastStage := (earlier.head?.map (·.stage)).getD x.stage }

theorem Tracked.map_stage_ofSightings? (xs : List Sighting) :
    (ofSightings? xs).map (·.stage) = xs.head?.map (·.stage) := by
  cases xs <;> rfl

namespace Tracker

def call (t : Tracker) : TableCall ObjectKey Sighting → Tracker
  | .record key x => (t.record key x.status x.stage x.time).2
  | .drop key => t.forget key

def after (past : List (TableCall ObjectKey Sighting)) : Tracker :=
  past.foldr (fun c t => call t c) ∅

def trackedKeys (past : List (TableCall ObjectKey Sighting)) : Finset ObjectKey :=
  (past.map TableCall.key).toFinset.filter fun key => recorded key past ≠ []

theorem local_call : TableCall.Local (fun (t : Tracker) key => t.get? key) call
    (fun before x => some (next before x.status x.stage x.time)) where
  record t key x := by simp [call, record]
  drop t key := by simp [call, get?_forget]
  others t c key h := by
    cases c with
    | record key' x =>
      have hne : key ≠ key' := Ne.symm h
      simp [call, record, hne]
    | drop key' =>
      have hne : key ≠ key' := Ne.symm h
      simp [call, get?_forget, hne]

variable (past : List (TableCall ObjectKey Sighting)) (key : ObjectKey)

theorem get?_after : (after past).get? key = Tracked.ofSightings? (recorded key past) := by
  rw [after, local_call.look_eq (fun _ => rfl)]
  induction recorded key past with
  | nil => rfl
  | cons x earlier ih =>
    rw [List.foldr_cons, ih, next, Tracked.map_stage_ofSightings?, Tracked.ofSightings?]

theorem isSome_get?_after : ((after past).get? key).isSome = true ↔ recorded key past ≠ [] := by
  rw [get?_after]
  cases recorded key past <;> simp [Tracked.ofSightings?]

theorem mem_trackedKeys : key ∈ trackedKeys past ↔ recorded key past ≠ [] := by
  rw [trackedKeys, Finset.mem_filter, List.mem_toFinset]
  refine and_iff_right_of_imp fun h => ?_
  by_contra hnone
  exact h (TableCall.recorded_of_ne fun c hc he => hnone (List.mem_map.mpr ⟨c, hc, he⟩))

theorem size_after : (after past).size = (trackedKeys past).card := by
  have hkeys : (after past).keys.toFinset = trackedKeys past := by
    ext key
    rw [List.mem_toFinset, SortedMap.mem_keys_iff, isSome_get?_after, mem_trackedKeys]
  rw [← hkeys, List.toFinset_card_of_nodup (after past).nodup_keys, SortedMap.keys, List.length_map,
    SortedMap.size]

theorem hasChanged_after : (after past).hasChanged key = true ↔
    ∃ x y earlier, recorded key past = x :: y :: earlier ∧ x.stage ≠ y.stage := by
  rw [hasChanged, get?_after]
  rcases recorded key past with _ | ⟨x, _ | ⟨y, earlier⟩⟩
  · simp [Tracked.ofSightings?]
  · simp [Tracked.ofSightings?, Tracked.hasChanged]
  · simp [Tracked.ofSightings?, Tracked.hasChanged]

variable {past key}

theorem get?_of_later {later : List (TableCall ObjectKey Sighting)} (x : Sighting)
    (h : ∀ c ∈ later, c.key ≠ key) : (after (later ++ .record key x :: past)).get? key =
      some ((after past).record key x.status x.stage x.time).1 := by
  have hlater : (after (later ++ .record key x :: past)).get? key =
      (after (.record key x :: past)).get? key := by
    rw [get?_after, get?_after, TableCall.recorded_append_of_ne h]
  rw [hlater]
  exact (SortedMap.get?_insert _ _ _ _).trans (if_pos rfl)

theorem lastStage_record (x : Sighting) :
    ((after past).record key x.status x.stage x.time).1.lastStage =
    ((recorded key past).head?.map (·.stage)).getD x.stage := by
  rw [record, get?_after, next, Tracked.map_stage_ofSightings?]

/-- After any calls, a call that tracks an environment gives an entry of what it tells, with the
stage of the call before it for the same environment unless there is none since this was forgotten.
The entry is there until the next call for the environment, whatever calls come for others, and
these leave it alone. As many environments are known as have been tracked and not been forgotten
since, and one has changed just when its two latest calls since then tell of different stages. -/
theorem entries_after (past : List (TableCall ObjectKey Sighting)) :
    (∀ key (x : Sighting), let entry := ((after past).record key x.status x.stage x.time).1
      entry.status = x.status ∧ entry.stage = x.stage ∧ entry.updatedAt = x.time ∧
      entry.lastStage = ((recorded key past).head?.map (·.stage)).getD x.stage ∧
      ∀ later, (∀ c ∈ later, c.key ≠ key) → (after (later ++ .record key x :: past)).get? key =
        some entry) ∧
    (∀ (c : TableCall ObjectKey Sighting) (key : ObjectKey), c.key ≠ key →
      (after (c :: past)).get? key = (after past).get? key) ∧
    (after past).size = (trackedKeys past).card ∧
    ∀ key, (after past).hasChanged key = true ↔
      ∃ x y earlier, recorded key past = x :: y :: earlier ∧ x.stage ≠ y.stage := by
  refine ⟨fun key x => ?_, fun c key h => local_call.others _ h, size_after past,
    hasChanged_after past⟩
  exact ⟨rfl, rfl, rfl, lastStage_record x, fun later h => get?_of_later x h⟩

end Tracker

namespace Sample

def web : ObjectKey := ⟨"dev", "web"⟩

def api : ObjectKey := ⟨"dev", "api"⟩

def sightedVerifying : Sighting := ⟨"Verifying image", .buildImageVerify, .epoch⟩

def sightedDeploying : Sighting := ⟨"Deploying", .deploy, .epoch⟩

def comeBack : List (TableCall ObjectKey Sighting) :=
  [.record api sightedDeploying, .record web sightedVerifying, .drop web,
    .record web sightedDeploying]

end Sample

/-- What was known of an environment before it was forgotten does not count, nor does what is told
of another one. -/
theorem Tracker.entries_after_comeBack :
    (∀ c ∈ [TableCall.record Sample.api Sample.sightedVerifying], c.key ≠ Sample.web) ∧
    (after
      (.record Sample.api Sample.sightedVerifying :: .record Sample.web Sample.sightedDeploying ::
      Sample.comeBack)).get? Sample.web = some ⟨"Deploying", .deploy, .buildImageVerify, .epoch⟩ ∧
    (after Sample.comeBack).size = 2 ∧ (after Sample.comeBack).hasChanged Sample.web = false := by
  obtain ⟨htracks, _, hsize, hchanged⟩ := entries_after Sample.comeBack
  obtain ⟨_, _, _, _, hget⟩ := htracks Sample.web Sample.sightedDeploying
  have hothers : ∀ c ∈ [TableCall.record Sample.api Sample.sightedVerifying], c.key ≠
      Sample.web := by decide
  have honce : recorded Sample.web Sample.comeBack = [Sample.sightedVerifying] := by decide
  refine ⟨hothers, (hget _ hothers).trans (congrArg some (by decide)), hsize.trans (by decide), ?_⟩
  rw [Bool.eq_false_iff, ne_eq, hchanged, honce]
  rintro ⟨_, _, _, htwice, _⟩
  cases htwice

end EnvOperator
