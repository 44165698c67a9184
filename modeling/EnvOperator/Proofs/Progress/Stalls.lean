import EnvOperator.Progress.Stall
import EnvOperator.Proofs.Progress.History

/-! # What stalls are counted

However the passes of many resources come in between one another, the count of one is the length of
the row of passes that have left it in its waiting stage, as long as no row is too long for the
counter. Only a row that is longer than the ceiling is a stall.
-/
namespace EnvOperator
open TableCall (recorded)

/-- How many of the latest stages in a row are one and the same waiting stage; the latest one comes
first. -/
def Stage.row : List Stage → Nat
  | [] => 0
  | stage :: earlier =>
    if stage.isWaiting then ((stage :: earlier).takeWhile (· = stage)).length else 0

namespace StallTable
variable {t : StallTable} {key : String} {stage : Stage}

def tally : List Stage → Option (Stage × UInt32)
  | [] => none
  | stage :: earlier =>
    if stage.isWaiting then some (stage, nextCount (tally earlier) stage) else none

theorem nextCount_self (stage : Stage) (n : UInt32) :
    nextCount (some (stage, n)) stage = n + 1 := by
  simp [nextCount]

theorem nextCount_tally (h : stage.isWaiting = true) (l : List Stage) :
    nextCount (tally l) stage = UInt32.ofNat ((l.takeWhile (· = stage)).length + 1) := by
  induction l with
  | nil => rfl
  | cons a l ih =>
    by_cases ha : a = stage
    · subst ha
      simp [tally, h, nextCount_self, ih, UInt32.ofNat_add]
    · cases hw : a.isWaiting <;> simp [tally, hw, nextCount, ha]

theorem tally_row (l : List Stage) :
    ((tally l).map Prod.snd).getD 0 = UInt32.ofNat (Stage.row l) := by
  cases l with
  | nil => rfl
  | cons stage earlier =>
    cases hw : stage.isWaiting with
    | false => simp [tally, Stage.row, hw]
    | true => simp [tally, Stage.row, hw, nextCount_tally hw]

/-! ## Calls -/

def call (t : StallTable) : TableCall String Stage → StallTable
  | .record key stage => (t.record key stage).2
  | .drop key => t.clear key

def after (ceiling : Option UInt32) (past : List (TableCall String Stage)) : StallTable :=
  past.foldr (fun c t => t.call c) { ceiling }

theorem local_call : TableCall.Local (fun t key => t.counts.get? key) call
    (fun before stage => if stage.isWaiting then
      some (stage, nextCount before stage) else none) where
  record t key stage := by
    cases hw : stage.isWaiting <;> simp [call, record, clear, hw]
  drop t key := by simp [call, clear]
  others t c key h := by
    cases c with
    | record key' stage =>
      have hne : key ≠ key' := Ne.symm h
      cases hw : stage.isWaiting <;> simp [call, record, clear, hw, hne]
    | drop key' =>
      have hne : key ≠ key' := Ne.symm h
      simp [call, clear, hne]

theorem ceiling_call (t : StallTable) (c : TableCall String Stage) :
    (t.call c).ceiling = t.ceiling := by
  cases c with
  | record key stage => cases hw : stage.isWaiting <;> simp [call, record, clear, hw]
  | drop key => rfl

theorem ceiling_after (ceiling : Option UInt32) (past : List (TableCall String Stage)) :
    (after ceiling past).ceiling = ceiling := by
  induction past with
  | nil => rfl
  | cons c past ih => exact (ceiling_call _ c).trans ih

theorem get?_after (ceiling : Option UInt32) (past : List (TableCall String Stage)) (key : String) :
    (after ceiling past).counts.get? key = tally (recorded key past) := by
  rw [after, local_call.look_eq (fun _ => rfl)]
  induction recorded key past with
  | nil => rfl
  | cons stage earlier ih => rw [List.foldr_cons, ih, tally]

theorem record_iff : (t.record key stage).1 = true ↔
    stage.isWaiting = true ∧ ∃ n, t.ceiling = some n ∧ n < (t.record key stage).2.passes key := by
  cases hw : stage.isWaiting with
  | false => simp [record, hw]
  | true => cases hc : t.ceiling <;> simp [record, passes, hw, hc]

theorem passes_toNat (ceiling : Option UInt32) (past : List (TableCall String Stage))
    (key : String) :
    ((after ceiling past).passes key).toNat = Stage.row (recorded key past) % UInt32.size := by
  rw [passes, get?_after, tally_row, UInt32.toNat_ofNat']

/-- After any calls, the count of a resource is the number of passes in a row, up to the latest one
since it was last cleared, that have left it in one waiting stage, modulo 2 ^ 32. Below that, a pass
is said to be beyond the ceiling just when there is one, the stage is a waiting one, and the row
that ends with this pass is longer than it. -/
theorem passes_after (ceiling : Option UInt32) (past : List (TableCall String Stage)) :
    (∀ key, ((after ceiling past).passes key).toNat = Stage.row (recorded key past) % UInt32.size) ∧
    ∀ key stage, Stage.row (recorded key (.record key stage :: past)) < UInt32.size →
      (((after ceiling past).record key stage).1 = true ↔ ∃ n, ceiling = some n ∧
        stage.isWaiting = true ∧
        n.toNat < Stage.row (recorded key (.record key stage :: past))) := by
  refine ⟨passes_toNat ceiling past, fun key stage hrow => ?_⟩
  have hcount := passes_toNat ceiling (.record key stage :: past) key
  rw [Nat.mod_eq_of_lt hrow] at hcount
  have hnext : after ceiling (.record key stage :: past) =
      ((after ceiling past).record key stage).2 := rfl
  rw [record_iff, ceiling_after, ← hnext, ← hcount]
  constructor
  · rintro ⟨hw, n, hn, hlt⟩
    exact ⟨n, hn, hw, UInt32.lt_iff_toNat_lt.mp hlt⟩
  · rintro ⟨n, hn, hw, hlt⟩
    exact ⟨hw, n, hn, UInt32.lt_iff_toNat_lt.mpr hlt⟩

end StallTable

def Sample.interleaved : List (TableCall String Stage) :=
  [.record "dev/web" .buildImageWait, .record "dev/api" .deployVerify,
    .record "dev/web" .buildImageWait, .drop "dev/web", .record "dev/web" .buildImageWait,
    .record "dev/api" .deployVerify]

/-- The third pass in a row is beyond a ceiling of two, whatever came before the resource was
cleared. -/
theorem StallTable.passes_after_interleaved :
    Stage.row (recorded "dev/web" (.record "dev/web" .buildImageWait :: Sample.interleaved)) <
      UInt32.size ∧
    ((after (some 2) Sample.interleaved).passes "dev/web").toNat = 2 ∧
    ((after (some 2) Sample.interleaved).record "dev/web" .buildImageWait).1 = true := by
  obtain ⟨hcount, hbeyond⟩ := passes_after (some 2) Sample.interleaved
  have hrow : Stage.row
      (recorded "dev/web" (.record "dev/web" .buildImageWait :: Sample.interleaved)) = 3 := by
    decide
  have hsmall : 3 < UInt32.size := by decide
  rw [← hrow] at hsmall
  refine ⟨hsmall, (hcount "dev/web").trans (by decide),
    (hbeyond "dev/web" .buildImageWait hsmall).mpr ?_⟩
  exact ⟨2, rfl, rfl, by rw [hrow]; decide⟩

end EnvOperator
