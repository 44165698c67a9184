import EnvOperator.Proofs.Documents.Patch
import EnvOperator.Proofs.Pass.Advancing

/-! # Two ways to store a status

A store in memory puts a status in the place of another one, and a cluster is sent a merge patch,
which cannot unset anything. They come to the same for the statuses of passes, because no pass
unsets anything.
-/
namespace EnvOperator

theorem EnvironmentStatus.Advances.keeps {revision : String} {old new : EnvironmentStatus}
    {now : Instant} (h : old.Advances revision new) (hu : new.lastUpdated = some now) :
    old.Keeps new where
  expectedRevision _ := by simp [h.expectedRevision]
  deployedRevision hold := by
    rcases h.deployedRevision with hd | hd
    · rwa [hd]
    · simp [hd]
  lastUpdated _ := by simp [hu]

namespace Pass
variable {settings : Settings} {now : Instant} {key : ObjectKey} {m : PassMemory} {w : World}
  {tags : String → String → Except RegistryError (List String)}

/-- Whatever JSON object is stored for an environment: if a pass asks for a status to be stored,
then the object that is patched with it reads as the environment with that status and with nothing
else changed, and this is the environment that a store in memory is left with. -/
theorem patched_as_stored {ms : Json.Members} {e : Environment} {key' : ObjectKey}
    {st : EnvironmentStatus}
    (hstored : w.store.objects.get? ⟨.environment, key⟩ = some (.object ms))
    (he : Environment.codec.decode (.object ms) = some e)
    (h : .store (.updateStatus key' st) ∈ (run settings now key m).asked (World.answering tags) w) :
    key' = key ∧ ∃ e', Environment.codec.decode
      (Json.mergePatch (.object ms) (HttpRequest.statusPatch st)) = some e' ∧
      e'.status = some st ∧ e'.metadata = e.metadata ∧ e'.spec = e.spec ∧
      ∀ s : MemoryStore, s.objects.get? ⟨.environment, key⟩ = some (.object ms) →
        (s.updateStatus key st).2.objects.get? ⟨.environment, key⟩ =
          some (Environment.codec.encode e') := by
  obtain ⟨hkey, e₀, r, he₀, _, hu, hadv, _⟩ := asked_status h
  have hsame : w.store.stored? .environment key = some e := by
    rw [MemoryStore.stored?, hstored]
    exact he
  cases hsame.symm.trans he₀
  refine ⟨hkey, { e with status := some st }, Environment.decode_statusPatch he (hadv.keeps hu),
    rfl, rfl, rfl, ?_⟩
  intro s hs
  have hread : s.stored? .environment key = some e := by
    rw [MemoryStore.stored?, hs]
    exact he
  rw [MemoryStore.updateStatus_of_stored hread]
  simp

end Pass

namespace Sample

/-- A document of an environment whose image is about to be built. Its status has a null and a
member that means nothing. -/
def documented : Json.Members :=
  Json.assign "status" (.object [("stage", .string "BuildImage"), ("observed", .integer 3),
    ("expectedRevision", .string "1"), ("deployedRevision", .null)])
      (Environment.codec.encode environment).membersOf

def documentedWorld : World :=
  { first.world with
    store.objects :=
      first.world.store.objects.insert ⟨.environment, key⟩ (.object documented) }

end Sample

set_option maxRecDepth 100000 in
/-- The null and the member that means nothing do no harm. -/
theorem Pass.patched_as_stored_documented : ∃ e st,
    Sample.documentedWorld.store.objects.get? ⟨.environment, Sample.key⟩ =
      some (.object Sample.documented) ∧
    Environment.codec.decode (.object Sample.documented) = some e ∧
    .store (.updateStatus Sample.key st) ∈
      (run {} .epoch Sample.key Sample.first.memory).asked (World.answering fun _ _ => .ok [])
        Sample.documentedWorld ∧
    st.stage = .buildImageWait ∧
    ∃ e', Environment.codec.decode
      (Json.mergePatch (.object Sample.documented) (HttpRequest.statusPatch st)) =
      some e' ∧ e'.status = some st ∧ e'.metadata = e.metadata ∧ e'.spec = e.spec := by
  have hstored : Sample.documentedWorld.store.objects.get? ⟨.environment, Sample.key⟩ =
      some (.object Sample.documented) := by
    simp [Sample.documentedWorld]
  have he : (Environment.codec.decode (.object Sample.documented)).isSome = true := by
    decide +kernel
  have hasked :
      (((run {} .epoch Sample.key Sample.first.memory).asked (World.answering fun _ _ => .ok [])
      Sample.documentedWorld).findSome? Query.status?).map (·.stage) = some .buildImageWait := by
        decide +kernel
  obtain ⟨e, he⟩ := Option.isSome_iff_exists.mp he
  obtain ⟨st, hfirst, hstage⟩ := Option.map_eq_some_iff.mp hasked
  obtain ⟨q, hq, hst⟩ := List.exists_of_findSome?_eq_some hfirst
  obtain ⟨key', rfl⟩ := Query.eq_of_status? hst
  obtain ⟨rfl, e', hpatched, hstatus, hmeta, hspec, _⟩ := patched_as_stored hstored he hq
  exact ⟨e, st, hstored, he, hq, hstage, e', hpatched, hstatus, hmeta, hspec⟩

end EnvOperator
