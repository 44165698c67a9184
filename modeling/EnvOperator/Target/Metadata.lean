import EnvOperator.Snapshot.Basic

/-! # Metadata of the objects an environment owns

Labels and annotations that others have put on an object are kept, except that
the revision annotation always says what the object is now made for. The version
of the object that was found goes along with a change, so that the server can
refuse it if somebody else was faster.
-/
namespace EnvOperator
namespace Snapshot

def revisionAnnotations (s : Snapshot) : StringMap :=
  .ofList [(Naming.revisionAnnotation, s.revisionText)]

def ownedMeta (s : Snapshot) (name component : String) : ObjectMeta where
  name := some name
  ns := some s.key.ns
  labels := some ((Naming.environmentLabels s.key.name).insert Naming.componentLabel component)
  annotations := some s.revisionAnnotations
  ownerReferences := s.environment.ownerReference.map fun owner => [owner]

end Snapshot

namespace ObjectMeta

/-- Entries found on the object win, except under the names in `own` that are already given. -/
def mergeEntries (own : List String) (given found : StringMap) : StringMap :=
  given.overlay ⟨found.entries.filter fun e => !(own.contains e.1 && given.contains e.1),
    found.increasing.filter _⟩

def mergeMap (own : List String) (given found : Option StringMap) : Option StringMap :=
  match found with
  | none => given
  | some found => some (mergeEntries own (given.getD ∅) found)

def mergeExisting (m : ObjectMeta) (existing : Option ObjectMeta) : ObjectMeta :=
  match existing with
  | none => m
  | some existing =>
    { m with
      labels := mergeMap [] m.labels existing.labels
      annotations := mergeMap [Naming.revisionAnnotation] m.annotations existing.annotations
      resourceVersion := existing.resourceVersion }

end ObjectMeta
end EnvOperator
