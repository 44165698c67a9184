import EnvOperator.Cluster.Schema.Basic

/-! # Metadata of cluster objects

Every object has a name, usually in a namespace, with labels and annotations. The
server adds the identity and the version of the object, and counts the changes of
its specification.
-/
namespace EnvOperator

abbrev StringMap := SortedMap String String

structure OwnerReference where
  apiVersion : String
  kind : String
  name : String
  uid : String
  controller : Option Bool := none
  blockOwnerDeletion : Option Bool := none
deriving DecidableEq

namespace OwnerReference

def record : RecordCodec OwnerReference :=
  RecordCodec.imap
    (.cons "apiVersion" (.required .string "") <| .cons "kind" (.required .string "") <|
      .cons "name" (.required .string "") <| .cons "uid" (.required .string "") <|
      .cons "controller" (.optional .bool) <| .cons "blockOwnerDeletion" (.optional .bool) .nil)
    (fun (apiVersion, kind, name, uid, controller, block, _) =>
      ⟨apiVersion, kind, name, uid, controller, block⟩)
    (fun o => (o.apiVersion, o.kind, o.name, o.uid, o.controller, o.blockOwnerDeletion, ()))

def codec : Codec OwnerReference := record.object

end OwnerReference

abbrev ObjectMeta.Rest : Fields := .of Schema.objectMetaRest

structure ObjectMeta where
  name : Option String := none
  ns : Option String := none
  labels : Option StringMap := none
  annotations : Option StringMap := none
  resourceVersion : Option String := none
  uid : Option String := none
  generation : Option Int64 := none
  ownerReferences : Option (List OwnerReference) := none
  rest : ObjectMeta.Rest.Val := ObjectMeta.Rest.empty
deriving DecidableEq

namespace ObjectMeta

def record : RecordCodec ObjectMeta :=
  RecordCodec.imap
    (.cons "name" (.optional .string) <| .cons "namespace" (.optional .string) <|
      .cons "labels" (.optional (.map .string)) <| .cons "annotations" (.optional (.map .string)) <|
      .cons "resourceVersion" (.optional .string) <| .cons "uid" (.optional .string) <|
      .cons "generation" (.optional .int64) <|
      .cons "ownerReferences" (.optional (.list OwnerReference.codec)) Rest.codec)
    (fun (name, ns, labels, annotations, version, uid, generation, owners, rest) =>
      ⟨name, ns, labels, annotations, version, uid, generation, owners, rest⟩)
    (fun m => (m.name, m.ns, m.labels, m.annotations, m.resourceVersion, m.uid, m.generation,
      m.ownerReferences, m.rest))

def codec : Codec ObjectMeta := record.object

instance : Inhabited ObjectMeta := ⟨{}⟩

end ObjectMeta
end EnvOperator
