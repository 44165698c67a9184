import EnvOperator.Cluster.Meta

/-! # Secrets

A secret holds bytes under names.
-/
namespace EnvOperator

structure Secret where
  metadata : ObjectMeta
  data : Option (SortedMap String Bytes) := none
  stringData : Option StringMap := none
  type : Option String := none
  immutable : Option Bool := none
deriving DecidableEq

namespace Secret

def record : RecordCodec Secret :=
  RecordCodec.imap
    (.cons "metadata" (.required ObjectMeta.codec {}) <| .cons "data" (.optional (.map .bytes)) <|
      .cons "stringData" (.optional (.map .string)) <| .cons "type" (.optional .string) <|
      .cons "immutable" (.optional .bool) .nil)
    (fun (metadata, data, text, type, immutable, _) => ⟨metadata, data, text, type, immutable⟩)
    (fun s => (s.metadata, s.data, s.stringData, s.type, s.immutable, ()))

def codec : Codec Secret := record.ofKind "v1" "Secret"

/-- The text stored under a name, if there is any and it is text. -/
def text? (s : Secret) (name : String) : Option String := do (← (← s.data).get? name).text?

end Secret
end EnvOperator
