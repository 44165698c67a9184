import EnvOperator.Json.Codec
import EnvOperator.Json.Parser
import EnvOperator.Net.Http
import EnvOperator.Registry.Basic

/-! # The registry client

One query of a registry over HTTP: fetch the address of the tags and read the
list in the answer. A repository without tags may have none listed at all.
-/
namespace EnvOperator

namespace Registry

def tagList : RecordCodec (Option (List String)) :=
  RecordCodec.imap (.cons "tags" (.optional (.list .string)) .nil) (fun (tags, _) => tags)
    (fun tags => (tags, ()))

/-- What an answer of the registry, or its absence, says about the tags. -/
def readTags (url : String) : Option HttpReply → Except RegistryError (List String)
  | none => .error .unreachable
  | some reply =>
    if 200 ≤ reply.status ∧ reply.status < 300 then
      match Json.scan reply.body >>= tagList.strict.decode with
      | none => .error .unreachable
      | some tags => .ok (tags.getD [])
    else .error (.unexpectedStatus reply.status url)

def listTags (fetch : String → Option HttpReply) (url repository : String) :
    Except RegistryError (List String) :=
  let address := tagsUrl url repository
  readTags address (fetch address)

def hasTag (fetch : String → Option HttpReply) (url repository tag : String) :
    Except RegistryError Bool :=
  (listTags fetch url repository).map (·.contains tag)

end Registry
end EnvOperator
