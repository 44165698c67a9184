import EnvOperator.ApiServer.Http
import EnvOperator.Json.Parser
import EnvOperator.Net.Http
import EnvOperator.Text.Quoted

/-! # Replies of the API server

A reply with an error status explains itself with a code, a reason and a message.
The code and the reason say which error it is for a store, except that a read
takes the reason alone as the word for a missing object.

What a body says beyond the members that are looked for may be unreadable, except
in the answer to a deletion, where the whole body has to be a document before it is
known what it holds.
-/
namespace EnvOperator

/-- What an error reply says. -/
structure Failure where
  code : Nat
  reason : String
  message : String

namespace Failure

def record : RecordCodec Failure :=
  RecordCodec.imap
    (.cons "status" (.mandatory .string) <| .cons "message" (.defaulted .string "") <|
      .cons "reason" (.defaulted .string "") <| .cons "code" (.mandatory .nat16) .nil)
    (fun (_, message, reason, code, _) => ⟨code.toNat, reason, message⟩)
    (fun f => ("Failure", f.message, f.reason, UInt16.ofNat f.code, ()))

/-- A body that explains nothing becomes the message itself. -/
def ofReply (reply : HttpReply) : Failure :=
  ((Json.scan reply.body).bind record.strict.decode).getD
    ⟨reply.status, "Failed to parse error data", Text.quoted reply.body⟩

def error (f : Failure) : StoreError :=
  if f.code = 404 then .notFound f.message
  else if f.code = 409 then
    if f.reason = "AlreadyExists" then .alreadyExists f.message else .conflict f.message
  else .api f.message

end Failure

namespace HttpReply

def refused : StoreError := .api "ServiceError: connection refused"

def isFailure (reply : HttpReply) : Bool := 400 ≤ reply.status && reply.status < 600

def decoded {α : Type} (c : Codec α) (reply : HttpReply) : Except StoreError α :=
  match (Json.scan reply.body).bind c.decode with
  | some a => .ok a
  | none => .error .serialization

def object {α : Type} (c : Codec α) (reply : HttpReply) : Except StoreError α :=
  if reply.isFailure then .error (Failure.ofReply reply).error else decoded c reply

/-- A missing object is no error for a read. -/
def object? {α : Type} (c : Codec α) (reply : HttpReply) : Except StoreError (Option α) :=
  if reply.isFailure && (Failure.ofReply reply).reason == "NotFound" then .ok none
  else (object c reply).map some

def causeRecord : RecordCodec (String × String × String) :=
  RecordCodec.imap
    (.cons "reason" (.defaulted .string "") <| .cons "message" (.defaulted .string "") <|
      .cons "field" (.defaulted .string "") .nil)
    (fun (reason, message, field, _) => (reason, message, field))
    (fun (reason, message, field) => (reason, message, field, ()))

def detailsRecord : RecordCodec (List (String × String × String)) :=
  RecordCodec.imap
    (.cons "name" (.defaulted .string "") <| .cons "group" (.defaulted .string "") <|
      .cons "kind" (.defaulted .string "") <| .cons "uid" (.defaulted .string "") <|
      .cons "causes" (.defaulted (.list causeRecord.strict) []) <|
      .cons "retryAfterSeconds" (.defaulted .nat32 0) .nil)
    (fun (_, _, _, _, causes, _) => causes) (fun causes => ("", "", "", "", causes, 0, ()))

/-- One of two words, alone or as the name of an object's only member, which is null. -/
def summary : Codec String where
  encode := .string
  decode
    | .string s | .object [(s, .null)] => if s = "Success" ∨ s = "Failure" then some s else none
    | _ => none

/-- The report a server may send instead of the object it has deleted. -/
def reportRecord : RecordCodec (Option String) :=
  RecordCodec.imap
    (.cons "status" (.optional summary) <| .cons "code" (.defaulted .nat16 0) <|
      .cons "message" (.defaulted .string "") <| .cons "reason" (.defaulted .string "") <|
      .cons "details" (.optional detailsRecord.strict) .nil)
    (fun (status, _) => status) (fun status => (status, 0, "", "", none, ()))

/-- Deletion gives back the deleted object or a report. -/
def deletion {α : Type} (c : Codec α) (reply : HttpReply) : Except StoreError Unit :=
  if reply.isFailure then .error (Failure.ofReply reply).error
  else
    match Json.parse reply.body with
    | none => .error .serialization
    | some j =>
      if j.member? "kind" = some (.string "Status") then
        if (reportRecord.strict.decode j).isSome then .ok () else .error .serialization
      else if (c.decode j).isSome then .ok () else .error .serialization

def answer (reply : HttpReply) : (r : Request) → r.Answer
  | .get k _ => reply.object? k.codec
  | .create k _ => reply.object k.codec
  | .replace k _ => reply.object k.codec
  | .delete k _ => reply.deletion k.codec
  | .updateStatus _ _ => (reply.object Environment.codec).map fun _ => ()

end HttpReply

namespace ApiServer

/-- Send a request, unless it cannot be put into words, and make an answer of the reply. -/
def exchange (send : HttpRequest → Option HttpReply) (r : Request) : List HttpRequest × r.Answer :=
  match HttpRequest.ofRequest r with
  | .error e => ([], .error e)
  | .ok request =>
    match send request with
    | none => ([request], .error HttpReply.refused)
    | some reply => ([request], reply.answer r)

end ApiServer
end EnvOperator
