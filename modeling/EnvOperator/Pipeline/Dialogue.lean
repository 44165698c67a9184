import EnvOperator.Registry.Basic
import EnvOperator.Store.Request

/-! # Dialogues

A dialogue asks the store and the registry one question at a time and goes on by
what they answer. Whoever answers keeps a state, so the same dialogue can be held
with a store in memory or with one that fails.

What ends a pass with an error is an answer that it cannot go on with, or something that it finds
missing.
-/
namespace EnvOperator

inductive PassError
  | store (e : StoreError)
  | registry (e : RegistryError)
  | missingConfig (key : ObjectKey)
  | missingCredentials (key : ObjectKey)
  | buildFailed (reason : String)
  | imageMissing (repository tag : String)
deriving DecidableEq

namespace PassError

def message : PassError → String
  | store e => "store error: " ++ e.message
  | registry e => "registry error: " ++ e.message
  | missingConfig key => "environment config " ++ key.text ++ " not found"
  | missingCredentials key => "storage credentials secret " ++ key.text ++ " not found"
  | buildFailed reason => "build job failed: " ++ reason
  | imageMissing repository tag => "image " ++ repository ++ ":" ++ tag ++ " not found in registry"

end PassError

inductive Query
  | store (r : Request)
  | tags (url repository : String)

namespace Query

abbrev Answer : Query → Type
  | store r => r.Answer
  | tags _ _ => Except RegistryError (List String)

end Query

inductive Dialogue (α : Type)
  | done (a : α)
  | ask (q : Query) (next : q.Answer → Dialogue α)

namespace Dialogue
variable {α β σ : Type}

protected def bind : Dialogue α → (α → Dialogue β) → Dialogue β
  | done a, f => f a
  | ask q next, f => ask q fun answer => (next answer).bind f

instance : Monad Dialogue where
  pure := done
  bind := Dialogue.bind

theorem bind_done : ∀ d : Dialogue α, d.bind done = d
  | done _ => rfl
  | ask q next => congrArg (ask q) (funext fun answer => bind_done (next answer))

theorem bind_assoc {γ : Type} : ∀ (d : Dialogue α) (f : α → Dialogue β) (g : β → Dialogue γ),
    (d.bind f).bind g = d.bind fun a => (f a).bind g
  | done _, _, _ => rfl
  | ask q next, f, g => congrArg (ask q) (funext fun answer => bind_assoc (next answer) f g)

instance : LawfulMonad Dialogue := LawfulMonad.mk' Dialogue bind_done (fun _ _ => rfl) bind_assoc

/-- Hold the dialogue with somebody who answers from a state. -/
def run (answer : (q : Query) → σ → q.Answer × σ) : Dialogue α → σ → α × σ
  | done a, s => (a, s)
  | ask q next, s => (next (answer q s).1).run answer (answer q s).2

theorem run_bind (answer : (q : Query) → σ → q.Answer × σ) :
    ∀ (d : Dialogue α) (f : α → Dialogue β) (s : σ), (d.bind f).run answer s =
      (f (d.run answer s).1).run answer (d.run answer s).2
  | done _, _, _ => rfl
  | ask q next, f, s => run_bind answer (next (answer q s).1) f (answer q s).2

def request (r : Request) : Dialogue r.Answer := ask (.store r) done

def tags (url repository : String) : Dialogue (Except RegistryError (List String)) :=
  ask (.tags url repository) done

def hasTag (url repository tag : String) : Dialogue (Except RegistryError Bool) := do
  return (← tags url repository).map (·.contains tag)

end Dialogue
end EnvOperator
