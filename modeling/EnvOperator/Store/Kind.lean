import EnvOperator.Cluster.Deployment
import EnvOperator.Cluster.Ingress
import EnvOperator.Cluster.Job
import EnvOperator.Cluster.Secret
import EnvOperator.Cluster.Service
import EnvOperator.Environment.Basic
import EnvOperator.Environment.Config
import EnvOperator.Store.Key

/-! # Kinds of objects

The kinds that the operator reads or writes, with the objects of each kind and
their documents.
-/
namespace EnvOperator

inductive Kind
  | environment
  | environmentConfig
  | secret
  | job
  | deployment
  | service
  | ingress
deriving DecidableEq

namespace Kind

def all : List Kind := [environment, environmentConfig, secret, job, deployment, service, ingress]

def name : Kind → String
  | environment => "Environment"
  | environmentConfig => "EnvironmentConfig"
  | secret => "Secret"
  | job => "Job"
  | deployment => "Deployment"
  | service => "Service"
  | ingress => "Ingress"

def ofName? (s : String) : Option Kind := all.find? (fun k => k.name == s)

abbrev Object : Kind → Type
  | environment => Environment
  | environmentConfig => EnvironmentConfig
  | secret => Secret
  | job => Job
  | deployment => Deployment
  | service => Service
  | ingress => Ingress

def codec : (k : Kind) → Codec k.Object
  | environment => Environment.codec
  | environmentConfig => EnvironmentConfig.codec
  | secret => Secret.codec
  | job => Job.codec
  | deployment => Deployment.codec
  | service => Service.codec
  | ingress => Ingress.codec

def metadata : (k : Kind) → k.Object → ObjectMeta
  | environment => Environment.metadata
  | environmentConfig => EnvironmentConfig.metadata
  | secret => Secret.metadata
  | job => Job.metadata
  | deployment => Deployment.metadata
  | service => Service.metadata
  | ingress => Ingress.metadata

def keyOf (k : Kind) (object : k.Object) : Except StoreError ObjectKey :=
  ObjectKey.ofMeta (k.metadata object)

@[simp] theorem ofName?_name (k : Kind) : ofName? k.name = some k := by cases k <;> decide

end Kind

/-- Where a store keeps an object. -/
structure ObjectId where
  kind : Kind
  key : ObjectKey
deriving DecidableEq

namespace ObjectId

def text (id : ObjectId) : String := id.kind.name ++ " " ++ id.key.text

instance : Ord ObjectId := ⟨compareLex (compareOn fun i => i.kind.name) (compareOn ObjectId.key)⟩

instance : Std.TransOrd ObjectId :=
  inferInstanceAs
    (Std.TransCmp (compareLex (compareOn fun i : ObjectId => i.kind.name) (compareOn ObjectId.key)))

instance : Std.LawfulEqOrd ObjectId where
  eq_of_compare {a b} h := by
    have h : (compare a.kind.name b.kind.name).then (compare a.key b.key) = .eq := h
    rw [Ordering.then_eq_eq, Std.LawfulEqCmp.compare_eq_iff_eq,
      Std.LawfulEqCmp.compare_eq_iff_eq] at h
    have hk : a.kind = b.kind := by simpa using congrArg Kind.ofName? h.1
    cases a; cases b; simp_all

end ObjectId
end EnvOperator
