import EnvOperator.Cluster.Container

/-! # Pods

A pod template says which containers the pods of a job or of a deployment run.
-/
namespace EnvOperator

abbrev PodSpec.Rest : Fields := .of Schema.podRest

structure PodSpec where
  containers : List Container
  restartPolicy : Option String := none
  rest : PodSpec.Rest.Val := PodSpec.Rest.empty
deriving DecidableEq

namespace PodSpec

def record : RecordCodec PodSpec :=
  RecordCodec.imap
    (.cons "containers" (.required (.list Container.codec) []) <|
      .cons "restartPolicy" (.optional .string) Rest.codec)
    (fun (containers, restart, rest) => ⟨containers, restart, rest⟩)
    (fun p => (p.containers, p.restartPolicy, p.rest))

def codec : Codec PodSpec := record.object

end PodSpec

structure PodTemplate where
  metadata : Option ObjectMeta := none
  spec : Option PodSpec := none
deriving DecidableEq

namespace PodTemplate

def record : RecordCodec PodTemplate :=
  RecordCodec.imap
    (.cons "metadata" (.optional ObjectMeta.codec) <| .cons "spec" (.optional PodSpec.codec) .nil)
    (fun (metadata, spec, _) => ⟨metadata, spec⟩) (fun t => (t.metadata, t.spec, ()))

def codec : Codec PodTemplate := record.object

end PodTemplate

structure LabelSelector where
  matchLabels : Option StringMap := none
  matchExpressions : Option (List Schema.labelSelectorRequirement.Val) := none
deriving DecidableEq

namespace LabelSelector

def record : RecordCodec LabelSelector :=
  RecordCodec.imap
    (.cons "matchLabels" (.optional (.map .string)) <|
      .cons "matchExpressions" (.optional (.list Schema.labelSelectorRequirement.codec)) .nil)
    (fun (labels, expressions, _) => ⟨labels, expressions⟩)
    (fun s => (s.matchLabels, s.matchExpressions, ()))

def codec : Codec LabelSelector := record.object

end LabelSelector
end EnvOperator
