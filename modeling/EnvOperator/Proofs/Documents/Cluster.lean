import EnvOperator.Cluster.Deployment
import EnvOperator.Cluster.Ingress
import EnvOperator.Cluster.Job
import EnvOperator.Cluster.Secret
import EnvOperator.Cluster.Service
import EnvOperator.Json.ShapeLemmas

/-! # Documents of cluster objects

Every cluster object, and every part of one, is read back from its document.
-/
namespace EnvOperator
open Codec MemberCodec RecordCodec

theorem OwnerReference.lawful : OwnerReference.codec.Lawful := by
  refine Lawful.object (Lawful.imap ?_ fun _ => rfl) (by decide)
  iterate 4 refine lawful_cons (lawful_required lawful_string _) ?_
  iterate 2 refine lawful_cons (lawful_optional lawful_bool) ?_
  exact lawful_nil

theorem StringMap.lawful : (Codec.map Codec.string).Lawful := lawful_map lawful_string

theorem ObjectMeta.lawful : ObjectMeta.codec.Lawful := by
  refine Lawful.object (Lawful.imap ?_ fun _ => rfl) (by decide)
  iterate 2 refine lawful_cons (lawful_optional lawful_string) ?_
  iterate 2 refine lawful_cons (lawful_optional StringMap.lawful) ?_
  iterate 2 refine lawful_cons (lawful_optional lawful_string) ?_
  refine lawful_cons (lawful_optional lawful_int64) ?_
  refine lawful_cons (lawful_optional (lawful_list OwnerReference.lawful)) ?_
  exact Fields.lawful _ (by decide)

/-! ## Pods -/

theorem EnvVar.lawful : EnvVar.codec.Lawful := by
  refine Lawful.object (Lawful.imap ?_ fun _ => rfl) (by decide)
  refine lawful_cons (lawful_required lawful_string _) ?_
  refine lawful_cons (lawful_optional lawful_string) ?_
  refine lawful_cons (lawful_optional (Shape.lawful _ (by decide))) ?_
  exact lawful_nil

theorem EnvReference.lawful : EnvReference.codec.Lawful := by
  refine Lawful.object (Lawful.imap ?_ fun _ => rfl) (by decide)
  refine lawful_cons (lawful_required lawful_string _) ?_
  exact lawful_cons (lawful_optional lawful_bool) lawful_nil

theorem EnvFromSource.lawful : EnvFromSource.codec.Lawful := by
  refine Lawful.object (Lawful.imap ?_ fun _ => rfl) (by decide)
  refine lawful_cons (lawful_optional EnvReference.lawful) ?_
  refine lawful_cons (lawful_optional lawful_string) ?_
  exact lawful_cons (lawful_optional EnvReference.lawful) lawful_nil

theorem ContainerPort.lawful : ContainerPort.codec.Lawful := by
  refine Lawful.object (Lawful.imap ?_ fun _ => rfl) (by decide)
  refine lawful_cons (lawful_required lawful_int32 _) ?_
  refine lawful_cons (lawful_optional lawful_string) ?_
  refine lawful_cons (lawful_optional lawful_int32) ?_
  iterate 2 refine lawful_cons (lawful_optional lawful_string) ?_
  exact lawful_nil

theorem Container.lawful : Container.codec.Lawful := by
  refine Lawful.object (Lawful.imap ?_ fun _ => rfl) (by decide)
  refine lawful_cons (lawful_required lawful_string _) ?_
  refine lawful_cons (lawful_optional lawful_string) ?_
  iterate 2 refine lawful_cons (lawful_optional (lawful_list lawful_string)) ?_
  refine lawful_cons (lawful_optional lawful_string) ?_
  refine lawful_cons (lawful_optional (lawful_list ContainerPort.lawful)) ?_
  refine lawful_cons (lawful_optional (lawful_list EnvVar.lawful)) ?_
  refine lawful_cons (lawful_optional (lawful_list EnvFromSource.lawful)) ?_
  iterate 5 refine lawful_cons (lawful_optional (Shape.lawful _ (by decide))) ?_
  exact Fields.lawful _ (by decide)

theorem PodSpec.lawful : PodSpec.codec.Lawful := by
  refine Lawful.object (Lawful.imap ?_ fun _ => rfl) (by decide)
  refine lawful_cons (lawful_required (lawful_list Container.lawful) _) ?_
  refine lawful_cons (lawful_optional lawful_string) ?_
  exact Fields.lawful _ (by decide)

theorem PodTemplate.lawful : PodTemplate.codec.Lawful := by
  refine Lawful.object (Lawful.imap ?_ fun _ => rfl) (by decide)
  refine lawful_cons (lawful_optional ObjectMeta.lawful) ?_
  exact lawful_cons (lawful_optional PodSpec.lawful) lawful_nil

theorem LabelSelector.lawful : LabelSelector.codec.Lawful := by
  refine Lawful.object (Lawful.imap ?_ fun _ => rfl) (by decide)
  refine lawful_cons (lawful_optional StringMap.lawful) ?_
  exact lawful_cons (lawful_optional (lawful_list (Shape.lawful _ (by decide)))) lawful_nil

/-! ## Jobs -/

theorem PodCondition.lawful : PodCondition.codec.Lawful := by
  refine Lawful.object (Lawful.imap ?_ fun _ => rfl) (by decide)
  iterate 2 refine lawful_cons (lawful_required lawful_string _) ?_
  exact lawful_nil

theorem PodFailureRule.lawful : PodFailureRule.codec.Lawful := by
  refine Lawful.object (Lawful.imap ?_ fun _ => rfl) (by decide)
  refine lawful_cons (lawful_required lawful_string _) ?_
  refine lawful_cons (lawful_optional (Shape.lawful _ (by decide))) ?_
  exact lawful_cons (lawful_optional (lawful_list PodCondition.lawful)) lawful_nil

theorem PodFailurePolicy.lawful : PodFailurePolicy.codec.Lawful := by
  refine Lawful.object (Lawful.imap ?_ fun _ => rfl) (by decide)
  exact lawful_cons (lawful_required (lawful_list PodFailureRule.lawful) _) lawful_nil

theorem JobSpec.lawful : JobSpec.codec.Lawful := by
  refine Lawful.object (Lawful.imap ?_ fun _ => rfl) (by decide)
  refine lawful_cons (lawful_required PodTemplate.lawful _) ?_
  refine lawful_cons (lawful_optional lawful_int32) ?_
  refine lawful_cons (lawful_optional lawful_int64) ?_
  refine lawful_cons (lawful_optional PodFailurePolicy.lawful) ?_
  exact Fields.lawful _ (by decide)

theorem JobCondition.lawful : JobCondition.codec.Lawful := by
  refine Lawful.object (Lawful.imap ?_ fun _ => rfl) (by decide)
  iterate 2 refine lawful_cons (lawful_required lawful_string _) ?_
  iterate 2 refine lawful_cons (lawful_optional lawful_string) ?_
  exact Fields.lawful _ (by decide)

theorem JobStatus.lawful : JobStatus.codec.Lawful := by
  refine Lawful.object (Lawful.imap ?_ fun _ => rfl) (by decide)
  iterate 2 refine lawful_cons (lawful_optional lawful_int32) ?_
  refine lawful_cons (lawful_optional lawful_timestamp) ?_
  refine lawful_cons (lawful_optional (lawful_list JobCondition.lawful)) ?_
  exact Fields.lawful _ (by decide)

theorem Job.lawful_record : Job.record.Lawful := by
  refine Lawful.imap ?_ fun _ => rfl
  refine lawful_cons (lawful_required ObjectMeta.lawful _) ?_
  refine lawful_cons (lawful_optional JobSpec.lawful) ?_
  exact lawful_cons (lawful_optional JobStatus.lawful) lawful_nil

theorem Job.lawful : Job.codec.Lawful :=
  Job.lawful_record.ofKind (by decide) _ _

/-! ## Deployments -/

theorem DeploymentSpec.lawful : DeploymentSpec.codec.Lawful := by
  refine Lawful.object (Lawful.imap ?_ fun _ => rfl) (by decide)
  refine lawful_cons (lawful_optional lawful_int32) ?_
  refine lawful_cons (lawful_required LabelSelector.lawful _) ?_
  refine lawful_cons (lawful_required PodTemplate.lawful _) ?_
  exact Fields.lawful _ (by decide)

theorem DeploymentStatus.lawful : DeploymentStatus.codec.Lawful := by
  refine Lawful.object (Lawful.imap ?_ fun _ => rfl) (by decide)
  iterate 2 refine lawful_cons (lawful_optional lawful_int32) ?_
  refine lawful_cons (lawful_optional lawful_int64) ?_
  exact Fields.lawful _ (by decide)

theorem Deployment.lawful_record : Deployment.record.Lawful := by
  refine Lawful.imap ?_ fun _ => rfl
  refine lawful_cons (lawful_required ObjectMeta.lawful _) ?_
  refine lawful_cons (lawful_optional DeploymentSpec.lawful) ?_
  exact lawful_cons (lawful_optional DeploymentStatus.lawful) lawful_nil

theorem Deployment.lawful : Deployment.codec.Lawful :=
  Deployment.lawful_record.ofKind (by decide) _ _

/-! ## Services and ingresses -/

theorem ServicePort.lawful : ServicePort.codec.Lawful := by
  refine Lawful.object (Lawful.imap ?_ fun _ => rfl) (by decide)
  refine lawful_cons (lawful_required lawful_int32 _) ?_
  iterate 2 refine lawful_cons (lawful_optional lawful_string) ?_
  refine lawful_cons (lawful_optional lawful_int32) ?_
  refine lawful_cons (lawful_optional lawful_string) ?_
  exact lawful_cons (lawful_optional lawful_intOrString) lawful_nil

theorem ServiceSpec.lawful : ServiceSpec.codec.Lawful := by
  refine Lawful.object (Lawful.imap ?_ fun _ => rfl) (by decide)
  refine lawful_cons (lawful_optional lawful_string) ?_
  refine lawful_cons (lawful_optional StringMap.lawful) ?_
  refine lawful_cons (lawful_optional (lawful_list ServicePort.lawful)) ?_
  refine lawful_cons (lawful_optional lawful_string) ?_
  refine lawful_cons (lawful_optional (lawful_list lawful_string)) ?_
  exact Fields.lawful _ (by decide)

theorem Service.lawful_record : Service.record.Lawful := by
  refine Lawful.imap ?_ fun _ => rfl
  refine lawful_cons (lawful_required ObjectMeta.lawful _) ?_
  refine lawful_cons (lawful_optional ServiceSpec.lawful) ?_
  exact lawful_cons (lawful_optional (Shape.lawful _ (by decide))) lawful_nil

theorem Service.lawful : Service.codec.Lawful :=
  Service.lawful_record.ofKind (by decide) _ _

theorem BackendPort.lawful : BackendPort.codec.Lawful := by
  refine Lawful.object (Lawful.imap ?_ fun _ => rfl) (by decide)
  refine lawful_cons (lawful_optional lawful_string) ?_
  exact lawful_cons (lawful_optional lawful_int32) lawful_nil

theorem ServiceBackend.lawful : ServiceBackend.codec.Lawful := by
  refine Lawful.object (Lawful.imap ?_ fun _ => rfl) (by decide)
  refine lawful_cons (lawful_required lawful_string _) ?_
  exact lawful_cons (lawful_optional BackendPort.lawful) lawful_nil

theorem IngressBackend.lawful : IngressBackend.codec.Lawful := by
  refine Lawful.object (Lawful.imap ?_ fun _ => rfl) (by decide)
  refine lawful_cons (lawful_optional ServiceBackend.lawful) ?_
  exact lawful_cons (lawful_optional (Shape.lawful _ (by decide))) lawful_nil

theorem IngressPath.lawful : IngressPath.codec.Lawful := by
  refine Lawful.object (Lawful.imap ?_ fun _ => rfl) (by decide)
  refine lawful_cons (lawful_optional lawful_string) ?_
  refine lawful_cons (lawful_required lawful_string _) ?_
  exact lawful_cons (lawful_required IngressBackend.lawful _) lawful_nil

theorem HttpRule.lawful : HttpRule.codec.Lawful := by
  refine Lawful.object (Lawful.imap ?_ fun _ => rfl) (by decide)
  exact lawful_cons (lawful_required (lawful_list IngressPath.lawful) _) lawful_nil

theorem IngressRule.lawful : IngressRule.codec.Lawful := by
  refine Lawful.object (Lawful.imap ?_ fun _ => rfl) (by decide)
  refine lawful_cons (lawful_optional lawful_string) ?_
  exact lawful_cons (lawful_optional HttpRule.lawful) lawful_nil

theorem IngressTls.lawful : IngressTls.codec.Lawful := by
  refine Lawful.object (Lawful.imap ?_ fun _ => rfl) (by decide)
  refine lawful_cons (lawful_optional (lawful_list lawful_string)) ?_
  exact lawful_cons (lawful_optional lawful_string) lawful_nil

theorem IngressSpec.lawful : IngressSpec.codec.Lawful := by
  refine Lawful.object (Lawful.imap ?_ fun _ => rfl) (by decide)
  refine lawful_cons (lawful_optional lawful_string) ?_
  refine lawful_cons (lawful_optional (lawful_list IngressRule.lawful)) ?_
  refine lawful_cons (lawful_optional (lawful_list IngressTls.lawful)) ?_
  exact lawful_cons (lawful_optional IngressBackend.lawful) lawful_nil

theorem Ingress.lawful_record : Ingress.record.Lawful := by
  refine Lawful.imap ?_ fun _ => rfl
  refine lawful_cons (lawful_required ObjectMeta.lawful _) ?_
  refine lawful_cons (lawful_optional IngressSpec.lawful) ?_
  exact lawful_cons (lawful_optional (Shape.lawful _ (by decide))) lawful_nil

theorem Ingress.lawful : Ingress.codec.Lawful :=
  Ingress.lawful_record.ofKind (by decide) _ _

/-! ## Secrets -/

theorem Secret.lawful_record : Secret.record.Lawful := by
  refine Lawful.imap ?_ fun _ => rfl
  refine lawful_cons (lawful_required ObjectMeta.lawful _) ?_
  refine lawful_cons (lawful_optional (lawful_map lawful_bytes)) ?_
  refine lawful_cons (lawful_optional StringMap.lawful) ?_
  refine lawful_cons (lawful_optional lawful_string) ?_
  exact lawful_cons (lawful_optional lawful_bool) lawful_nil

theorem Secret.lawful : Secret.codec.Lawful :=
  Secret.lawful_record.ofKind (by decide) _ _

end EnvOperator
