import EnvOperator.Proofs.Documents.Cluster
import EnvOperator.Store.Kind

/-! # Documents of environments and configurations

Specifications, statuses and configurations are read back from their documents,
and so are the objects of every kind.
-/
namespace EnvOperator
open Codec MemberCodec RecordCodec

theorem Stage.lawful : Stage.codec.Lawful := lawful_string.imap Stage.ofName_name

theorem EnvironmentStatus.lawful : EnvironmentStatus.codec.Lawful := by
  refine Lawful.strict (Lawful.imap ?_ fun _ => rfl) (by decide)
  refine lawful_cons (lawful_defaulted Stage.lawful _) ?_
  iterate 2 refine lawful_cons (lawful_optional lawful_string) ?_
  exact lawful_cons (lawful_optional lawful_instant) lawful_nil

theorem BuildSpec.lawful : BuildSpec.codec.Lawful := by
  refine Lawful.strict (Lawful.imap ?_ fun _ => rfl) (by decide)
  iterate 3 refine lawful_cons (lawful_optional lawful_string) ?_
  iterate 2 refine lawful_cons (lawful_defaulted (lawful_list lawful_string) _) ?_
  refine lawful_cons (lawful_optional (lawful_list lawful_string)) ?_
  refine lawful_cons (lawful_optional (lawful_list EnvVar.lawful)) ?_
  refine lawful_cons (lawful_optional lawful_string) ?_
  refine lawful_cons (lawful_optional lawful_int32) ?_
  exact lawful_cons (lawful_optional lawful_int64) lawful_nil

theorem ServiceSettings.lawful : ServiceSettings.codec.Lawful := by
  refine Lawful.strict (Lawful.imap ?_ fun _ => rfl) (by decide)
  refine lawful_cons (lawful_defaulted lawful_bool _) ?_
  refine lawful_cons (lawful_optional lawful_string) ?_
  exact lawful_cons (lawful_optional (lawful_list ServicePort.lawful)) lawful_nil

theorem IngressSettings.lawful : IngressSettings.codec.Lawful := by
  refine Lawful.strict (Lawful.imap ?_ fun _ => rfl) (by decide)
  refine lawful_cons (lawful_defaulted lawful_bool _) ?_
  iterate 4 refine lawful_cons (lawful_optional lawful_string) ?_
  exact lawful_nil

theorem EnvironmentSpec.lawful : EnvironmentSpec.codec.Lawful := by
  refine Lawful.strict (Lawful.imap ?_ fun _ => rfl) (by decide)
  iterate 2 refine lawful_cons (lawful_optional lawful_string) ?_
  refine lawful_cons (lawful_optional lawful_int32) ?_
  iterate 2 refine lawful_cons (lawful_optional (lawful_list lawful_string)) ?_
  refine lawful_cons (lawful_optional lawful_string) ?_
  refine lawful_cons (lawful_optional (lawful_list ContainerPort.lawful)) ?_
  refine lawful_cons (lawful_optional (lawful_list EnvVar.lawful)) ?_
  iterate 5 refine lawful_cons (lawful_optional (Shape.lawful _ (by decide))) ?_
  refine lawful_cons (lawful_defaulted BuildSpec.lawful _) ?_
  refine lawful_cons (lawful_optional ServiceSettings.lawful) ?_
  exact lawful_cons (lawful_optional IngressSettings.lawful) lawful_nil

theorem Environment.lawful_record : Environment.record.Lawful := by
  refine Lawful.imap ?_ fun _ => rfl
  refine lawful_cons (lawful_mandatory ObjectMeta.lawful) ?_
  refine lawful_cons (lawful_mandatory EnvironmentSpec.lawful) ?_
  exact lawful_cons (lawful_optional EnvironmentStatus.lawful) lawful_nil

theorem Environment.lawful : Environment.codec.Lawful :=
  Environment.lawful_record.asKind (by decide) _ _

theorem StorageSettings.lawful : StorageSettings.codec.Lawful := by
  refine Lawful.strict (Lawful.imap ?_ fun _ => rfl) (by decide)
  iterate 5 refine lawful_cons (lawful_optional lawful_string) ?_
  exact lawful_nil

theorem RegistrySettings.lawful : RegistrySettings.codec.Lawful := by
  refine Lawful.strict (Lawful.imap ?_ fun _ => rfl) (by decide)
  refine lawful_cons (lawful_optional lawful_string) ?_
  exact lawful_cons (lawful_optional lawful_int32) lawful_nil

theorem EnvironmentConfigSpec.lawful : EnvironmentConfigSpec.codec.Lawful := by
  refine Lawful.strict (Lawful.imap ?_ fun _ => rfl) (by decide)
  refine lawful_cons (lawful_defaulted StorageSettings.lawful _) ?_
  exact lawful_cons (lawful_defaulted RegistrySettings.lawful _) lawful_nil

theorem EnvironmentConfig.lawful_record : EnvironmentConfig.record.Lawful := by
  refine Lawful.imap ?_ fun _ => rfl
  refine lawful_cons (lawful_mandatory ObjectMeta.lawful) ?_
  exact lawful_cons (lawful_mandatory EnvironmentConfigSpec.lawful) lawful_nil

theorem EnvironmentConfig.lawful : EnvironmentConfig.codec.Lawful :=
  EnvironmentConfig.lawful_record.asKind (by decide) _ _

theorem Kind.lawful : ∀ k : Kind, k.codec.Lawful
  | .environment => Environment.lawful
  | .environmentConfig => EnvironmentConfig.lawful
  | .secret => Secret.lawful
  | .job => Job.lawful
  | .deployment => Deployment.lawful
  | .service => Service.lawful
  | .ingress => Ingress.lawful

end EnvOperator
