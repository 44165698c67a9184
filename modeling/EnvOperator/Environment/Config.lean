import EnvOperator.Cluster.Meta
import EnvOperator.Environment.Naming
import EnvOperator.Environment.Spec

/-! # Configurations

A configuration says where the archives of sources are stored and which registry
takes the images. Several environments may share one.
-/
namespace EnvOperator

structure StorageSettings where
  endpoint : Option String := none
  bucket : Option String := none
  folder : Option String := none
  region : Option String := none
  /-- The secret with the access keys; access is anonymous without one. -/
  credentialsSecret : Option String := none
deriving DecidableEq

namespace StorageSettings

def record : RecordCodec StorageSettings :=
  RecordCodec.imap
    (.cons "endpoint" (.optional .string) <| .cons "bucket" (.optional .string) <|
      .cons "prefix" (.optional .string) <| .cons "region" (.optional .string) <|
      .cons "credentialsSecret" (.optional .string) .nil)
    (fun (endpoint, bucket, folder, region, secret, _) =>
      ⟨endpoint, bucket, folder, region, secret⟩)
    (fun s => (s.endpoint, s.bucket, s.folder, s.region, s.credentialsSecret, ()))

def codec : Codec StorageSettings := record.strict

def applyDefaults (s : StorageSettings) (d : Defaults) : StorageSettings :=
  { s with
    bucket := filled s.bucket d.storageBucket
    region := filled s.region d.storageRegion
    folder := filled s.folder d.storageFolder
    endpoint := s.endpoint.or d.storageEndpoint }

end StorageSettings

structure RegistrySettings where
  url : Option String := none
  /-- The port at which every node reaches the registry. -/
  nodePort : Option Int32 := none
deriving DecidableEq

namespace RegistrySettings

def record : RecordCodec RegistrySettings :=
  RecordCodec.imap (.cons "url" (.optional .string) <| .cons "nodePort" (.optional .int32) .nil)
    (fun (url, port, _) => ⟨url, port⟩) (fun r => (r.url, r.nodePort, ()))

def codec : Codec RegistrySettings := record.strict

def applyDefaults (r : RegistrySettings) (d : Defaults) : RegistrySettings :=
  ⟨filled r.url d.registryUrl, filled r.nodePort d.registryNodePort⟩

/-- The registry as image names give it: without scheme and closing slashes. -/
def host (r : RegistrySettings) : String :=
  Text.trimEnd '/' (Text.dropRepeated "http://" (Text.dropRepeated "https://" (r.url.getD "")))

end RegistrySettings

structure EnvironmentConfigSpec where
  storage : StorageSettings := {}
  registry : RegistrySettings := {}
deriving DecidableEq

namespace EnvironmentConfigSpec

def record : RecordCodec EnvironmentConfigSpec :=
  RecordCodec.imap
    (.cons "storage" (.defaulted StorageSettings.codec {}) <|
      .cons "registry" (.defaulted RegistrySettings.codec {}) .nil)
    (fun (storage, registry, _) => ⟨storage, registry⟩) (fun s => (s.storage, s.registry, ()))

def codec : Codec EnvironmentConfigSpec := record.strict

def applyDefaults (s : EnvironmentConfigSpec) (d : Defaults) : EnvironmentConfigSpec :=
  ⟨s.storage.applyDefaults d, s.registry.applyDefaults d⟩

end EnvironmentConfigSpec

structure EnvironmentConfig where
  metadata : ObjectMeta
  spec : EnvironmentConfigSpec
deriving DecidableEq

namespace EnvironmentConfig

def record : RecordCodec EnvironmentConfig :=
  RecordCodec.imap
    (.cons "metadata" (.mandatory ObjectMeta.codec) <|
      .cons "spec" (.mandatory EnvironmentConfigSpec.codec) .nil)
    (fun (metadata, spec, _) => ⟨metadata, spec⟩) (fun c => (c.metadata, c.spec, ()))

def codec : Codec EnvironmentConfig := record.asKind Naming.apiVersion "EnvironmentConfig"

def applyDefaults (c : EnvironmentConfig) (d : Defaults) : EnvironmentConfig :=
  { c with spec := c.spec.applyDefaults d }

end EnvironmentConfig
end EnvOperator
