import EnvOperator.Environment.Spec
import EnvOperator.Net.SocketAddress
import EnvOperator.Text.Bytes
import EnvOperator.Text.Integer
import EnvOperator.Text.Quoted

/-! # Settings of the operator

Every setting has a variable of its own and keeps its default when the variable
is unset or holds no text. The first variable whose text cannot be read is
reported, in the order below. Delays are in
milliseconds.
-/
namespace EnvOperator

structure Settings where
  configNamespace : String := "kiln-system"
  statusListenAddr : SocketAddress := .anyV4 8081
  logLevel : String := "info"
  /-- The wait before the next pass of an environment on its way. -/
  requeueDelay : Nat := 1000
  /-- The wait before the next pass after an error. -/
  errorBackoff : Nat := 5000
  /-- How many passes in a row may leave an environment in one waiting stage; no limit without
  it. -/
  maxWaitPasses : Option UInt32 := none
  registryTimeout : Nat := 10000
  defaults : Defaults := {}

inductive SettingFault
  | integer (fault : Text.IntegerFault)
  | socketAddress
deriving DecidableEq

def SettingFault.message : SettingFault → String
  | integer fault => fault.message
  | socketAddress => "invalid socket address syntax"

/-- A variable whose value cannot be read. -/
structure SettingError where
  name : String
  value : String
  fault : SettingFault
deriving DecidableEq

def SettingError.message (e : SettingError) : String :=
  "invalid value for " ++ e.name ++ ": " ++ Text.quoted e.value ++ ": " ++ e.fault.message

namespace Settings

/-- The bytes of every variable that is set. -/
abbrev Variables := String → Option Bytes

def Variables.text? (vars : Variables) (name : String) : Option String :=
  (vars name).bind Bytes.text?

def readVariable {α : Type} (vars : Variables) (name : String)
    (parse : String → Except SettingFault α) : Except SettingError (Option α) :=
  match vars.text? name with
  | none => .ok none
  | some value =>
    match parse value with
    | .ok a => .ok (some a)
    | .error fault => .error ⟨name, value, fault⟩

def integer {α : Type} (range : Text.IntegerRange) (ofInt : Int → α) (s : String) :
    Except SettingFault α :=
  ((Text.readInteger range s).map ofInt).mapError .integer

def int32 : String → Except SettingFault Int32 := integer .int32 Int32.ofInt

def int64 : String → Except SettingFault Int64 := integer .int64 Int64.ofInt

def nat32 : String → Except SettingFault UInt32 := integer .nat32 fun i => UInt32.ofNat i.toNat

def milliseconds : String → Except SettingFault Nat := integer .nat64 Int.toNat

def seconds : String → Except SettingFault Nat := integer .nat64 fun i => 1000 * i.toNat

def socketAddress (s : String) : Except SettingFault SocketAddress :=
  (SocketAddress.parse s).elim (.error .socketAddress) .ok

def loadDefaults (vars : Variables) (d : Defaults) : Except SettingError Defaults := do
  let replicas ← readVariable vars "KILN_DEFAULT_REPLICAS" int32
  let backoffLimit ← readVariable vars "KILN_DEFAULT_BACKOFF_LIMIT" int32
  let activeDeadlineSeconds ← readVariable vars "KILN_DEFAULT_ACTIVE_DEADLINE_SECS" int64
  let registryNodePort ← readVariable vars "KILN_DEFAULT_REGISTRY_NODE_PORT" int32
  return {
    replicas := replicas.getD d.replicas
    buildImage := (vars.text? "KILN_DEFAULT_BUILD_IMAGE").getD d.buildImage
    dockerfile := (vars.text? "KILN_DEFAULT_DOCKERFILE").getD d.dockerfile
    platform := (vars.text? "KILN_DEFAULT_PLATFORM").getD d.platform
    verbosity := (vars.text? "KILN_DEFAULT_VERBOSITY").getD d.verbosity
    backoffLimit := backoffLimit.getD d.backoffLimit
    activeDeadlineSeconds := activeDeadlineSeconds.getD d.activeDeadlineSeconds
    storageBucket := (vars.text? "KILN_DEFAULT_BUCKET").getD d.storageBucket
    storageRegion := (vars.text? "KILN_DEFAULT_REGION").getD d.storageRegion
    storageEndpoint := (vars.text? "KILN_DEFAULT_ENDPOINT").or d.storageEndpoint
    storageFolder := (vars.text? "KILN_DEFAULT_PREFIX").getD d.storageFolder
    registryUrl := (vars.text? "KILN_DEFAULT_REGISTRY_URL").getD d.registryUrl
    registryNodePort := registryNodePort.getD d.registryNodePort
    serviceType := d.serviceType
    ingressPath := d.ingressPath }

def load (vars : Variables) : Except SettingError Settings := do
  let base : Settings := {}
  let statusListenAddr ← readVariable vars "KILN_STATUS_LISTEN_ADDR" socketAddress
  let requeueDelay ← readVariable vars "KILN_REQUEUE_DELAY_MS" milliseconds
  let errorBackoff ← readVariable vars "KILN_ERROR_BACKOFF_SECS" seconds
  let maxWaitPasses ← readVariable vars "KILN_MAX_WAIT_PASSES" nat32
  let registryTimeout ← readVariable vars "KILN_REGISTRY_TIMEOUT_SECS" seconds
  let defaults ← loadDefaults vars base.defaults
  return {
    configNamespace := (vars.text? "KILN_CONFIG_NAMESPACE").getD base.configNamespace
    statusListenAddr := statusListenAddr.getD base.statusListenAddr
    logLevel := (vars.text? "KILN_LOG_LEVEL").getD base.logLevel
    requeueDelay := requeueDelay.getD base.requeueDelay
    errorBackoff := errorBackoff.getD base.errorBackoff
    maxWaitPasses
    registryTimeout := registryTimeout.getD base.registryTimeout
    defaults }

end Settings
end EnvOperator
