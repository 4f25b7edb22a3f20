import EnvoyGatewayExtension.EnvoyGateway.Secrets
import EnvoyGatewayExtension.Kubernetes.Errors

namespace EnvoyGatewayExtension.EnvoyGateway

open Kubernetes

structure ControlPlaneConfig where
  replicas : Option Int32 := none
  logLevel : String := ""
  deriving DecidableEq

structure DataPlaneConfig where
  replicas : Option Int32 := none
  logLevel : String := ""
  deriving DecidableEq

structure EnvoyProxyDefaults where
  resources : Option ResourceRequirements := none
  accessLogging : Bool := false
  deriving DecidableEq

structure EnvoyGatewayConfig where
  controlPlane : Option ControlPlaneConfig := none
  dataPlane : Option DataPlaneConfig := none
  channel : String := ""
  manageCRDs : Option Bool := none
  envoyProxyDefaults : Option EnvoyProxyDefaults := none
  manageDataPlaneNetworkPolicies : Option Bool := none
  deriving DecidableEq

def channelStandard : String := "standard"
def channelExperimental : String := "experimental"

def setDefaultsControlPlaneConfig (obj : ControlPlaneConfig) : ControlPlaneConfig where
  replicas := some (obj.replicas.getD 2)
  logLevel := if obj.logLevel = "" then logLevelInfo else obj.logLevel

def setDefaultsDataPlaneConfig (obj : DataPlaneConfig) : DataPlaneConfig where
  replicas := some (obj.replicas.getD 2)
  logLevel := if obj.logLevel = "" then logLevelInfo else obj.logLevel

def setDefaultsEnvoyGatewayConfig (obj : EnvoyGatewayConfig) : EnvoyGatewayConfig :=
  { obj with
    channel := if obj.channel = "" then channelStandard else obj.channel
    manageCRDs := some (obj.manageCRDs.getD true)
    controlPlane := some (obj.controlPlane.getD {})
    dataPlane := some (obj.dataPlane.getD {}) }

def setObjectDefaults (obj : EnvoyGatewayConfig) : EnvoyGatewayConfig :=
  let obj := setDefaultsEnvoyGatewayConfig obj
  { obj with
    controlPlane := obj.controlPlane.map setDefaultsControlPlaneConfig
    dataPlane := obj.dataPlane.map setDefaultsDataPlaneConfig }

/-- What `runtime.DecodeInto` finds in the bytes. Bytes without an apiVersion are taken for the
internal type they are decoded into, for which no defaulting function is registered. -/
inductive Decoded
  | v1alpha1 (obj : EnvoyGatewayConfig)
  | internal (obj : EnvoyGatewayConfig)
  deriving DecidableEq

def Decoded.written : Decoded → EnvoyGatewayConfig
  | v1alpha1 obj => obj
  | internal obj => obj

def Decoded.toInternal : Decoded → EnvoyGatewayConfig
  | v1alpha1 obj => setObjectDefaults obj
  | internal obj => obj

structure Config where
  controlPlaneReplicas : Option Int32 := none
  controlPlaneLogLevel : String := ""
  dataPlaneReplicas : Option Int32 := none
  dataPlaneLogLevel : String := ""
  experimentalFeatures : Bool := false
  manageCRDs : Bool := false
  envoyProxyDefaults : Option EnvoyProxyDefaults := none
  shootKubernetesVersion : String := ""
  manageDataPlaneNetworkPolicies : Bool := false
  deriving DecidableEq

def defaultConfig : Config where
  controlPlaneLogLevel := logLevelInfo
  dataPlaneLogLevel := logLevelInfo
  manageCRDs := true

/-- What the extension takes from its libraries without looking inside. -/
structure Libraries where
  /-- The strict decoder, before defaulting and conversion. -/
  decode : Bytes → Except GoError Decoded
  findImage : String → Except GoError String
  compareVersions : String → String → String → Except GoError Bool
  marshalResources : ResourceRequirements → Except GoError String
  injectGenericKubeconfig : String → String → PodSpec → Except GoError PodSpec

def Libraries.decodeInto (lib : Libraries) (raw : Bytes) : Except GoError EnvoyGatewayConfig :=
  (lib.decode raw).map Decoded.toInternal

def sampleLibraries (cfg : EnvoyGatewayConfig) : Libraries where
  decode := fun _ => .ok (.v1alpha1 cfg)
  findImage := fun name => .ok name
  compareVersions := fun _ _ _ => .ok true
  marshalResources := fun _ => .ok ""
  injectGenericKubeconfig := fun _ _ pod => .ok pod

end EnvoyGatewayExtension.EnvoyGateway
