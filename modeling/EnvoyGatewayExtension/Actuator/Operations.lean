import EnvoyGatewayExtension.Actuator.Calls

namespace EnvoyGatewayExtension.Actuator

open Effects Kubernetes EnvoyGateway Stores

section NetpolController

def secretNamePrefixShootAccess : String := "shoot-access-"

def netpolAccessSecretName : String :=
  secretNamePrefixShootAccess ++ netpolControllerShootAccessSecretName

def netpolControllerLabels : Labels :=
  .ofList [(labelName, netpolControllerName), (labelManagedBy, labelManagedByValue)]

def netpolControllerPodLabels : Labels :=
  .ofList [(labelName, netpolControllerName), (labelManagedBy, labelManagedByValue),
    (labelToAllShootsKubeAPIServer, labelValueAllowed), (labelToDNS, labelValueAllowed),
    (labelToRuntimeAPIServer, labelValueAllowed)]

def netpolControllerDeployment (lib : Libraries) (seedNamespace : String) :
    Except GoError Deployment := do
  let image ← (lib.findImage extensionImageName).mapError
    (.wrap ("failed to find " ++ extensionImageName ++ " image in image vector"))
  pure
    { «namespace» := seedNamespace
      name := netpolControllerName
      labels := netpolControllerLabels
      spec :=
        { replicas := some 1
          selector := ⟨.ofList [(labelName, netpolControllerName)], []⟩
          template :=
            { labels := netpolControllerPodLabels
              spec :=
                { securityContext := podSecurityContext
                  containers := [
                    { name := netpolControllerName
                      image := image
                      args := ["netpol-controller", "--seed-namespace=" ++ seedNamespace]
                      resources := ⟨.ofList [("cpu", "20m"), ("memory", "64Mi")],
                        .ofList [("memory", "256Mi")]⟩
                      securityContext := containerSecurityContext }] } } } }

def injectedDeployment (lib : Libraries) (cluster : Cluster) (seedNamespace : String) :
    Except GoError Deployment := do
  let d ← netpolControllerDeployment lib seedNamespace
  let pod ← (lib.injectGenericKubeconfig cluster.genericTokenKubeconfigSecretName
    netpolAccessSecretName
    d.spec.template.spec).mapError
      (.wrap "failed to inject generic kubeconfig into netpol-controller Deployment")
  pure { d with spec := { d.spec with template := { d.spec.template with spec := pod } } }

def emptyDeployment (seedNamespace : String) : Deployment where
  «namespace» := seedNamespace
  name := netpolControllerName
  labels := .ofList []
  spec :=
    { replicas := none
      selector := ⟨.ofList [], []⟩
      template := {
        labels := .ofList []
        spec := { securityContext := ⟨false, 0, 0, 0⟩, containers := [] } } }

def ensure (lib : Libraries) (cluster : Cluster) (seedNamespace : String) : Op Unit := do
  wrapped "failed to reconcile netpol-controller shoot-access secret"
    (send (.reconcileAccessSecret netpolAccessSecretName netpolControllerServiceAccountName))
  let desired ← Prog.ofExcept (injectedDeployment lib cluster seedNamespace)
  wrapped "failed to apply netpol-controller Deployment"
    (createOrUpdate (send .getDeployment) (fun d => send (.createDeployment d))
      (fun d => send (.updateDeployment d))
      (emptyDeployment seedNamespace)
        (fun obj => { obj with labels := desired.labels, spec := desired.spec }))

def teardown (seedNamespace : String) : Op Unit := do
  wrapped ("failed to delete netpol-controller *v1.Deployment " ++ seedNamespace ++ "/" ++
    netpolControllerName) (ignoreNotFound (send .deleteDeployment))
  wrapped ("failed to delete netpol-controller *v1.Secret " ++ seedNamespace ++ "/" ++
    netpolAccessSecretName) (ignoreNotFound (send (.deleteSecret netpolAccessSecretName)))

def scaleDown : Op Unit := do
  match ← (send .getDeployment).attempt with
  | .error err => if err.isNotFound then pure () else .fail err
  | .ok _ => wrapped "failed to scale down netpol-controller Deployment" (send (.patchReplicas 0))

end NetpolController

section Shoot

def pruneDataPlanePolicies : Op Unit := do
  wrapped "failed to build shoot client for data-plane NetworkPolicy cleanup"
    (send .newClientForShoot)
  let items ← wrapped "failed to list managed data-plane NetworkPolicies in shoot"
    (send .listPolicies)
  items.forM fun np =>
    wrapped ("failed to delete managed data-plane NetworkPolicy " ++ np.namespace ++ "/" ++ np.name)
      (ignoreNotFound (send (.deletePolicy np.key)))

def sweptKinds : List InfraKind :=
  [.service, .deployment, .serviceAccount, .configMap, .podDisruptionBudget,
    .horizontalPodAutoscaler]

def InfraKind.goType : InfraKind → String
  | service => "*v1.Service"
  | deployment => "*v1.Deployment"
  | serviceAccount => "*v1.ServiceAccount"
  | configMap => "*v1.ConfigMap"
  | podDisruptionBudget => "*v1.PodDisruptionBudget"
  | horizontalPodAutoscaler => "*v2.HorizontalPodAutoscaler"

def isOrphanedDataPlaneObject (o : InfraObject) : Bool :=
  (o.labels.lookup owningGatewayNameLabel).isSome

def sweepObject (o : InfraObject) : Op Unit :=
  if isOrphanedDataPlaneObject o then
    wrapped ("failed to delete orphaned data-plane " ++ o.kind.goType ++ " " ++ o.key.namespace ++
      "/" ++ o.key.name) (ignoreNotFound (send (.deleteInfra o.kind o.key)))
  else pure ()

def sweepKind (kind : InfraKind) : Op Unit := do
  let objs ← wrapped ("failed to list orphaned data-plane objects in " ++ quoted «namespace»)
    (send (.listInfra kind «namespace» labelManagedBy envoyProxyManagedByValue))
  objs.forM sweepObject

def sweepOrphans : Op Unit := sweptKinds.forM sweepKind

def sweep : Op Unit := do
  wrapped "failed to build shoot client for orphaned data-plane sweep" (send .newClientForShoot)
  sweepOrphans

def connection : ShootConnection clusters where
  newClientForShoot := send .newClientForShoot
  listGateways := send .listGateways
  deleteGateway := fun k => send (.deleteGateway k)
  getGatewayClass := fun name => send (.getGatewayClass name)
  removeFinalizers := fun name finalizer => send (.removeFinalizers name finalizer)

end Shoot

section Config

def applyLogLevel (level target : String) : Except GoError String :=
  if level = "" then .ok target
  else if level ∈ validLogLevels then .ok level
  else .error (.text ("invalid envoy-gateway log level " ++ quoted level ++
    ": must be one of debug, info, warn, error"))

def applyChannel (channel : String) (target : Bool) : Except GoError Bool :=
  if channel = "" then .ok target
  else if channel ∈ validChannels then .ok (channel == channelExperimental)
  else .error (.text ("invalid envoy-gateway channel " ++ quoted channel ++
    ": must be one of standard, experimental"))

def readConfig (lib : Libraries) (version : String) : Option Bytes → Except GoError Config
  | none => .ok { defaultConfig with shootKubernetesVersion := version }
  | some raw => do
    let cfg ← (lib.decodeInto raw).mapError (.wrap "failed to decode envoy-gateway providerConfig")
    let experimentalFeatures ← applyChannel cfg.channel defaultConfig.experimentalFeatures
    let controlPlaneLogLevel ← match cfg.controlPlane with
      | some cp => applyLogLevel cp.logLevel defaultConfig.controlPlaneLogLevel
      | none => .ok defaultConfig.controlPlaneLogLevel
    let dataPlaneLogLevel ← match cfg.dataPlane with
      | some dp => applyLogLevel dp.logLevel defaultConfig.dataPlaneLogLevel
      | none => .ok defaultConfig.dataPlaneLogLevel
    .ok
      { controlPlaneReplicas := cfg.controlPlane.bind (·.replicas)
        controlPlaneLogLevel
        dataPlaneReplicas := cfg.dataPlane.bind (·.replicas)
        dataPlaneLogLevel
        experimentalFeatures
        manageCRDs := cfg.manageCRDs.getD defaultConfig.manageCRDs
        envoyProxyDefaults := cfg.envoyProxyDefaults
        shootKubernetesVersion := version
        manageDataPlaneNetworkPolicies := cfg.manageDataPlaneNetworkPolicies.getD false }

end Config

section ManagedResources

def deploy (lib : Libraries) (config : Config) (tls : TLSBundle) : Op Unit := do
  let resources ← Prog.ofExcept ((buildResources lib config tls).mapError
    (.wrap "failed to generate envoy-gateway resources"))
  wrapped "failed to create or update managed resource"
    (send (.createForShoot false (manifestsOf resources)))

def deleteManagedResource : Op Unit := do
  wrapped "failed to delete managed resource" (send .deleteManagedResource)
  wrapped "timed out waiting for managed resource to be deleted" (send .waitUntilDeleted)

def deleteKeepingObjects : Op Unit := do
  wrapped "failed to set keepObjects on managed resource"
    (ignoreNotFound (send (.setKeepObjects true)))
  deleteManagedResource

def bundleOf (clusterName : String) (generated : Store String Data) : Except GoError TLSBundle :=
  match generated.lookup caSecretName, generated.lookup xdsServerCertSecretName,
    generated.lookup envoyClientCertSecretName, generated.lookup hmacSecretName with
  | some ca, some server, some client, some hmac =>
    let bundle : TLSBundle :=
      { certPEM := server.value dataKeyCertificate
        keyPEM := server.value dataKeyPrivateKey
        caPEM := ca.value dataKeyCertificateCA
        clientCertPEM := client.value dataKeyCertificate
        clientKeyPEM := client.value dataKeyPrivateKey
        hmacBytes := hmac.value hmacSecretKey }
    if bundle.certPEM = [] ∨ bundle.keyPEM = [] ∨ bundle.caPEM = [] ∨ bundle.clientCertPEM = [] ∨
        bundle.clientKeyPEM = [] ∨ bundle.hmacBytes = [] then
      .error (.text
        ("secrets-manager returned an incomplete TLS bundle for " ++ quoted clusterName))
    else .ok bundle
  | _, _, _, _ =>
    .error (.text ("secrets-manager returned an incomplete secret set for " ++ quoted clusterName))

def reconcileSecrets (clusterName : String) : Op TLSBundle := do
  wrapped "failed to construct secrets-manager" (send (.newSecretsManager secretConfigs))
  let generated ← wrapped "failed to generate envoy-gateway secrets"
    (send (.generateAllSecrets secretConfigs))
  let bundle ← Prog.ofExcept (bundleOf clusterName generated)
  wrapped "failed to clean up old envoy-gateway secrets" (send (.cleanupSecrets secretConfigs))
  pure bundle

def deleteSecrets : Op Unit := do
  wrapped "failed to construct secrets-manager" (send (.newSecretsManager []))
  send (.cleanupSecrets [])

end ManagedResources

structure Invocation where
  clusterName : String
  providerConfig : Option Bytes := none
  morePolls : ℕ := 0

section Operations

variable (lib : Libraries) (ex : Invocation)

def lister : GatewayLister clusters := realGatewayLister connection ex.morePolls

/-- Reading a field of a nil Shoot; the controller turns the panic into an error. -/
def nilShoot : GoError := .text "runtime error: invalid memory address or nil pointer dereference"

def reconcileNetpolController (cluster : Cluster) (enabled : Bool) : Op Unit :=
  if enabled then
    wrapped "failed to ensure data-plane NetworkPolicy controller"
      (ensure lib cluster ex.clusterName)
  else do
    wrapped "failed to tear down data-plane NetworkPolicy controller" (teardown ex.clusterName)
    wrapped "failed to prune data-plane NetworkPolicies after disabling the feature"
      pruneDataPlanePolicies

def reconcileAwake (cluster : Cluster) (shoot : Shoot) : Op Unit := do
  let config ← Prog.ofExcept (readConfig lib shoot.kubernetesVersion ex.providerConfig)
  let tls ← wrapped "failed to reconcile envoy-gateway TLS secrets"
    (reconcileSecrets ex.clusterName)
  wrapped "failed to deploy envoy-gateway" (deploy lib config tls)
  -- a failed sweep is logged and passed over
  let _ ← sweep.attempt
  reconcileNetpolController lib ex cluster config.manageDataPlaneNetworkPolicies

def reconcile : Op Unit := do
  let cluster ← wrapped "failed to get cluster" (send .getCluster)
  match cluster.shoot with
  | none => .fail nilShoot
  | some shoot =>
    if shoot.deletionTimestamp then drainUserGatewaysForShootDeletion (lister ex)
    else if shoot.hibernationEnabled then
      wrapped "failed to scale down data-plane NetworkPolicy controller for hibernation" scaleDown
    else reconcileAwake lib ex cluster shoot

def restore : Op Unit := reconcile lib ex

def removeResources (cluster : Cluster) : Op Unit := do
  wrapped "failed to delete envoy-gateway" deleteManagedResource
  -- the secrets manager reads the rotation times off the Shoot before its first call
  match cluster.shoot with
  | none => .fail nilShoot
  | some _ => wrapped "failed to delete envoy-gateway secrets" deleteSecrets

def removeExtension (cluster : Cluster) : Op Unit := do
  wrapped "failed to tear down data-plane NetworkPolicy controller" (teardown ex.clusterName)
  if cluster.shoot.any (fun shoot => !shoot.deletionTimestamp) then
    wrapped "failed to remove data-plane NetworkPolicies" pruneDataPlanePolicies
  removeResources cluster

def delete : Op Unit := do
  let cluster ← wrapped "failed to get cluster" (send .getCluster)
  checkNoUserGateways (lister ex) cluster.shoot
  removeExtension ex cluster

def forceDelete : Op Unit := do
  wrapped "failed to tear down data-plane NetworkPolicy controller during force-delete"
    (teardown ex.clusterName)
  wrapped "failed to force-delete envoy-gateway" deleteKeepingObjects

def migrate : Op Unit := do
  wrapped "failed to tear down data-plane NetworkPolicy controller during migrate"
    (teardown ex.clusterName)
  wrapped "failed to delete envoy-gateway managed resource during migrate" deleteKeepingObjects

inductive Operation
  | reconcile
  | restore
  | delete
  | forceDelete
  | migrate
  deriving DecidableEq, Repr

def Operation.program : Operation → Op Unit
  | .reconcile => Actuator.reconcile lib ex
  | .restore => Actuator.restore lib ex
  | .delete => Actuator.delete ex
  | .forceDelete => Actuator.forceDelete ex
  | .migrate => Actuator.migrate ex

end Operations

end EnvoyGatewayExtension.Actuator
