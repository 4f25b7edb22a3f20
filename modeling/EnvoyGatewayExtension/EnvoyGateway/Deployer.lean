import EnvoyGatewayExtension.EnvoyGateway.CustomResources
import EnvoyGatewayExtension.EnvoyGateway.EnvoyProxy

namespace EnvoyGatewayExtension.EnvoyGateway

open Kubernetes Stores

def commonLabels : Labels :=
  .ofList [(labelName, deploymentName), (labelInstance, deploymentName),
    (labelComponent, labelComponentValue), (labelManagedBy, labelManagedByValue)]

def podNetworkLabels : Labels :=
  .ofList [("networking.gardener.cloud/to-apiserver", labelValueAllowed),
    ("networking.gardener.cloud/to-dns", labelValueAllowed),
    ("networking.gardener.cloud/to-public-networks", labelValueAllowed)]

def controlPlaneSelector : Labels :=
  .ofList [(labelName, deploymentName), (labelInstance, deploymentName)]

def kindServiceAccount : String := "ServiceAccount"
def kindSecret : String := "Secret"
def kindClusterRole : String := "ClusterRole"
def kindClusterRoleBinding : String := "ClusterRoleBinding"

def serviceAccountNamed (name : String) : Manifest where
  key := ⟨"", kindServiceAccount, «namespace», name⟩
  labels := commonLabels
  body := .serviceAccount

def serviceAccount : Manifest := serviceAccountNamed serviceAccountName

def netpolControllerServiceAccount : Manifest :=
  serviceAccountNamed netpolControllerServiceAccountName

def configMap (config : Config) : Manifest where
  key := ⟨"", "ConfigMap", «namespace», configMapName⟩
  labels := commonLabels
  body := .configMap (.ofList [(configFileName,
    "apiVersion: gateway.envoyproxy.io/v1alpha1\nkind: EnvoyGateway\n" ++
      "logging:\n  level:\n    default: " ++
      (if config.controlPlaneLogLevel = "" then logLevelInfo else config.controlPlaneLogLevel) ++
      "\nprovider:\n  type: Kubernetes\n  kubernetes:\n    deploy:\n      type: " ++
      deployModeGatewayNamespace ++ "\n")])

def secretNamed (name type : String) (data : List (String × Bytes)) : Manifest where
  key := ⟨"", kindSecret, «namespace», name⟩
  labels := commonLabels
  body := .secret type (.ofList data)

def tlsSecret (tls : TLSBundle) : Manifest :=
  secretNamed tlsSecretName "kubernetes.io/tls"
    [("tls.crt", tls.certPEM), ("tls.key", tls.keyPEM), ("ca.crt", tls.caPEM)]

def envoyClientSecret (tls : TLSBundle) : Manifest :=
  secretNamed envoySecretName "kubernetes.io/tls"
    [("tls.crt", tls.clientCertPEM), ("tls.key", tls.clientKeyPEM), ("ca.crt", tls.caPEM)]

def hmacSecret (tls : TLSBundle) : Manifest :=
  secretNamed hmacSecretName "Opaque" [(hmacSecretKey, tls.hmacBytes)]

def verbsRead : List String := ["get", "list", "watch"]
def verbsWrite : List String := verbsRead ++ ["create", "update", "patch", "delete"]
def verbsManage : List String := verbsWrite ++ ["deletecollection"]

def clusterRoleRules : List PolicyRule :=
  [⟨[""], ["namespaces", "nodes"], verbsRead⟩,
    ⟨[""], ["endpoints", "secrets"], verbsWrite⟩,
    ⟨[""], ["serviceaccounts", "services", "configmaps"], verbsManage⟩,
    ⟨["discovery.k8s.io"], ["endpointslices"], verbsRead⟩,
    ⟨["apps"], ["deployments", "daemonsets"], verbsManage⟩,
    ⟨["autoscaling"], ["horizontalpodautoscalers"], verbsManage⟩,
    ⟨["policy"], ["poddisruptionbudgets"], verbsManage⟩,
    ⟨["authentication.k8s.io"], ["tokenreviews"], ["create"]⟩,
    ⟨[apiGroupGatewayAPI], ["gatewayclasses"], verbsRead ++ ["patch", "update"]⟩,
    ⟨[apiGroupGatewayAPI],
      ["gateways", "httproutes", "grpcroutes", "tcproutes", "tlsroutes", "udproutes",
      "referencegrants", "backendtlspolicies", "listenersets"], verbsRead⟩,
    ⟨[apiGroupGatewayAPI],
      ["gatewayclasses/status", "gateways/status", "httproutes/status", "grpcroutes/status",
      "tcproutes/status", "tlsroutes/status", "udproutes/status", "backendtlspolicies/status",
      "listenersets/status"], ["update", "patch"]⟩,
    ⟨[apiGroupEnvoyGateway], ["envoyproxies", "envoypatchpolicies", "clienttrafficpolicies",
      "backendtrafficpolicies", "securitypolicies", "envoyextensionpolicies", "backends",
        "httproutefilters"],
      verbsRead⟩,
    ⟨[apiGroupEnvoyGateway],
      ["envoyproxies/status", "envoypatchpolicies/status", "clienttrafficpolicies/status",
      "backendtrafficpolicies/status", "securitypolicies/status", "envoyextensionpolicies/status",
      "backends/status"], ["update", "patch"]⟩]

def roleNamed (kind ns name : String) (rules : List PolicyRule) : Manifest where
  key := ⟨apiGroupRBAC, kind, ns, name⟩
  labels := commonLabels
  body := .role rules

def roleBindingNamed (kind ns name roleKind account : String) : Manifest where
  key := ⟨apiGroupRBAC, kind, ns, name⟩
  labels := commonLabels
  body := .roleBinding ⟨apiGroupRBAC, roleKind, name⟩ [⟨kindServiceAccount, account, «namespace»⟩]

def clusterRole : Manifest := roleNamed kindClusterRole "" clusterRoleName clusterRoleRules

def clusterRoleBinding : Manifest :=
  roleBindingNamed kindClusterRoleBinding "" clusterRoleName kindClusterRole serviceAccountName

def netpolControllerClusterRole : Manifest :=
  roleNamed kindClusterRole "" netpolControllerClusterRoleName
    [⟨[apiGroupGatewayAPI], ["gateways"], verbsRead⟩,
      ⟨["networking.k8s.io"], ["networkpolicies"], verbsWrite⟩]

def netpolControllerClusterRoleBinding : Manifest :=
  roleBindingNamed kindClusterRoleBinding "" netpolControllerClusterRoleName kindClusterRole
    netpolControllerServiceAccountName

def leaderElectionRole : Manifest :=
  roleNamed "Role" «namespace» leaderElectionRoleName
    [⟨["coordination.k8s.io"], ["leases"], verbsWrite⟩, ⟨[""], ["events"], ["create", "patch"]⟩]

def leaderElectionRoleBinding : Manifest :=
  roleBindingNamed "RoleBinding" «namespace» leaderElectionRoleName "Role" serviceAccountName

def podSecurityContext : PodSecurityContext := ⟨true, 65532, 65532, 65532⟩

def containerSecurityContext : SecurityContext := ⟨false, true, ["ALL"]⟩

def controlPlaneContainer (image : String) : Container where
  name := deploymentName
  image := image
  args := ["server", "--config-path=" ++ configMountPath ++ "/" ++ configFileName]
  env := [("ENVOY_GATEWAY_NAMESPACE", .fieldRef "metadata.namespace")]
  volumeMounts := [⟨"config", configMountPath, true⟩, ⟨"certs", "/certs", true⟩,
    ⟨"wasm-cache", "/var/lib/eg", false⟩]
  ports := [⟨"grpc-xds", 18000, .tcp⟩, ⟨"metrics", 19001, .tcp⟩, ⟨"health", 8081, .tcp⟩]
  livenessProbe := some ⟨"/healthz", 8081, 15, 20⟩
  readinessProbe := some ⟨"/readyz", 8081, 5, 10⟩
  resources :=
    ⟨.ofList [("cpu", "100m"), ("memory", "256Mi")], .ofList [("cpu", "500m"), ("memory", "1Gi")]⟩
  securityContext := containerSecurityContext

def deployment (lib : Libraries) (config : Config) : Except GoError Manifest := do
  let image ← (lib.findImage imageName).mapError
    (.wrap "failed to find envoy-gateway image in image vector")
  pure
    { key := ⟨"apps", "Deployment", «namespace», deploymentName⟩
      labels := commonLabels
      body := .deployment
        { replicas := some (config.controlPlaneReplicas.getD 2)
          selector := ⟨controlPlaneSelector, []⟩
          template :=
            { labels := podNetworkLabels ∪ commonLabels
              spec :=
                { serviceAccountName := serviceAccountName
                  preferredAntiAffinity :=
                    [⟨100, "kubernetes.io/hostname", ⟨controlPlaneSelector, []⟩⟩]
                  topologySpreadConstraints :=
                    [⟨1, "topology.kubernetes.io/zone", "ScheduleAnyway",
                      ⟨controlPlaneSelector, []⟩⟩]
                  securityContext := podSecurityContext
                  volumes :=
                    [⟨"config", .configMap configMapName⟩, ⟨"certs", .secret tlsSecretName⟩,
                    ⟨"wasm-cache", .emptyDir "100Mi"⟩]
                  containers := [controlPlaneContainer image] } } } }

def service : Manifest where
  key := ⟨"", "Service", «namespace», deploymentName⟩
  labels := commonLabels
  body := .service "ClusterIP" controlPlaneSelector
    [⟨"grpc-xds", 18000, .str "grpc-xds", .tcp⟩, ⟨"metrics", 19001, .str "metrics", .tcp⟩]

def podDisruptionBudget : Manifest where
  key := ⟨"policy", "PodDisruptionBudget", «namespace», deploymentName⟩
  labels := commonLabels
  body := .podDisruptionBudget (.int 1) ⟨controlPlaneSelector, []⟩ "AlwaysAllow"

def networkPolicy : Manifest where
  key := ⟨"networking.k8s.io", "NetworkPolicy", «namespace», deploymentName⟩
  labels := commonLabels
  body := .networkPolicy
    { podSelector := ⟨controlPlaneSelector, []⟩
      policyTypes := [.ingress]
      ingress := [{
        peers := [{
          namespaceSelector := some ⟨.ofList [], []⟩
          podSelector := some ⟨.ofList
            [(labelManagedBy, envoyProxyManagedByValue), (labelName, envoyProxyNameValue)], []⟩ }]
        ports := [⟨some .tcp, some (.int xdsPort)⟩, ⟨some .tcp, some (.int 19001)⟩] }] }

def gatewayClass : Manifest where
  key := ⟨apiGroupGatewayAPI, "GatewayClass", "", gatewayClassName⟩
  labels := .ofList [(labelName, deploymentName), (labelInstance, deploymentName),
    (labelManagedBy, labelManagedByValue)]
  body := .gatewayClass gatewayClassControllerName
    ⟨"gateway.envoyproxy.io", "EnvoyProxy", envoyProxyDefaultsName, some «namespace»⟩

def envoyProxyDefaults (lib : Libraries) (config : Config) : Manifest where
  key := ⟨apiGroupEnvoyGateway, "EnvoyProxy", «namespace», envoyProxyDefaultsName⟩
  labels := .ofList [(labelName, deploymentName), (labelInstance, deploymentName),
    (labelManagedBy, labelManagedByValue)]
  body := .yaml (envoyProxyDefaultsYAML lib config)

def validatingAdmissionPolicySupported (lib : Libraries) (config : Config) : Bool :=
  if config.shootKubernetesVersion = "" then false
  else
    match lib.compareVersions config.shootKubernetesVersion ">=" "1.30" with
    | .error _ => false
    | .ok atLeast130 => atLeast130

def addAll (resources : Resources) (entries : List (String × List Manifest)) : Resources :=
  entries.foldl (fun r e => r.insert e.1 e.2) resources

def fixedObjects (config : Config) (deploy : Manifest) : List (String × List Manifest) :=
  [("serviceaccount.yaml", [serviceAccount]), ("configmap.yaml", [configMap config]),
    ("clusterrole.yaml", [clusterRole]), ("clusterrolebinding.yaml", [clusterRoleBinding]),
    ("role.yaml", [leaderElectionRole]), ("rolebinding.yaml", [leaderElectionRoleBinding]),
    ("deployment.yaml", [deploy]), ("service.yaml", [service]),
    ("poddisruptionbudget.yaml", [podDisruptionBudget]), ("networkpolicy.yaml", [networkPolicy]),
    ("gatewayclass.yaml", [gatewayClass])]

def secretObjects (tls : TLSBundle) : List (String × List Manifest) :=
  (if tls.certPEM ≠ [] ∨ tls.keyPEM ≠ [] ∨ tls.caPEM ≠ [] then
    [("secret-tls.yaml", [tlsSecret tls])]
  else []) ++
  (if tls.clientCertPEM ≠ [] ∧ tls.clientKeyPEM ≠ [] ∧ tls.caPEM ≠ [] then
    [("secret-envoy.yaml", [envoyClientSecret tls])]
  else []) ++
  (if tls.hmacBytes ≠ [] then [("secret-hmac.yaml", [hmacSecret tls])] else [])

def proxyObjects (lib : Libraries) (config : Config) : List (String × List Manifest) :=
  ("envoyproxy-defaults.yaml", [envoyProxyDefaults lib config]) ::
  (if validatingAdmissionPolicySupported lib config then
    [("validatingadmissionpolicy.yaml", [envoyProxyGuard.1, envoyProxyGuard.2])]
  else [])

def netpolControllerObjects (config : Config) : List (String × List Manifest) :=
  if config.manageDataPlaneNetworkPolicies then
    [("netpol-controller-serviceaccount.yaml", [netpolControllerServiceAccount]),
      ("netpol-controller-clusterrole.yaml", [netpolControllerClusterRole]),
      ("netpol-controller-clusterrolebinding.yaml", [netpolControllerClusterRoleBinding])]
  else []

/-- The entries in the order of the source; the CRDs come before those of the controller. -/
def buildResources (lib : Libraries) (config : Config) (tls : TLSBundle) :
    Except GoError Resources := do
  let deploy ← deployment lib config
  let resources :=
    addAll ∅ (fixedObjects config deploy ++ secretObjects tls ++ proxyObjects lib config)
  let resources := if config.manageCRDs then addCRDs config.experimentalFeatures
    resources else resources
  pure (addAll resources (netpolControllerObjects config))

def manifestsOf (resources : Resources) : List Manifest := resources.items.flatMap Prod.snd

end EnvoyGatewayExtension.EnvoyGateway
