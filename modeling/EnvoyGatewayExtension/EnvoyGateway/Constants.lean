import EnvoyGatewayExtension.Kubernetes.Objects

namespace EnvoyGatewayExtension.EnvoyGateway

def «namespace» : String := "kube-system"
def deploymentName : String := "envoy-gateway"
def serviceAccountName : String := "envoy-gateway"
def configMapName : String := "envoy-gateway-config"
def configFileName : String := "envoy-gateway.yaml"
def configMountPath : String := "/config"
def imageName : String := "envoy-gateway"
def extensionImageName : String := "gardener-extension-envoy-gateway"
def gatewayClassName : String := "gardener-envoy-gateway"
def envoyProxyDefaultsName : String := "envoy-gateway-defaults"
def gatewayClassControllerName : String := "gateway.envoyproxy.io/gatewayclass-controller"
def deployModeGatewayNamespace : String := "GatewayNamespace"
def envoyProxyGuardPolicyName : String := "envoyproxy-deploy-guard.gardener.cloud"
def dataPlaneNetworkPolicyName : String := "envoy-gateway-proxies"
def proxyEgressNetworkPolicyName : String := "envoy-gateway-proxies-egress"
def labelHop : String := "envoy-gateway.extensions.gardener.cloud/hop"
def dataPlaneDNSServicePort : Int32 := 53
def dataPlaneDNSServerPort : Int32 := 8053
def xdsPort : Int32 := 18000
def metadataNameLabel : String := "kubernetes.io/metadata.name"
def dataPlaneHTTPPort : Int32 := 10080
def dataPlaneHTTPSPort : Int32 := 10443
def dataPlaneReadyPort : Int32 := 19003
def clusterRoleName : String := "envoy-gateway"
def leaderElectionRoleName : String := "envoy-gateway-leader-election"
def logLevelInfo : String := "info"
def labelName : String := "app.kubernetes.io/name"
def labelInstance : String := "app.kubernetes.io/instance"
def labelComponent : String := "app.kubernetes.io/component"
def labelManagedBy : String := "app.kubernetes.io/managed-by"
def labelComponentValue : String := "gateway-controller"
def labelManagedByValue : String := "gardener"
def apiGroupRBAC : String := "rbac.authorization.k8s.io"
def apiGroupGatewayAPI : String := "gateway.networking.k8s.io"
def apiGroupEnvoyGateway : String := "gateway.envoyproxy.io"
def owningGatewayNameLabel : String := "gateway.envoyproxy.io/owning-gateway-name"
def owningGatewayNamespaceLabel : String := "gateway.envoyproxy.io/owning-gateway-namespace"
def labelValueAllowed : String := "allowed"
def netpolControllerName : String := "envoy-gateway-netpol-controller"
def netpolControllerShootAccessSecretName : String := "envoy-gateway-netpol"
def netpolControllerServiceAccountName : String := "envoy-gateway-netpol-controller"
def netpolControllerClusterRoleName : String := "envoy-gateway-netpol-controller"
def labelToAllShootsKubeAPIServer : String :=
  "networking.resources.gardener.cloud/to-all-shoots-kube-apiserver-tcp-443"
def labelToDNS : String := "networking.gardener.cloud/to-dns"
def labelToRuntimeAPIServer : String := "networking.gardener.cloud/to-runtime-apiserver"
def envoyProxyManagedByValue : String := "envoy-gateway"
def envoyProxyNameValue : String := "envoy"
def caSecretName : String := "ca-envoy-gateway"
def xdsServerCertSecretName : String := "envoy-gateway-xds"
def envoyClientCertSecretName : String := "envoy-client"
def tlsSecretName : String := "envoy-gateway"
def envoySecretName : String := "envoy"
def hmacSecretName : String := "envoy-oidc-hmac"
def hmacSecretKey : String := "hmac-secret"

inductive Hop
  | proxyIngress
  | proxyEgress
  deriving DecidableEq, Repr

def Hop.label : Hop → String
  | proxyIngress => "proxy-ingress"
  | proxyEgress => "proxy-egress"

def validLogLevels : List String := ["debug", logLevelInfo, "warn", "error"]

def validChannels : List String := ["standard", "experimental"]

end EnvoyGatewayExtension.EnvoyGateway
