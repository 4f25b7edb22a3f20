import EnvoyGatewayExtension.EnvoyGateway.Constants
import EnvoyGatewayExtension.Kubernetes.Manifests

namespace EnvoyGatewayExtension.EnvoyGateway

open Kubernetes Stores

abbrev Resources : Type := Store String (List Manifest)

/-- A document of a bundle as the decoder sees it; the schemas are left out. -/
structure Document where
  kind : String
  name : String
  group : String := ""
  namesKind : String := ""
  labels : Labels := .ofList []
  annotations : Labels := .ofList []

def apiExtensionsGroup : String := "apiextensions.k8s.io"

def crdKind : String := "CustomResourceDefinition"

def gatewayCRDKey : ObjectKey :=
  ⟨apiExtensionsGroup, crdKind, "", "gateways." ++ apiGroupGatewayAPI⟩

def gatewayAPIDocument (channel group plural kind : String) (labels : List (String × String)) :
    Document where
  kind := crdKind
  name := plural ++ "." ++ group
  group := group
  namesKind := kind
  labels := .ofList labels
  annotations := .ofList
    [("api-approved.kubernetes.io", "https://github.com/kubernetes-sigs/gateway-api/pull/4530"),
      ("gateway.networking.k8s.io/bundle-version", "v1.6.3"),
        ("gateway.networking.k8s.io/channel", channel)]

def directPolicyLabel : List (String × String) := [("gateway.networking.k8s.io/policy", "Direct")]

def gatewayAPIGroupDocuments (channel : String) : List Document :=
  [gatewayAPIDocument channel apiGroupGatewayAPI "backendtlspolicies" "BackendTLSPolicy"
    directPolicyLabel,
    gatewayAPIDocument channel apiGroupGatewayAPI "gatewayclasses" "GatewayClass" [],
    gatewayAPIDocument channel apiGroupGatewayAPI "gateways" "Gateway" [],
    gatewayAPIDocument channel apiGroupGatewayAPI "grpcroutes" "GRPCRoute" [],
    gatewayAPIDocument channel apiGroupGatewayAPI "httproutes" "HTTPRoute" [],
    gatewayAPIDocument channel apiGroupGatewayAPI "listenersets" "ListenerSet" [],
    gatewayAPIDocument channel apiGroupGatewayAPI "referencegrants" "ReferenceGrant" [],
    gatewayAPIDocument channel apiGroupGatewayAPI "tcproutes" "TCPRoute" [],
    gatewayAPIDocument channel apiGroupGatewayAPI "tlsroutes" "TLSRoute" [],
    gatewayAPIDocument channel apiGroupGatewayAPI "udproutes" "UDPRoute" []]

def safeUpgradesDocuments : List Document :=
  [{ kind := "ValidatingAdmissionPolicy", name := "safe-upgrades.gateway.networking.k8s.io" },
    { kind := "ValidatingAdmissionPolicyBinding"
      name := "safe-upgrades.gateway.networking.k8s.io" }]

def gatewayAPIStandardYAML : List Document :=
  { kind := "", name := "" } :: gatewayAPIGroupDocuments "standard" ++ safeUpgradesDocuments

def apiGroupGatewayAPIExperimental : String := "gateway.networking.x-k8s.io"

def gatewayAPIExperimentalYAML : List Document :=
  { kind := "", name := "" } :: gatewayAPIGroupDocuments "experimental" ++ safeUpgradesDocuments ++
    [gatewayAPIDocument "experimental" apiGroupGatewayAPIExperimental "xbackends" "XBackend" [],
      gatewayAPIDocument "experimental" apiGroupGatewayAPIExperimental "xbackendtrafficpolicies"
        "XBackendTrafficPolicy" directPolicyLabel,
      gatewayAPIDocument "experimental" apiGroupGatewayAPIExperimental "xmeshes" "XMesh" []]

def envoyGatewayDocument (plural kind : String) : Document where
  kind := crdKind
  name := plural ++ "." ++ apiGroupEnvoyGateway
  group := apiGroupEnvoyGateway
  namesKind := kind
  annotations := .ofList [("controller-gen.kubebuilder.io/version", "v0.20.1")]

def envoyGatewayCRDsYAML : List Document :=
  [envoyGatewayDocument "backends" "Backend",
    envoyGatewayDocument "backendtrafficpolicies" "BackendTrafficPolicy",
    envoyGatewayDocument "clienttrafficpolicies" "ClientTrafficPolicy",
    envoyGatewayDocument "envoyextensionpolicies" "EnvoyExtensionPolicy",
    envoyGatewayDocument "envoypatchpolicies" "EnvoyPatchPolicy",
    envoyGatewayDocument "envoyproxies" "EnvoyProxy",
    envoyGatewayDocument "httproutefilters" "HTTPRouteFilter",
    envoyGatewayDocument "securitypolicies" "SecurityPolicy"]

def Document.manifest (crd : Document) : Manifest where
  key := ⟨apiExtensionsGroup, crd.kind, "", crd.name⟩
  labels := crd.labels
  annotations := crd.annotations
  body := .customResourceDefinition crd.group crd.namesKind

def splitCRDs (raw : List Document) (stem : String) (keepGroups : Option (List String)) :
    Resources :=
  raw.foldl (fun result crd =>
    if crd.kind ≠ crdKind ∨ crd.name = "" then result
    else if keepGroups.any (fun groups => crd.group ∉ groups) then result
    else result.insert ("crd-" ++ stem ++ "-" ++ crd.name ++ ".yaml") [crd.manifest]) ∅

def copyResources (dst src : Resources) : Resources :=
  src.items.foldl (fun r e => r.insert e.1 e.2) dst

def addCRDs (experimentalFeatures : Bool) (resources : Resources) : Resources :=
  let resources := copyResources resources (splitCRDs gatewayAPIStandardYAML "gateway-api" none)
  let resources :=
    if experimentalFeatures then
      copyResources resources (splitCRDs gatewayAPIExperimentalYAML "gateway-api-experimental" none)
    else
      resources
  copyResources resources
    (splitCRDs envoyGatewayCRDsYAML "envoy-gateway" (some [apiGroupEnvoyGateway]))

end EnvoyGatewayExtension.EnvoyGateway
