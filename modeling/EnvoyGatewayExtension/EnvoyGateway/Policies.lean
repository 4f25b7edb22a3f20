import EnvoyGatewayExtension.EnvoyGateway.Constants

namespace EnvoyGatewayExtension.EnvoyGateway

open Kubernetes

def proxyPodSelector : LabelSelector where
  matchLabels :=
    .ofList [(labelManagedBy, envoyProxyManagedByValue), (labelName, envoyProxyNameValue)]

def managedLabels (name : String) (hop : Hop) : Labels :=
  .ofList [(labelManagedBy, labelManagedByValue), (labelName, name), (labelHop, hop.label)]

def managedDataPlanePolicy (labels : Labels) : Bool :=
  labels.lookup labelManagedBy == some labelManagedByValue && (labels.lookup labelHop).isSome

def ptrIntStr (port : Int32) : Option IntOrString := some (.int port)

def namespaceByName (name : String) : LabelSelector where
  matchLabels := .ofList [(metadataNameLabel, name)]

def dataPlaneProxyIngressPolicy (ns : String) : NetworkPolicy where
  name := dataPlaneNetworkPolicyName
  «namespace» := ns
  labels := managedLabels dataPlaneNetworkPolicyName .proxyIngress
  spec :=
    { podSelector := proxyPodSelector
      policyTypes := [.ingress]
      ingress := [{
        ports :=
          [⟨some .tcp, ptrIntStr dataPlaneHTTPPort⟩, ⟨some .tcp, ptrIntStr dataPlaneHTTPSPort⟩,
          ⟨some .tcp, ptrIntStr dataPlaneReadyPort⟩] }] }

def proxyEgressPolicy (gatewayNamespace : String) : NetworkPolicy where
  name := proxyEgressNetworkPolicyName
  «namespace» := gatewayNamespace
  labels := managedLabels proxyEgressNetworkPolicyName .proxyEgress
  spec :=
    { podSelector := proxyPodSelector
      policyTypes := [.egress]
      egress := [
        { peers := [{ namespaceSelector := some ⟨.ofList [], []⟩ }]
          ports := [⟨some .udp, ptrIntStr dataPlaneDNSServicePort⟩,
            ⟨some .tcp, ptrIntStr dataPlaneDNSServicePort⟩,
            ⟨some .udp, ptrIntStr dataPlaneDNSServerPort⟩,
            ⟨some .tcp, ptrIntStr dataPlaneDNSServerPort⟩] },
        { peers := [{
            namespaceSelector := some (namespaceByName «namespace»)
            podSelector :=
              some ⟨.ofList [(labelName, deploymentName), (labelInstance, deploymentName)], []⟩ }]
          ports := [⟨some .tcp, ptrIntStr xdsPort⟩] }] }

def policyFor (ns : String) : Hop → NetworkPolicy
  | .proxyIngress => dataPlaneProxyIngressPolicy ns
  | .proxyEgress => proxyEgressPolicy ns

def policyName : Hop → String
  | .proxyIngress => dataPlaneNetworkPolicyName
  | .proxyEgress => proxyEgressNetworkPolicyName

def policyKey (ns : String) (hop : Hop) : NamespacedName := ⟨ns, policyName hop⟩

@[simp] lemma policyFor_key (ns : String) (hop : Hop) :
    (policyFor ns hop).key = policyKey ns hop := by
  cases hop <;> rfl

@[simp] lemma policyFor_namespace (ns : String) (hop : Hop) :
    (policyFor ns hop).namespace = ns := by
  cases hop <;> rfl

lemma policyName_injective : Function.Injective policyName := by
  intro a b h
  cases a <;> cases b <;> first | rfl | exact absurd h (by decide)

lemma policyKey_eq_iff {ns ns' : String} {hop hop' : Hop} :
    policyKey ns hop = policyKey ns' hop' ↔ ns = ns' ∧ hop = hop' := by
  simp only [policyKey, NamespacedName.mk.injEq, policyName_injective.eq_iff]

lemma policyFor_labels (ns : String) (hop : Hop) :
    (policyFor ns hop).labels = managedLabels (policyName hop) hop := by
  cases hop <;> rfl

lemma managedLabels_managedBy (name : String) (hop : Hop) :
    (managedLabels name hop).lookup labelManagedBy = some labelManagedByValue := rfl

lemma managedLabels_hop (name : String) (hop : Hop) :
    (managedLabels name hop).lookup labelHop = some hop.label := rfl

end EnvoyGatewayExtension.EnvoyGateway
