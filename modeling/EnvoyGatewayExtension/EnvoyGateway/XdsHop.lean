import EnvoyGatewayExtension.EnvoyGateway.Deployer
import EnvoyGatewayExtension.EnvoyGateway.Policies
import EnvoyGatewayExtension.Kubernetes.NetworkPolicies

namespace EnvoyGatewayExtension.EnvoyGateway

open Kubernetes

/-- The API server labels each namespace with its name. -/
structure Namespaces where
  labels : String → Labels
  named : ∀ ns, (labels ns).lookup metadataNameLabel = some ns

variable {nss : Namespaces} {ns : String} {pod dst : Pod} {protocol : Protocol} {port : Int32}

def ProxyLabelled (labels : Labels) : Prop :=
  labels.lookup labelManagedBy = some envoyProxyManagedByValue ∧
    labels.lookup labelName = some envoyProxyNameValue

def ControlPlaneLabelled (labels : Labels) : Prop :=
  labels.lookup labelName = some deploymentName ∧ labels.lookup labelInstance = some deploymentName

lemma proxyPodSelector_matches {labels : Labels} : proxyPodSelector.Matches labels ↔
      ProxyLabelled labels := by
  refine (matches_ofList (by decide)).trans ?_
  simp [ProxyLabelled]

lemma controlPlaneSelector_matches {labels : Labels} :
    LabelSelector.Matches ⟨controlPlaneSelector, []⟩ labels ↔ ControlPlaneLabelled labels := by
  refine (matches_ofList (by decide)).trans ?_
  simp [ControlPlaneLabelled]

lemma not_controlPlane_of_proxy {labels : Labels} (h : ProxyLabelled labels) :
    ¬ ControlPlaneLabelled labels := by
  intro hc
  have hname := h.2.symm.trans hc.1
  exact absurd (Option.some.inj hname) (by decide)

lemma everything_matches {labels : Labels} : LabelSelector.Matches ⟨.ofList [], []⟩ labels :=
  (matches_ofList (by decide)).mpr (by simp)

lemma namespaceByName_matches {name : String} :
    (namespaceByName name).Matches (nss.labels ns) ↔ ns = name := by
  refine (matches_ofList (by simp)).trans ?_
  simp [nss.named ns]

lemma deployment_creates {lib : Libraries} {config : Config} {m : Manifest}
    (hm : deployment lib config = .ok m)
    (hc : m.Creates pod) : pod.namespace = «namespace» ∧ ControlPlaneLabelled pod.labels := by
  obtain ⟨image, _, hd⟩ := bind_eq_ok.mp hm
  cases hd
  obtain ⟨hns, hlabels⟩ := hc
  exact ⟨hns, hlabels _ _ rfl, hlabels _ _ rfl⟩

lemma proxyEgressPolicy_allows : (proxyEgressPolicy ns).AllowsEgress nss.labels dst protocol port ↔
    (protocol = .udp ∨ protocol = .tcp) ∧ (port = 53 ∨ port = 8053) ∨
      protocol = .tcp ∧ port = 18000 ∧ dst.namespace = «namespace» ∧
      ControlPlaneLabelled dst.labels := by
  have hcontrol : LabelSelector.Matches
      ⟨.ofList [(labelName, deploymentName), (labelInstance, deploymentName)], []⟩
      dst.labels ↔ ControlPlaneLabelled dst.labels := controlPlaneSelector_matches
  simp only [NetworkPolicy.AllowsEgress, proxyEgressPolicy, List.mem_cons,
    List.not_mem_nil, or_false,
    exists_eq_or_imp, exists_eq_left, allows_iff, matches_both, matches_namespaces,
      everything_matches, true_and,
    namespaceByName_matches, ptrIntStr, matches_port, hcontrol, dataPlaneDNSServicePort,
      dataPlaneDNSServerPort, xdsPort]
  tauto

lemma networkPolicy_governs {np : NetworkPolicy} (hnp : networkPolicy.networkPolicy = some np)
    (hns : pod.namespace = «namespace») (hlabels : ControlPlaneLabelled pod.labels) :
    np.Governs .ingress pod := by
  cases hnp
  exact ⟨hns, controlPlaneSelector_matches.mpr hlabels, List.mem_singleton.mpr rfl⟩

lemma networkPolicy_allows {np : NetworkPolicy} (hnp : networkPolicy.networkPolicy = some np)
    (hlabels : ProxyLabelled pod.labels) : np.AllowsIngress nss.labels pod dst .tcp xdsPort := by
  cases hnp
  refine ⟨_, List.mem_singleton.mpr rfl,
    allows_iff.mpr ⟨matches_both.mpr ⟨everything_matches, ?_⟩, ?_⟩⟩
  · exact proxyPodSelector_matches.mpr hlabels
  · exact ⟨_, List.mem_cons_self, matches_port.mpr ⟨rfl, rfl⟩⟩

theorem xds_hop_open_on_both_sides (nss : Namespaces) (lib : Libraries) (config : Config)
    (m : Manifest)
    (hm : deployment lib config = .ok m) (ns : String) (p c : Pod) (hp : p.namespace = ns)
    (hlabels : ProxyLabelled p.labels) (hc : m.Creates c) :
    ((proxyEgressPolicy ns).Governs .egress p ∧
      (proxyEgressPolicy ns).AllowsEgress nss.labels c .tcp xdsPort) ∧
    (∃ np, networkPolicy.networkPolicy = some np ∧ np.Governs .ingress c ∧
      np.AllowsIngress nss.labels p c .tcp xdsPort) ∧
    (∀ dst protocol port, (proxyEgressPolicy ns).AllowsEgress nss.labels dst protocol port ↔
      (protocol = .udp ∨ protocol = .tcp) ∧ (port = 53 ∨ port = 8053) ∨
        protocol = .tcp ∧ port = 18000 ∧ dst.namespace = «namespace» ∧
          ControlPlaneLabelled dst.labels) ∧
    ∀ pod, ¬ ProxyLabelled pod.labels → ∀ hop direction,
      ¬ (policyFor ns hop).Governs direction pod := by
  obtain ⟨hcns, hclabels⟩ := deployment_creates hm hc
  refine ⟨⟨?_, ?_⟩, ?_, fun _ _ _ => proxyEgressPolicy_allows, ?_⟩
  · exact ⟨hp, proxyPodSelector_matches.mpr hlabels, List.mem_singleton.mpr rfl⟩
  · exact proxyEgressPolicy_allows.mpr (Or.inr ⟨rfl, rfl, hcns, hclabels⟩)
  · exact ⟨_, rfl, networkPolicy_governs rfl hcns hclabels, networkPolicy_allows rfl hlabels⟩
  · intro pod hunlabelled hop direction hgoverns
    have hsel : (policyFor ns hop).spec.podSelector = proxyPodSelector := by
      cases hop <;> rfl
    have hpods := hgoverns.pods
    rw [hsel] at hpods
    exact hunlabelled (proxyPodSelector_matches.mp hpods)

def plainNamespaces : Namespaces where
  labels := fun ns => .ofList [(metadataNameLabel, ns)]
  named := fun _ => (Labels.lookup_ofList (by simp)).mpr (by simp)

def proxyPod : Pod where
  «namespace» := "shop"
  labels := .ofList [(labelManagedBy, "envoy-gateway"), (labelName, "envoy"), ("app", "shop")]

def controlPlanePod : Pod where
  «namespace» := "kube-system"
  labels := podNetworkLabels ∪ commonLabels

theorem xds_hop_open_sampled : ∃ m, deployment (sampleLibraries {}) {} = .ok m ∧
      m.Creates controlPlanePod ∧
    (proxyEgressPolicy "shop").AllowsEgress plainNamespaces.labels controlPlanePod .tcp 18000 ∧
    ¬ (proxyEgressPolicy "shop").AllowsEgress plainNamespaces.labels controlPlanePod .tcp 443 := by
  have hcreated : ∃ m, deployment (sampleLibraries {}) {} = .ok m ∧ m.Creates controlPlanePod :=
    ⟨_, rfl, rfl, fun _ _ h => h⟩
  obtain ⟨m, hm, hcreates⟩ := hcreated
  have hop := xds_hop_open_on_both_sides plainNamespaces (sampleLibraries {}) {} m hm "shop"
    proxyPod controlPlanePod rfl ⟨rfl, rfl⟩ hcreates
  refine ⟨m, hm, hcreates, hop.1.2, fun h => ?_⟩
  rcases (hop.2.2.1 _ _ _).mp h with ⟨_, hport⟩ | ⟨_, hport, _⟩
  · revert hport
    decide
  · revert hport
    decide

end EnvoyGatewayExtension.EnvoyGateway
